import AtlasOS.Agent.Codec.Payload
import AtlasOS.Lib.Runtime

/-!
# Snapshots round trip

An aggregate that is accepted for writing is read back as its normal form: the
environment values of its checks are redacted, and the requests that have the
form of those of older versions carry the purpose of a workflow shell. The
normal form is valid again and is read back unchanged.
-/

namespace AtlasOS.Agent

variable {py : Python} {Ctx : Type} {ctx : ContextModel Ctx}

namespace Aggregate

/-- The validation and the encoding of `_commit_candidates` succeed. -/
structure Accepted (ctx : ContextModel Ctx) (a : Aggregate py Ctx) (payload : Fields) : Prop where
  valid : a.validateAggregate = .ok ()
  encoded : encodePayload ctx a = .ok payload

/-- What the round trip of an aggregate is expected to be: it is read back redacted, valid
and with the same payload. -/
def RoundTrips (ctx : ContextModel Ctx) (a : Aggregate py Ctx) (payload : Fields) : Prop :=
  decodePayload ctx payload = .ok a.redact ∧ a.redact.validateAggregate = .ok () ∧
    encodePayload ctx a.redact = .ok payload

/-- Whether the candidate workflows that wait for their shell carry no other approval. -/
def ShellsOnly (a : Aggregate py Ctx) : Prop :=
  ∀ id s, a.sessions.get id = some s → s.source = .candidate → s.state = .awaitingApproval →
    s.candidate_implementation_approval_id = .null

end Aggregate

/-! ## Requests of a valid aggregate -/

theorem validateApproval_eq_ok {a : Aggregate py Ctx} {id : String} {r : ApprovalResult} :
    a.validateApproval id r = .ok () ↔
      id = r.request.identifier ∧ validateApprovalRequest r.request = .ok () ∧
        (r.request.workflow_id ≠ .null →
          ∃ s, lookupUnchecked a.sessions r.request.workflow_id = .ok (some s)) := by
  simp only [Aggregate.validateApproval, ApprovalResult.request, decide_true, check_bind_eq_ok,
    require_eq_ok, decide_eq_true_eq, true_and]
  split
  · next hnull => simp [hnull]
  · next hnull =>
    simp only [bind_eq_ok, require_eq_ok, Option.isSome_iff_exists, ne_eq, hnull,
      not_false_eq_true, true_implies]
    constructor
    · rintro ⟨hid, hrequest, found, hfound, s, rfl⟩
      exact ⟨hid, hrequest, s, hfound⟩
    · rintro ⟨hid, hrequest, s, hfound⟩
      exact ⟨hid, hrequest, some s, hfound, s, rfl⟩

/-- A valid request of a built approval is accepted by the decoder. -/
theorem readable_of_validate {r : ApprovalRequest} (hbuilt : r.Built)
    (h : validateApprovalRequest r = .ok ()) : r.Readable := by
  simp only [validateApprovalRequest, check_bind_eq_ok, forM_eq_ok] at h
  obtain ⟨hcommit, -, hchecks⟩ := h
  refine ⟨hchecks, fun m hm => ?_, hbuilt⟩
  rw [Option.mem_def] at hm
  unfold validateCommitMetadata at hcommit
  split at hcommit
  · simpa [hm] using hcommit
  · simp [hm] at hcommit

namespace Aggregate

theorem readable_of_valid {a : Aggregate py Ctx} (h : a.validateAggregate = .ok ()) :
    a.Readable := by
  intro id r hr
  have hvalid := (validateAggregate_eq_ok.mp h).2 id r hr
  exact readable_of_validate r.built (validateApproval_eq_ok.mp hvalid).2.1

end Aggregate

/-- Rewriting a request keeps it valid. -/
theorem validateApprovalRequest_rewriteShell (identifiers : List String) (r : ApprovalRequest) :
    validateApprovalRequest (r.rewriteShell identifiers) = validateApprovalRequest r := by
  unfold ApprovalRequest.rewriteShell
  split
  · next hlegacy =>
    simp [validateApprovalRequest, validateCommitMetadata, validateOperationalMetadata, hlegacy.1]
  · rfl

/-! ## Validity of the normal form -/

/-- Changing the values of a dictionary does not change what is found in it. -/
theorem exists_lookupUnchecked_mapEntries {α β : Type} {f : String → α → β} {d : Dict α}
    {key : Unchecked} :
    (∃ b, lookupUnchecked (d.mapEntries f) key = .ok (some b)) ↔
      ∃ a, lookupUnchecked d key = .ok (some a) := by
  cases key with
  | str key =>
    simp only [lookupUnchecked, Dict.get_mapEntries, Except.ok.injEq, ← Option.isSome_iff_exists,
      Option.isSome_map]
  | null | bool | int | float | arr | obj => simp [lookupUnchecked]

namespace Aggregate

/-- Two aggregates with the same approvals validate a session alike. -/
theorem validateSession_redact (a : Aggregate py Ctx) (id : String) (s : WorkflowSession Ctx) :
    a.redact.validateSession id (s.redact py) = a.validateSession id s := rfl

/-- Redacting keeps an aggregate valid. -/
theorem validate_redact {a : Aggregate py Ctx} (h : a.validateAggregate = .ok ()) :
    a.redact.validateAggregate = .ok () := by
  obtain ⟨hsessions, happrovals⟩ := validateAggregate_eq_ok.mp h
  refine validateAggregate_eq_ok.mpr ⟨fun id s hs => ?_, fun id r hr => ?_⟩
  · rw [redact, Dict.get_mapValues, Option.map_eq_some_iff] at hs
    obtain ⟨s, hs, rfl⟩ := hs
    exact (validateSession_redact a id s.toWorkflowSession).trans (hsessions id s hs)
  · obtain ⟨hid, hrequest, hworkflow⟩ := validateApproval_eq_ok.mp (happrovals id r hr)
    exact validateApproval_eq_ok.mpr
      ⟨hid, hrequest, fun hne =>
        exists_lookupUnchecked_mapEntries.mpr (hworkflow hne)⟩

/-- The lookups of the normal form. -/
theorem get_approvals_normalize (a : Aggregate py Ctx) (id : String) :
    a.normalize.approvals.get id =
      (a.approvals.get id).map (Approval.rewriteShell (legacyShellWorkflowIds a.sessions)) := by
  simp [normalize]

/-- The normal form of an aggregate with no request of the older form is its redaction. -/
theorem normalize_eq_redact {a : Aggregate py Ctx} (h : a.NoLegacyShell) :
    a.normalize = a.redact := by
  rw [normalize, Dict.mapValues_eq_self]
  · rfl
  · intro id r hr
    exact Approval.ext (ApprovalResult.rewriteShell_eq_self.mpr (h id r hr))

/-- The approval that a session waits for is rewritten in the normal form. -/
theorem waitingApproval_normalize {a : Aggregate py Ctx} {s : WorkflowSession Ctx}
    {purpose : ApprovalPurpose} {r : Approval} (h : a.waitingApproval s purpose = .ok (some r)) :
    a.normalize.waitingApproval s purpose =
      .ok (some (r.rewriteShell (legacyShellWorkflowIds a.sessions))) := by
  simp only [waitingApproval, bind_eq_ok] at h ⊢
  obtain ⟨found, hfound, hrest⟩ := h
  refine ⟨found.map (Approval.rewriteShell (legacyShellWorkflowIds a.sessions)), ?_, ?_⟩
  · cases hkey : s.waitingApprovalId purpose with
    | str key =>
      rw [hkey] at hfound
      simp only [lookupUnchecked, Except.ok.injEq] at hfound ⊢
      rw [get_approvals_normalize, hfound]
    | null | bool | int | float =>
      rw [hkey] at hfound
      simp only [lookupUnchecked, Except.ok.injEq] at hfound ⊢
      rw [← hfound, Option.map_none]
    | arr | obj =>
      rw [hkey] at hfound
      cases hfound
  · rw [Option.isNone_map]
    split at hrest
    · next hfallback =>
      rw [if_pos hfallback]
      rw [pure_eq_ok, Except.ok.injEq] at hrest ⊢
      rw [get_approvals_normalize, hrest, Option.map_some]
    · next hfallback =>
      rw [if_neg hfallback]
      rw [pure_eq_ok, Except.ok.injEq] at hrest ⊢
      rw [hrest, Option.map_some]

/-- A session waits for a stored approval of the right workflow and purpose. -/
theorem validateWaiting_eq_ok {a : Aggregate py Ctx} {s : WorkflowSession Ctx}
    {purpose : ApprovalPurpose} :
    a.validateWaiting s purpose = .ok () ↔
      ∃ r, a.waitingApproval s purpose = .ok (some r) ∧
        r.request.workflow_id = .str s.identifier ∧ r.request.purpose = purpose ∧
        validateMatch py purpose r.request s = .ok () := by
  simp only [validateWaiting, bind_eq_ok, expect_eq_ok, exists_unit, require_eq_ok,
    Bool.and_eq_true, decide_eq_true_eq, and_assoc]
  constructor
  · rintro ⟨_, hfound, r, rfl, hrest⟩
    exact ⟨r, hfound, hrest⟩
  · rintro ⟨r, hfound, hrest⟩
    exact ⟨some r, hfound, r, rfl, hrest⟩

/-- A session that waits for an approval that is kept waits for it in the normal form. -/
theorem validateWaiting_normalize {a : Aggregate py Ctx} {s : WorkflowSession Ctx}
    {purpose : ApprovalPurpose} (h : a.validateWaiting s purpose = .ok ())
    (hkept : ∀ r : ApprovalRequest, r.workflow_id = .str s.identifier → r.purpose = purpose →
      ¬r.LegacyShell (legacyShellWorkflowIds a.sessions)) :
    a.normalize.validateWaiting s purpose = .ok () := by
  obtain ⟨r, hfound, hworkflow, hpurpose, hmatch⟩ := validateWaiting_eq_ok.mp h
  have hsame : r.rewriteShell (legacyShellWorkflowIds a.sessions) = r :=
    Approval.ext (ApprovalResult.rewriteShell_eq_self.mpr (hkept _ hworkflow hpurpose))
  refine validateWaiting_eq_ok.mpr ⟨r, ?_, hworkflow, hpurpose, hmatch⟩
  rw [waitingApproval_normalize hfound, hsame]

/-- The purpose that a candidate workflow waits for before its shell is approved. -/
theorem waitingPurpose_shell {a : Aggregate py Ctx} {s : WorkflowSession Ctx}
    (hstate : s.state = .awaitingApproval) (hsource : s.source = .candidate) :
    a.waitingPurpose s =
      if (a.approvals.get ("approval-" ++ s.identifier)).any
          (fun shell => shell.request.purpose = .candidateWorkflowShell) then
        some .candidateWorkflowShell
      else some .implementation := by
  simp [waitingPurpose, hstate, hsource, WAITING_PURPOSES]

/-- The purpose that any other workflow waits for does not depend on the approvals. -/
theorem waitingPurpose_other {a : Aggregate py Ctx} {s : WorkflowSession Ctx}
    (hother : ¬(s.state = .awaitingApproval ∧ s.source = .candidate)) :
    a.waitingPurpose s =
      if s.state = .awaitingImplementationApproval ∧ s.effect_kind = .operationalAction then
        some .operationalAction
      else WAITING_PURPOSES s.state :=
  if_neg fun hshell => hother ⟨hshell.1, hshell.2.1⟩

/-- Rewriting a request that a shell waits for leaves it one. -/
theorem purpose_rewriteShell {identifiers : List String} {r : ApprovalRequest}
    (h : r.purpose = .candidateWorkflowShell ∨ r.purpose = .implementation) :
    (r.rewriteShell identifiers).purpose = .candidateWorkflowShell ∨
      (r.rewriteShell identifiers).purpose = .implementation := by
  unfold ApprovalRequest.rewriteShell
  split
  · exact .inl rfl
  · exact h

/-- A session without another approval looks up the identifier of the shell. -/
theorem waitingApproval_shell {a : Aggregate py Ctx} {s : WorkflowSession Ctx}
    {purpose : ApprovalPurpose} (honly : s.candidate_implementation_approval_id = .null)
    (hpurpose : purpose = .candidateWorkflowShell ∨ purpose = .implementation) :
    a.waitingApproval s purpose = .ok (a.approvals.get ("approval-" ++ s.identifier)) := by
  have hid : s.waitingApprovalId purpose = .str ("approval-" ++ s.identifier) := by
    have hoperational : ¬(purpose = .operationalAction ∧
        s.operational_action_approval_id ≠ .null) := by
      rcases hpurpose with rfl | rfl <;> simp
    rw [WorkflowSession.waitingApprovalId, if_neg hoperational,
      if_neg fun h => h.2.2 honly]
    rcases hpurpose with rfl | rfl <;> rfl
  rw [waitingApproval, hid, lookupUnchecked, ok_bind]
  split <;> rfl

/-- Before its shell is approved, a candidate workflow without another approval waits for the
approval under the identifier of the shell. -/
theorem validateSession_shell {a : Aggregate py Ctx} {id : String} {s : WorkflowSession Ctx}
    (hstate : s.state = .awaitingApproval) (hsource : s.source = .candidate)
    (honly : s.candidate_implementation_approval_id = .null) :
    a.validateSession id s = .ok () ↔
      id = s.identifier ∧ ∃ r, a.approvals.get ("approval-" ++ s.identifier) = some r ∧
        r.request.workflow_id = .str s.identifier ∧
        (r.request.purpose = .candidateWorkflowShell ∨ r.request.purpose = .implementation) := by
  have hwait (purpose : ApprovalPurpose)
      (hpurpose : purpose = .candidateWorkflowShell ∨ purpose = .implementation) :
      a.validateWaiting s purpose = .ok () ↔
        ∃ r, a.approvals.get ("approval-" ++ s.identifier) = some r ∧
          r.request.workflow_id = .str s.identifier ∧ r.request.purpose = purpose := by
    have hmatch (r : ApprovalRequest) : validateMatch py purpose r s = .ok () := by
      rcases hpurpose with rfl | rfl <;> rfl
    simp only [validateWaiting_eq_ok, waitingApproval_shell honly hpurpose, Except.ok.injEq,
      hmatch, and_true]
  simp only [validateSession, check_bind_eq_ok, require_eq_ok, decide_eq_true_eq,
    waitingPurpose_shell hstate hsource]
  refine and_congr_right fun _ => ?_
  cases hshell : a.approvals.get ("approval-" ++ s.identifier) with
  | none => simp [hwait, hshell]
  | some r =>
    by_cases hpurpose : r.request.purpose = .candidateWorkflowShell <;>
      simp [hwait, hshell, hpurpose]

/-- A workflow that waits for something else still does so in the normal form. -/
theorem validateSession_other {a : Aggregate py Ctx} {id : String} {s : Session py Ctx}
    (hs : a.sessions.get id = some s) (h : a.validateSession id s.toWorkflowSession = .ok ())
    (hother : ¬(s.state = .awaitingApproval ∧ s.source = .candidate)) :
    a.normalize.validateSession id s.toWorkflowSession = .ok () := by
  simp only [validateSession, check_bind_eq_ok, require_eq_ok, decide_eq_true_eq,
    waitingPurpose_other hother] at h ⊢
  obtain ⟨rfl, h⟩ := h
  refine ⟨rfl, ?_⟩
  split at h
  · rfl
  · next purpose hpurpose =>
    refine validateWaiting_normalize h fun r hworkflow _ hlegacy => ?_
    obtain ⟨-, -, id, hid, hsame⟩ := hlegacy
    rw [hworkflow, Json.str.injEq] at hsame
    obtain ⟨s', hs', hsource, hstate⟩ := mem_legacyShellWorkflowIds.mp hid
    rw [← hsame, hs] at hs'
    cases hs'
    exact hother ⟨hstate, hsource⟩

/-- A session stays valid in the normal form. -/
theorem validateSession_normalize {a : Aggregate py Ctx} {id : String} {s : Session py Ctx}
    (hs : a.sessions.get id = some s) (h : a.validateSession id s.toWorkflowSession = .ok ())
    (hkept : a.NoLegacyShell ∨ a.ShellsOnly) :
    a.normalize.validateSession id s.toWorkflowSession = .ok () := by
  by_cases hshell : s.state = .awaitingApproval ∧ s.source = .candidate
  · rcases hkept with hkept | hkept
    · rw [normalize_eq_redact hkept]
      exact h
    · have honly := hkept id s hs hshell.2 hshell.1
      obtain ⟨hid, r, hr, hworkflow, hpurpose⟩ :=
        (validateSession_shell hshell.1 hshell.2 honly).mp h
      refine (validateSession_shell hshell.1 hshell.2 honly).mpr
        ⟨hid, r.rewriteShell (legacyShellWorkflowIds a.sessions), ?_, ?_, ?_⟩
      · rw [get_approvals_normalize, hr, Option.map_some]
      · exact (congrArg ApprovalRequest.workflow_id (r.request.rewriteShell_eq _)).trans hworkflow
      · exact purpose_rewriteShell hpurpose
  · exact validateSession_other hs h hshell

/-- The normal form of a valid aggregate is valid. -/
theorem validate_normalize {a : Aggregate py Ctx} (h : a.validateAggregate = .ok ())
    (hkept : a.NoLegacyShell ∨ a.ShellsOnly) : a.normalize.validateAggregate = .ok () := by
  obtain ⟨hsessions, happrovals⟩ := validateAggregate_eq_ok.mp h
  refine validateAggregate_eq_ok.mpr ⟨fun id s hs => ?_, fun id r hr => ?_⟩
  · rw [normalize, redact, Dict.get_mapValues, Option.map_eq_some_iff] at hs
    obtain ⟨s, hs, rfl⟩ := hs
    have hsession := validateSession_normalize hs (hsessions id s hs) hkept
    exact hsession
  · rw [get_approvals_normalize, Option.map_eq_some_iff] at hr
    obtain ⟨r, hr, rfl⟩ := hr
    obtain ⟨hid, hrequest, hworkflow⟩ := validateApproval_eq_ok.mp (happrovals id r hr)
    have hrewrite := r.request.rewriteShell_eq (legacyShellWorkflowIds a.sessions)
    refine validateApproval_eq_ok.mpr ⟨?_, ?_, fun hne => ?_⟩
    · exact hid.trans (congrArg ApprovalRequest.identifier hrewrite).symm
    · exact (validateApprovalRequest_rewriteShell _ _).trans hrequest
    · have hsame := congrArg ApprovalRequest.workflow_id hrewrite
      obtain ⟨s, hs⟩ := exists_lookupUnchecked_mapEntries (f := fun _ => Session.redact).mpr
        (hworkflow fun hnull => hne (hsame.trans hnull))
      exact ⟨s, (congrArg (lookupUnchecked _) hsame).trans hs⟩

/-- An aggregate that was read is its own normal form. -/
theorem Decoded.normalize {a : Aggregate py Ctx} (h : a.Decoded) : a.normalize = a := by
  rw [normalize_eq_redact h.shells, h.redacted]

/-- An aggregate that was read is written and read back unchanged. -/
theorem Decoded.decode_encode {a : Aggregate py Ctx} (h : a.Decoded) (ctx : ContextModel Ctx) :
    encodePayload ctx a = .ok (payloadFields ctx a) ∧
      decodePayload ctx (payloadFields ctx a) = .ok a := by
  refine ⟨encodePayload_eq_ok.mpr ⟨h.encodes, rfl⟩, ?_⟩
  rw [decode_payloadFields h.clean h.readable h.encodes, h.normalize]

/-- Redacting an aggregate does not change its payload. -/
theorem payloadFields_redact (a : Aggregate py Ctx) :
    payloadFields ctx a.redact = payloadFields ctx a := by
  have hsessions : tableFields (fun s : Session py Ctx =>
      encodeWorkflowSession py ctx s.toWorkflowSession) a.redact.sessions =
        tableFields (fun s : Session py Ctx =>
          encodeWorkflowSession py ctx s.toWorkflowSession) a.sessions := by
    rw [tableFields, tableFields, redact, Dict.items_mapValues, List.map_map]
    refine List.map_congr_left fun entry _ => ?_
    exact congrArg (fun fields => (entry.1, Json.obj fields))
      (WorkflowSession.encode_redact entry.2.toWorkflowSession)
  simp only [payloadFields, hsessions]
  rfl

theorem Accepted.decode {a : Aggregate py Ctx} {payload : Fields} (h : a.Accepted ctx payload)
    (hclean : a.WellDigested) : decodePayload ctx payload = .ok a.normalize := by
  obtain ⟨hcheck, rfl⟩ := encodePayload_eq_ok.mp h.encoded
  exact decode_payloadFields hclean (readable_of_valid h.valid) hcheck

/-- An accepted aggregate without requests of the older form round trips as expected. -/
theorem Accepted.roundTrips {a : Aggregate py Ctx} {payload : Fields} (h : a.Accepted ctx payload)
    (hclean : a.WellDigested) (hshells : a.NoLegacyShell) : a.RoundTrips ctx payload := by
  have hdecode := h.decode hclean
  have hencode := (decodePayload_spec hdecode).decode_encode ctx
  rw [normalize_eq_redact hshells] at hdecode hencode
  refine ⟨hdecode, validate_redact h.valid, ?_⟩
  rw [hencode.1, payloadFields_redact, (encodePayload_eq_ok.mp h.encoded).2]

/-- An accepted aggregate is read back as its redaction exactly when its digests are well
formed and it has no request of the older form. -/
theorem Accepted.decode_redact_iff {a : Aggregate py Ctx} {payload : Fields}
    (h : a.Accepted ctx payload) :
    decodePayload ctx payload = .ok a.redact ↔ a.WellDigested ∧ a.NoLegacyShell := by
  refine ⟨fun hdecode => ?_, fun ⟨hclean, hshells⟩ => (h.roundTrips hclean hshells).1⟩
  have hspec := decodePayload_spec hdecode
  refine ⟨fun id s hs => ?_, fun id r hr hlegacy => ?_⟩
  · have hredact : a.redact.sessions.get id = some s.redact := by
      rw [redact, Dict.get_mapValues, hs, Option.map_some]
    exact (WorkflowSession.wellDigested_redact _).mp (hspec.clean id _ hredact)
  · refine hspec.shells id r hr ?_
    rw [legacyShellWorkflowIds_redact]
    exact hlegacy

end Aggregate

/-! ## Aggregates that do not round trip -/

/-- A candidate workflow that waits for its shell to be approved. -/
def shellSession : Session .plain Fields where
  identifier := "w"
  request := none
  plan := none
  state := .awaitingApproval
  effect_kind := .repositoryChange
  source := .candidate
  built := ⟨by simp, rfl⟩

/-- The request for a shell as older versions wrote it. -/
def legacyRequest : Request where
  identifier := "approval-w"
  checkpoint_id := "checkpoint"
  title := "Implement"
  requested_tool := "codex"
  requested_command := []
  rationale := "candidate"
  workflow_id := .str "w"
  built := ApprovalRequest.built_of_none rfl

/-- A workflow that waits for a shell with a request of the older form. -/
def legacyAggregate : Aggregate .plain Fields :=
  { Aggregate.empty .plain Fields with
    sessions := Dict.set ∅ "w" shellSession
    approvals := Dict.set ∅ "approval-w" (.pending legacyRequest) }

/-- A planned workflow whose check has an environment value with a malformed digest. -/
def undigestedSession : Session .plain Fields where
  identifier := "w"
  request := some
    { checkpoint := ⟨"checkpoint", "Title", "Goal", [], [], [], []⟩
      repository_root := .ofString "/repository"
      execution_identifier := "execution"
      execution_argv := []
      execution_workdir := .ofString "/repository"
      verification_checks :=
        [{ identifier := "check", argv := [], working_directory := .ofString "/repository"
           environment := [{ name := "TOKEN", value := "", value_digest := some "digest" }] }]
      review_identifier := "review" }
  plan := none
  state := .planned
  effect_kind := .repositoryChange
  built := ⟨by simp, rfl⟩

/-- The aggregate with that workflow. -/
def undigestedAggregate : Aggregate .plain Fields :=
  { Aggregate.empty .plain Fields with sessions := Dict.set ∅ "w" undigestedSession }

theorem legacyAggregate_accepted :
    legacyAggregate.Accepted .fields (payloadFields .fields legacyAggregate) := by
  constructor
  · refine Aggregate.validateAggregate_eq_ok.mpr ⟨fun id s hs => ?_, fun id r hr => ?_⟩
    · obtain ⟨rfl, rfl⟩ := Dict.get_set_empty.mp hs
      refine (Aggregate.validateSession_shell rfl rfl rfl).mpr
        ⟨rfl, .pending legacyRequest, ?_, rfl, .inr rfl⟩
      exact Dict.get_set_self _ _ _
    · obtain ⟨rfl, rfl⟩ := Dict.get_set_empty.mp hr
      refine validateApproval_eq_ok.mpr ⟨rfl, rfl, fun _ => ⟨shellSession, ?_⟩⟩
      exact congrArg Except.ok (Dict.get_set_self _ _ _)
  · refine encodePayload_eq_ok.mpr ⟨fun id s hs => ?_, rfl⟩
    obtain ⟨rfl, rfl⟩ := Dict.get_set_empty.mp hs
    rfl

theorem undigestedAggregate_accepted :
    undigestedAggregate.Accepted .fields (payloadFields .fields undigestedAggregate) := by
  constructor
  · refine Aggregate.validateAggregate_eq_ok.mpr ⟨fun id s hs => ?_, fun id r hr => ?_⟩
    · obtain ⟨rfl, rfl⟩ := Dict.get_set_empty.mp hs
      rfl
    · exact absurd hr (by simp [undigestedAggregate, Aggregate.empty])
  · refine encodePayload_eq_ok.mpr ⟨fun id s hs => ?_, rfl⟩
    obtain ⟨rfl, rfl⟩ := Dict.get_set_empty.mp hs
    rfl

/-- An accepted request of the older form and an accepted malformed digest each break the
round trip. -/
theorem not_all_accepted_roundTrip :
    (legacyAggregate.Accepted .fields (payloadFields .fields legacyAggregate) ∧
        ¬legacyAggregate.RoundTrips .fields (payloadFields .fields legacyAggregate)) ∧
      undigestedAggregate.Accepted .fields (payloadFields .fields undigestedAggregate) ∧
        ¬undigestedAggregate.RoundTrips .fields (payloadFields .fields undigestedAggregate) := by
  refine ⟨⟨legacyAggregate_accepted, fun h => ?_⟩, undigestedAggregate_accepted, fun h => ?_⟩
  · obtain ⟨-, hshells⟩ := legacyAggregate_accepted.decode_redact_iff.mp h.1
    refine hshells "approval-w" _ (Dict.get_set_self _ _ _) ⟨rfl, rfl, "w", ?_, rfl⟩
    exact mem_legacyShellWorkflowIds.mpr ⟨shellSession, Dict.get_set_self _ _ _, rfl, rfl⟩
  · obtain ⟨hclean, -⟩ := undigestedAggregate_accepted.decode_redact_iff.mp h.1
    have hrequest := (hclean "w" _ (Dict.get_set_self _ _ _)).request _ rfl
    have hdigest : isHexDigest "digest" = true :=
      hrequest _ (List.mem_singleton_self _) _ (List.mem_singleton_self _)
    exact absurd hdigest (by decide)

/-! ## The round trip -/

/-- An accepted aggregate whose digests are well formed is read back as its normal form, which
is valid, encodes again and is read back unchanged; without requests of the older form it is
the redaction of the aggregate and encodes to the same payload. -/
theorem payload_round_trip {a : Aggregate py Ctx} {payload : Fields}
    (haccepted : a.Accepted ctx payload) (hclean : a.WellDigested) :
    decodePayload ctx payload = .ok a.normalize ∧
      (a.NoLegacyShell → a.normalize = a.redact ∧ a.RoundTrips ctx payload) ∧
      (a.ShellsOnly → a.normalize.validateAggregate = .ok ()) ∧
      encodePayload ctx a.normalize = .ok (payloadFields ctx a.normalize) ∧
      decodePayload ctx (payloadFields ctx a.normalize) = .ok a.normalize := by
  have hdecode := haccepted.decode hclean
  refine ⟨hdecode, fun hshells => ⟨Aggregate.normalize_eq_redact hshells,
    haccepted.roundTrips hclean hshells⟩, fun honly =>
      Aggregate.validate_normalize haccepted.valid (.inr honly), ?_⟩
  exact (decodePayload_spec hdecode).decode_encode ctx

theorem payload_round_trip_legacy :
    decodePayload .fields (payloadFields .fields legacyAggregate) =
        .ok legacyAggregate.normalize ∧
      legacyAggregate.normalize.validateAggregate = .ok () := by
  have hclean : legacyAggregate.WellDigested := by
    intro id s hs
    obtain ⟨rfl, rfl⟩ := Dict.get_set_empty.mp hs
    exact ⟨by simp [shellSession], by simp [shellSession]⟩
  have honly : legacyAggregate.ShellsOnly := by
    intro id s hs _ _
    obtain ⟨rfl, rfl⟩ := Dict.get_set_empty.mp hs
    rfl
  have hround := payload_round_trip legacyAggregate_accepted hclean
  exact ⟨hround.1, hround.2.2.1 honly⟩

end AtlasOS.Agent
