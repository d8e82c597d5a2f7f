import AtlasOS.Agent.Codec.Approval

/-!
# The codec of the aggregate

`_encode_payload` and `_decode_payload`: the payload of a snapshot, with the
approvals, the planning sessions and the workflow state as tables by identifier.
-/

namespace AtlasOS.Agent

variable {py : Python} {Ctx : Type} {ctx : ContextModel Ctx}

/-- `_encode_sprint_status` -/
def encodeSprintStatus (s : SprintStatus) : Fields :=
  [("checkpoint_id", .str s.checkpoint_id),
    ("goal", .str s.goal),
    ("phase", .str (StrEnum.value s.phase)),
    ("title", .str s.title)]

/-- `_decode_sprint_status` of an object. -/
def decodeSprintStatus (payload : Fields) : Except PyError SprintStatus := do
  let checkpoint_id ← requireStr payload "checkpoint_id"
  let title ← requireStr payload "title"
  let goal ← requireStr payload "goal"
  let phase_text ← requireStr payload "phase"
  let phase ← readEnum SprintPhase (.str phase_text)
  return { checkpoint_id, title, goal, phase }

theorem decode_encodeSprintStatus (s : SprintStatus) :
    decodeSprintStatus (encodeSprintStatus s) = .ok s := by
  simp [decodeSprintStatus, encodeSprintStatus]

/-! ## Tables -/

section Table

variable {α β : Type}

/-- `{identifier: encode(record) for identifier, record in sorted(table.items())}` -/
def tableFields (encode : α → Fields) (table : Dict α) : Fields :=
  table.items.map fun entry => (entry.1, .obj (encode entry.2))

/-- `{identifier: decode(value) for identifier, value in payload.items()}` -/
def decodeTable (decode : Json → Except PyError β) (payload : Fields) :
    Except PyError (Dict β) := do
  let entries ← payload.mapM fun field => do
    let record ← decode field.2
    return (field.1, record)
  return Dict.ofItems entries

/-- A table is read back, up to what its decoder does to each record. -/
theorem decodeTable_tableFields (decode : Json → Except PyError β) {encode : α → Fields}
    (f : α → β) (table : Dict α)
    (h : ∀ key a, table.get key = some a → decode (.obj (encode a)) = .ok (f a)) :
    decodeTable decode (tableFields encode table) = .ok (table.mapValues f) := by
  have hentries : (tableFields encode table).mapM (fun field => do
      let record ← decode field.2
      return (field.1, record)) = .ok (table.items.map fun entry => (entry.1, f entry.2)) :=
    mapM_map_eq_ok_map fun entry hentry => by
      simp [h entry.1 entry.2 (Dict.mem_items.mp hentry)]
  rw [decodeTable, hentries, ok_bind, Dict.ofItems_map_items fun _ a => f a, pure_eq_ok]
  rfl

/-- What holds of every decoded record holds of every record of a decoded table. -/
theorem decodeTable_forall {decode : Json → Except PyError β} {P : β → Prop} {payload : Fields}
    {table : Dict β} (h : ∀ value b, decode value = .ok b → P b)
    (hread : decodeTable decode payload = .ok table) :
    ∀ key b, table.get key = some b → P b := by
  simp only [decodeTable, bind_eq_ok, pure_eq_ok, Except.ok.injEq] at hread
  obtain ⟨entries, hentries, rfl⟩ := hread
  intro key b hget
  have hmem := Dict.mem_of_get_ofItems hget
  have hall := mapM_eq_ok_iff.mp hentries
  clear hget hentries
  induction hall with
  | nil => cases hmem
  | cons hfield _ ih =>
    rcases List.mem_cons.mp hmem with heq | hmem
    · obtain ⟨record, hdecode, hpair⟩ := bind_eq_ok.mp hfield
      cases heq
      cases hpair
      exact h _ _ hdecode
    · exact ih hmem

end Table

/-! ## Payloads -/

/-- `SCHEMA_VERSION` -/
def SCHEMA_VERSION : ℕ := 3

/-- `APPLICATION` -/
def APPLICATION : String := "atlas-agent"

/-- The schema version of a payload, which is compared with the supported ones by value. -/
def readSchemaVersion : Json → Except PyError ℕ
  | .int 1 | .bool true => .ok 1
  | .int 2 => .ok 2
  | .int 3 => .ok 3
  | .float f =>
      if f = .finite 1 then .ok 1
      else if f = .finite 2 then .ok 2
      else if f = .finite 3 then .ok 3
      else invalid "Persisted Agent state schema is unsupported"
  | .arr _ => .error (.typeError "unhashable type: 'list'")
  | .obj _ => .error (.typeError "unhashable type: 'dict'")
  | _ => invalid "Persisted Agent state schema is unsupported"

/-- The identifiers of the workflows that still wait for their shell to be approved. -/
def legacyShellWorkflowIds (sessions : Dict (Session py Ctx)) : List String :=
  (sessions.items.filter fun entry =>
    decide (entry.2.source = .candidate) && decide (entry.2.state = .awaitingApproval)).map
      Prod.fst

theorem mem_legacyShellWorkflowIds {sessions : Dict (Session py Ctx)} {identifier : String} :
    identifier ∈ legacyShellWorkflowIds sessions ↔
      ∃ s, sessions.get identifier = some s ∧ s.source = .candidate ∧
        s.state = .awaitingApproval := by
  simp [legacyShellWorkflowIds, Dict.mem_items]

/-- `_decode_workflow_session`, with what is known of its result. -/
def decodeSession (py : Python) (ctx : ContextModel Ctx) (schema_version : ℕ) (value : Json) :
    Except PyError (Session py Ctx) :=
  attach (decodeWorkflowSession py ctx schema_version value) fun s h =>
    ⟨s, (decodeWorkflowSession_spec h).1⟩

/-- `_decode_approval_result`, with what is known of its result. -/
def decodeApproval (py : Python) (legacy_shell_workflow_ids : List String) (value : Json) :
    Except PyError Approval :=
  attach (decodeApprovalResult py (some legacy_shell_workflow_ids) value) fun r h =>
    ⟨r, (readable_of_decodeApprovalResult h).operational⟩

/-- `_decode_candidate_planning_session`, with what is known of its result. -/
def decodePlanningSession (py : Python) (schema_version : ℕ) (value : Json) :
    Except PyError PlanningSession :=
  attach (decodeCandidatePlanningSession py schema_version value) fun s h =>
    ⟨s, construct_of_decodeCandidatePlanningSession h⟩

/-- The payload that `_encode_payload` returns when the worker records are valid. -/
def payloadFields (ctx : ContextModel Ctx) (a : Aggregate py Ctx) : Fields :=
  [("application", .str APPLICATION),
    ("approvals", .obj (tableFields
      (fun r : Approval => encodeApprovalResult py r.toApprovalResult) a.approvals)),
    ("candidate_planning", .obj
      [("sessions", .obj (tableFields (fun s : PlanningSession =>
        encodeCandidatePlanningSession py s.toCandidatePlanningSession) a.planning))]),
    ("schema_version", .int SCHEMA_VERSION),
    ("workflow_state", .obj
      [("review", objectOrNull encodeReviewReport a.review),
        ("sessions", .obj (tableFields (fun s : Session py Ctx =>
          encodeWorkflowSession py ctx s.toWorkflowSession) a.sessions)),
        ("sprint", objectOrNull encodeSprintStatus a.sprint),
        ("verification", objectOrNull (encodeVerificationReport ctx) a.verification)])]

/-- `_encode_payload` -/
def encodePayload (ctx : ContextModel Ctx) (a : Aggregate py Ctx) : Except PyError Fields := do
  a.sessions.items.forM fun entry => entry.2.checkEncode py
  return payloadFields ctx a

/-- The planning sessions of a payload. -/
def decodeCandidatePlanning (py : Python) (schema_version : ℕ) (value : Json) :
    Except PyError (Dict PlanningSession) := do
  let candidate_planning : Fields ←
    if value = .null then .ok []
    else value.requireObject (.statePersistenceError "Invalid candidate planning state")
  let sessions ← (candidate_planning.getD "sessions" (.obj [])).requireObject
    (.statePersistenceError "Invalid candidate planning sessions")
  decodeTable (decodePlanningSession py schema_version) sessions

/-- `_decode_payload` -/
def decodePayload (ctx : ContextModel Ctx) (payload : Fields) :
    Except PyError (Aggregate py Ctx) := do
  let schema_version ← readSchemaVersion (payload.get "schema_version")
  require (decide (payload.get "application" = .str APPLICATION))
    (.statePersistenceError "Persisted Agent state application is invalid")
  let workflow_state ← requireDict payload "workflow_state"
  let approvals_payload ← requireDict payload "approvals"
  let sessions_payload ← requireDict workflow_state "sessions"
  let sessions ← decodeTable (decodeSession py ctx schema_version) sessions_payload
  let approvals ← decodeTable (decodeApproval py (legacyShellWorkflowIds sessions))
    approvals_payload
  let planning ← decodeCandidatePlanning py schema_version
    (payload.getD "candidate_planning" (.obj []))
  let sprint ← optionalObject "Invalid sprint status" decodeSprintStatus
    (workflow_state.get "sprint")
  let verification ← optionalObject "Invalid verification report"
    (decodeVerificationReport py ctx) (workflow_state.get "verification")
  let review ← optionalObject "Invalid review report" decodeReviewReport
    (workflow_state.get "review")
  return { sprint, verification, review, sessions, approvals, planning }

/-! ## What is read back -/

/-- A session with the environments of its checks redacted. -/
def Session.redact (s : Session py Ctx) : Session py Ctx := ⟨s.toWorkflowSession.redact py, s.built.redact⟩

/-- The approval that is read back for a given one. -/
def Approval.rewriteShell (identifiers : List String) (r : Approval) : Approval where
  toApprovalResult := r.toApprovalResult.rewriteShell identifiers
  built := by
    intro m hm
    refine r.built m ?_
    rw [ApprovalResult.rewriteShell, ApprovalRequest.rewriteShell_eq] at hm
    exact hm

namespace Aggregate

/-- The aggregate with the environments of the checks of its sessions redacted. -/
def redact (a : Aggregate py Ctx) : Aggregate py Ctx :=
  { a with sessions := a.sessions.mapValues Session.redact }

/-- The aggregate that is read back for a given one. -/
def normalize (a : Aggregate py Ctx) : Aggregate py Ctx :=
  { a.redact with
    approvals := a.approvals.mapValues (Approval.rewriteShell (legacyShellWorkflowIds a.sessions)) }

/-- Whether the environments of the checks of all sessions are well digested. -/
def WellDigested (a : Aggregate py Ctx) : Prop :=
  ∀ id s, a.sessions.get id = some s → s.toWorkflowSession.WellDigested py

/-- Whether the decoder accepts every approval request. -/
def Readable (a : Aggregate py Ctx) : Prop :=
  ∀ id r, a.approvals.get id = some r → r.request.Readable

end Aggregate

theorem legacyShellWorkflowIds_redact (a : Aggregate py Ctx) :
    legacyShellWorkflowIds a.redact.sessions = legacyShellWorkflowIds a.sessions := by
  simp only [legacyShellWorkflowIds, Aggregate.redact, Dict.items_mapValues, List.filter_map,
    List.map_map]
  rfl

/-- An aggregate is encoded exactly when its worker records are valid. -/
theorem encodePayload_eq_ok {a : Aggregate py Ctx} {payload : Fields} :
    encodePayload ctx a = .ok payload ↔
      (∀ id s, a.sessions.get id = some s → s.checkEncode py = .ok ()) ∧
        payloadFields ctx a = payload := by
  rw [encodePayload, check_bind_eq_ok, forM_eq_ok]
  simp only [Prod.forall, Dict.mem_items, pure_eq_ok, Except.ok.injEq]

theorem decodeSession_encode {s : Session py Ctx} (hclean : s.toWorkflowSession.WellDigested py)
    (hcheck : s.checkEncode py = .ok ()) :
    decodeSession py ctx 3 (.obj (encodeWorkflowSession py ctx s.toWorkflowSession)) =
      .ok s.redact := by
  rw [decodeSession, attach_eq_ok]
  exact ⟨_, decode_encodeWorkflowSession s.built hclean hcheck, rfl⟩

theorem decodeApproval_encode {identifiers : List String} {r : Approval}
    (h : r.request.Readable) :
    decodeApproval py identifiers (.obj (encodeApprovalResult py r.toApprovalResult)) =
      .ok (r.rewriteShell identifiers) := by
  rw [decodeApproval, attach_eq_ok]
  exact ⟨_, decode_encodeApprovalResult h, rfl⟩

theorem decodePlanningSession_encode (s : PlanningSession) :
    decodePlanningSession py 3
      (.obj (encodeCandidatePlanningSession py s.toCandidatePlanningSession)) = .ok s := by
  rw [decodePlanningSession, attach_eq_ok]
  exact ⟨_, decode_encodeCandidatePlanningSession s.built, rfl⟩

/-- The payload of an aggregate is read back as its normal form. -/
theorem decode_payloadFields {a : Aggregate py Ctx} (hclean : a.WellDigested)
    (hread : a.Readable)
    (hcheck : ∀ id s, a.sessions.get id = some s → s.checkEncode py = .ok ()) :
    decodePayload ctx (payloadFields ctx a) = .ok a.normalize := by
  have hsessions := decodeTable_tableFields (decodeSession py ctx 3) _ a.sessions fun id s hs =>
      decodeSession_encode (hclean id s hs) (hcheck id s hs)
  have happrovals := decodeTable_tableFields
    (decodeApproval py (legacyShellWorkflowIds a.redact.sessions)) _ a.approvals fun id r hr =>
      decodeApproval_encode (hread id r hr)
  have hplanning := decodeTable_tableFields
    (decodePlanningSession py 3) (fun s => s) a.planning fun _ s _ =>
      decodePlanningSession_encode s
  rw [Dict.mapValues_eq_self fun _ _ _ => rfl] at hplanning
  simp only [Aggregate.redact] at happrovals
  simp [decodePayload, payloadFields, readSchemaVersion, SCHEMA_VERSION, decodeCandidatePlanning,
    hsessions, happrovals, hplanning, optionalObject_self decode_encodeSprintStatus,
    optionalObject_self decode_encodeVerificationReport,
    optionalObject_self decode_encodeReviewReport]
  rw [Aggregate.normalize, ← legacyShellWorkflowIds_redact]
  rfl

theorem Session.redact_eq_self {s : Session py Ctx}
    (h : s.toWorkflowSession.redact py = s.toWorkflowSession) : s.redact = s :=
  Session.ext h

theorem decodeSession_spec {version : ℕ} {value : Json} {s : Session py Ctx}
    (h : decodeSession py ctx version value = .ok s) :
    s.redact = s ∧ s.toWorkflowSession.WellDigested py ∧ s.checkEncode py = .ok () := by
  rw [decodeSession, attach_eq_ok] at h
  obtain ⟨record, hrecord, rfl⟩ := h
  obtain ⟨-, hredact, hclean, hcheck⟩ := decodeWorkflowSession_spec hrecord
  exact ⟨Session.redact_eq_self hredact, hclean, hcheck⟩

/-- The purpose of a decoded request is never one that the decoder would rewrite. -/
theorem not_legacyShell_of_decodeApprovalRequest {identifiers : List String} {payload : Fields}
    {r : ApprovalRequest} (h : decodeApprovalRequest py (some identifiers) payload = .ok r) :
    ¬r.LegacyShell identifiers := by
  simp only [decodeApprovalRequest, bind_eq_ok, pure_eq_ok, Except.ok.injEq] at h
  obtain ⟨_, -, _, -, _, -, _, -, _, -, _, -, _, -, _, -, _, -, _, -, _, -, _, -, rfl⟩ := h
  rintro ⟨hpurpose, hcommand, hworkflow⟩
  simp only [readPurpose] at hpurpose
  split at hpurpose
  · cases hpurpose
  · next hnot => exact hnot ⟨hpurpose, hcommand, isLegacyShell_eq_true.mpr hworkflow⟩

theorem decodeApproval_spec {identifiers : List String} {value : Json} {r : Approval}
    (h : decodeApproval py identifiers value = .ok r) :
    r.request.Readable ∧ ¬r.request.LegacyShell identifiers := by
  rw [decodeApproval, attach_eq_ok] at h
  obtain ⟨record, hrecord, rfl⟩ := h
  refine ⟨readable_of_decodeApprovalResult hrecord, ?_⟩
  simp only [decodeApprovalResult, decodeApprovalDecision, bind_eq_ok, pure_eq_ok,
    Except.ok.injEq] at hrecord
  obtain ⟨_, -, _, -, _, ⟨_, -, request, hrequest, _, -, _, -, rfl⟩, rfl⟩ := hrecord
  exact not_legacyShell_of_decodeApprovalRequest hrequest

namespace Aggregate

/-- Whether no approval has the form of those that older versions wrote for the shells of
the workflows that still wait for theirs. -/
def NoLegacyShell (a : Aggregate py Ctx) : Prop :=
  ∀ id r, a.approvals.get id = some r → ¬r.request.LegacyShell (legacyShellWorkflowIds a.sessions)

end Aggregate

/-- What is known of an aggregate that was read from a payload. -/
structure Aggregate.Decoded (a : Aggregate py Ctx) : Prop where
  redacted : a.redact = a
  clean : a.WellDigested
  readable : a.Readable
  shells : a.NoLegacyShell
  encodes : ∀ id s, a.sessions.get id = some s → s.checkEncode py = .ok ()

theorem decodePayload_spec {payload : Fields} {a : Aggregate py Ctx}
    (h : decodePayload ctx payload = .ok a) : a.Decoded := by
  simp only [decodePayload, bind_eq_ok, exists_unit, pure_eq_ok, Except.ok.injEq] at h
  obtain ⟨_, -, -, _, -, _, -, _, -, sessions, hsessions, approvals, happrovals, _, -, _, -, _, -,
    _, -, rfl⟩ := h
  have hspec := decodeTable_forall (fun _ _ => decodeSession_spec) hsessions
  have hread := decodeTable_forall (fun _ _ => decodeApproval_spec) happrovals
  refine
    { redacted := ?_
      clean := fun id s hs => (hspec id s hs).2.1
      readable := fun id r hr => (hread id r hr).1
      shells := fun id r hr => (hread id r hr).2
      encodes := fun id s hs => (hspec id s hs).2.2 }
  rw [Aggregate.redact, Dict.mapValues_eq_self fun id s hs => (hspec id s hs).1]

end AtlasOS.Agent
