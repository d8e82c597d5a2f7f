import AtlasOS.Agent.Persistence

/-!
# Recovery at startup

A start turns the sessions that a stopped process had claimed into blocked ones,
except an execution whose patch the journal names. What it installs is valid,
differs from what was read in those sessions only, and is installed again by the
next start.
-/

namespace AtlasOS.Agent.Coordinator

open Effect Worker

variable {py : Python} {Ctx : Type} {c : Coordinator Ctx}

/-! ## Interrupted sessions -/

/-- A session after the start, when the journal is the given one. -/
def interrupt (journal : Option Fields) (identifier : String) (s : Session py Ctx) :
    Session py Ctx :=
  match interruption journal identifier s.toWorkflowSession with
  | none => s
  | some reason =>
      { toWorkflowSession :=
          { s.toWorkflowSession with state := .blocked, blocked_reason := .str reason }
        built := ⟨s.built.operational, s.built.postInit⟩ }

/-- The aggregate after the start. -/
def interruptAll (journal : Option Fields) (a : Aggregate py Ctx) : Aggregate py Ctx :=
  { a with sessions := a.sessions.mapEntries (interrupt journal) }

/-- The checks of a session do not depend on its state, so that it is rebuilt without error. -/
theorem recoverSession_eq (journal : Option Fields) (identifier : String) (s : Session py Ctx) :
    recoverSession journal identifier s = .ok (interrupt journal identifier s) := by
  unfold recoverSession interrupt
  cases interruption journal identifier s.toWorkflowSession with
  | none => rfl
  | some reason =>
    have hbuilt : ({ s.toWorkflowSession with
        state := .blocked, blocked_reason := .str reason } : WorkflowSession Ctx).Built py :=
      ⟨s.built.operational, s.built.postInit⟩
    exact Session.build_eq_ok.mpr hbuilt.construct

theorem recoverClaimedSessions_eq (journal : Option Fields) (a : Aggregate py Ctx) :
    recoverClaimedSessions journal a =
      .ok (a.sessions.items.any fun entry =>
          (interruption journal entry.1 entry.2.toWorkflowSession).isSome,
        interruptAll journal a) := by
  have hentries : a.sessions.items.mapM (fun entry => do
      let session ← recoverSession journal entry.1 entry.2
      return (entry.1, session)) =
        (.ok (a.sessions.items.map fun entry => (entry.1, interrupt journal entry.1 entry.2)) :
          Except PyError _) := by
    refine mapM_eq_ok_map fun entry _ => ?_
    rw [recoverSession_eq, ok_bind, pure_eq_ok]
  rw [recoverClaimedSessions, hentries, ok_bind, Dict.ofItems_map_items]
  rfl

theorem interrupt_of_none {journal : Option Fields} {identifier : String} {s : Session py Ctx}
    (h : interruption journal identifier s.toWorkflowSession = none) :
    interrupt journal identifier s = s := by
  rw [interrupt, h]

theorem interrupt_of_some {journal : Option Fields} {identifier reason : String}
    {s : Session py Ctx} (h : interruption journal identifier s.toWorkflowSession = some reason) :
    (interrupt journal identifier s).toWorkflowSession =
      { s.toWorkflowSession with state := .blocked, blocked_reason := .str reason } := by
  rw [interrupt, h]

/-- The states in which a start interrupts a session. -/
theorem interruption_eq_none {journal : Option Fields} {identifier : String}
    {s : WorkflowSession Ctx} :
    interruption journal identifier s = none ↔
      s.state ≠ .verifying ∧ s.state ≠ .committing ∧
        (s.state = .executing → names journal identifier = true) := by
  unfold interruption
  split
  · next h => simp [h.1, h.2]
  · next h => cases hstate : s.state <;> simp_all [INTERRUPTION_REASONS]

/-- A session is blocked after its interruption, and is not interrupted twice. -/
theorem interruption_interrupt (journal : Option Fields) (identifier : String)
    (s : Session py Ctx) :
    interruption journal identifier (interrupt journal identifier s).toWorkflowSession = none := by
  cases h : interruption journal identifier s.toWorkflowSession with
  | none => rwa [interrupt_of_none h]
  | some reason =>
    rw [interrupt_of_some h]
    simp [interruption, INTERRUPTION_REASONS]

/-! ## The recovered aggregate -/

theorem get_interruptAll (journal : Option Fields) (a : Aggregate py Ctx) (id : String) :
    (interruptAll journal a).sessions.get id = (a.sessions.get id).map (interrupt journal id) := by
  simp [interruptAll]

/-- An interrupted session waits for no approval. -/
theorem validateSession_interrupt {journal : Option Fields} {a : Aggregate py Ctx} {id : String}
    {s : Session py Ctx} :
    (interruptAll journal a).validateSession id (interrupt journal id s).toWorkflowSession =
      a.validateSession id s.toWorkflowSession := by
  cases h : interruption journal id s.toWorkflowSession with
  | none =>
    rw [interrupt_of_none h]
    rfl
  | some reason =>
    have hclaimed : WAITING_PURPOSES s.state = none ∧ s.state ≠ .awaitingApproval ∧
        s.state ≠ .awaitingImplementationApproval := by
      unfold interruption at h
      split at h
      · cases h
      · cases hstate : s.state <;> simp_all [INTERRUPTION_REASONS, WAITING_PURPOSES]
    rw [interrupt_of_some h]
    have hwait : a.waitingPurpose s.toWorkflowSession = none := by
      simp [Aggregate.waitingPurpose, hclaimed]
    have hblocked : (interruptAll journal a).waitingPurpose { s.toWorkflowSession with
        state := .blocked, blocked_reason := .str reason } = none := by
      simp [Aggregate.waitingPurpose, WAITING_PURPOSES]
    simp only [Aggregate.validateSession, hwait, hblocked]

/-- An approval is valid after recovery exactly when it was before. -/
theorem validateApproval_interruptAll {journal : Option Fields} {a : Aggregate py Ctx}
    {id : String} {r : ApprovalResult} :
    (interruptAll journal a).validateApproval id r = .ok () ↔ a.validateApproval id r = .ok () := by
  rw [validateApproval_eq_ok, validateApproval_eq_ok, interruptAll,
    exists_lookupUnchecked_mapEntries]

/-- Recovery keeps the validity of what was read. -/
theorem validate_interruptAll {journal : Option Fields} {a : Aggregate py Ctx} :
    (interruptAll journal a).validateAggregate = .ok () ↔ a.validateAggregate = .ok () := by
  rw [Aggregate.validateAggregate_eq_ok, Aggregate.validateAggregate_eq_ok]
  refine and_congr ⟨fun h id s hs => ?_, fun h id s hs => ?_⟩
    (forall₃_congr fun _ _ _ => validateApproval_interruptAll)
  · have hinterrupted := h id (interrupt journal id s) (by rw [get_interruptAll, hs, Option.map_some])
    rwa [validateSession_interrupt] at hinterrupted
  · rw [get_interruptAll, Option.map_eq_some_iff] at hs
    obtain ⟨s, hs, rfl⟩ := hs
    rw [validateSession_interrupt]
    exact h id s hs

/-- Interrupting a session changes its state and reason only. -/
theorem interrupt_eq (journal : Option Fields) (identifier : String) (s : Session py Ctx) :
    (interrupt journal identifier s).toWorkflowSession =
      { s.toWorkflowSession with
        state := (interrupt journal identifier s).state
        blocked_reason := (interrupt journal identifier s).blocked_reason } := by
  unfold interrupt
  split <;> rfl

/-- What was read stays so under recovery. -/
theorem decoded_interruptAll {a : Aggregate py Ctx} (h : a.Decoded) (journal : Option Fields) :
    (interruptAll journal a).Decoded := by
  have hsession (id : String) (s : Session py Ctx) (hs : a.sessions.get id = some s) :
      s.redact = s := by
    have hget := congrArg (fun a => a.sessions.get id) h.redacted
    simp only [Aggregate.redact, Dict.get_mapValues, hs, Option.map_some,
      Option.some.injEq] at hget
    exact hget
  refine
    { redacted := ?_
      clean := fun id s hs => ?_
      readable := h.readable
      shells := fun id r hr hlegacy => ?_
      encodes := fun id s hs => ?_ }
  · rw [Aggregate.redact, Dict.mapValues_eq_self fun id s hs => ?_]
    rw [get_interruptAll, Option.map_eq_some_iff] at hs
    obtain ⟨s, hs, rfl⟩ := hs
    refine Session.ext ?_
    have hredact := congrArg Session.toWorkflowSession (hsession id s hs)
    change (interrupt journal id s).toWorkflowSession.redact py = _
    rw [interrupt_eq]
    exact congrArg (fun t : WorkflowSession Ctx =>
      { t with
        state := (interrupt journal id s).state
        blocked_reason := (interrupt journal id s).blocked_reason }) hredact
  · rw [get_interruptAll, Option.map_eq_some_iff] at hs
    obtain ⟨s, hs, rfl⟩ := hs
    rw [interrupt_eq]
    obtain ⟨hrequest, hverification⟩ := h.clean id s hs
    exact ⟨hrequest, hverification⟩
  · refine h.shells id r hr ⟨hlegacy.1, hlegacy.2.1, ?_⟩
    obtain ⟨-, -, workflow, hworkflow, hid⟩ := hlegacy
    obtain ⟨s, hs, hsource, hstate⟩ := mem_legacyShellWorkflowIds.mp hworkflow
    rw [get_interruptAll, Option.map_eq_some_iff] at hs
    obtain ⟨s, hs, rfl⟩ := hs
    cases hkept : interruption journal workflow s.toWorkflowSession with
    | none =>
      rw [interrupt_of_none hkept] at hsource hstate
      exact ⟨workflow, mem_legacyShellWorkflowIds.mpr ⟨s, hs, hsource, hstate⟩, hid⟩
    | some reason =>
      rw [interrupt_of_some hkept] at hstate
      cases hstate
  · rw [get_interruptAll, Option.map_eq_some_iff] at hs
    obtain ⟨s, hs, rfl⟩ := hs
    rw [interrupt_eq]
    exact h.encodes id s hs

/-- A second recovery changes nothing. -/
theorem interruptAll_interruptAll (journal : Option Fields) (a : Aggregate py Ctx) :
    interruptAll journal (interruptAll journal a) = interruptAll journal a := by
  have hsessions : (interruptAll journal a).sessions.mapEntries (interrupt journal) =
      (interruptAll journal a).sessions := by
    refine Dict.mapEntries_eq_self fun id s hs => interrupt_of_none ?_
    rw [get_interruptAll, Option.map_eq_some_iff] at hs
    obtain ⟨s, hs, rfl⟩ := hs
    exact interruption_interrupt journal id s
  rw [interruptAll, hsessions]

/-! ## The start -/

/-- Whether some session is interrupted. -/
def transforms (journal : Option Fields) (a : Aggregate py Ctx) : Bool :=
  a.sessions.items.any fun entry =>
    (interruption journal entry.1 entry.2.toWorkflowSession).isSome

/-- Nothing is transformed exactly when no session is interrupted, and then nothing changes. -/
theorem interruptAll_of_not_transforms {journal : Option Fields} {a : Aggregate py Ctx}
    (h : transforms journal a = false) : interruptAll journal a = a := by
  rw [interruptAll, Dict.mapEntries_eq_self fun id s hs => interrupt_of_none ?_]
  have hall := List.any_eq_false.mp h (id, s) (Dict.mem_items.mpr hs)
  simpa using hall

theorem transforms_interruptAll (journal : Option Fields) (a : Aggregate py Ctx) :
    transforms journal (interruptAll journal a) = false := by
  rw [transforms, List.any_eq_false]
  rintro ⟨id, s⟩ hmem
  have hs := Dict.mem_items.mp hmem
  rw [get_interruptAll, Option.map_eq_some_iff] at hs
  obtain ⟨s, hs, rfl⟩ := hs
  simp [interruption_interrupt]

/-- What a start from a decoded payload does once the state directory is prepared. -/
theorem exec_initializeFrom {fault : Option WriteStep} {payload : Fields} {a : Aggregate py Ctx}
    {s : System py Ctx} {journal : Option Fields}
    (hdecode : decodePayload c.context_model payload = .ok a)
    (hjournal : PatchJournal.read s.journal = .ok journal) (hvalid : a.validateAggregate = .ok ()) :
    exec (c.initializeFrom fault payload) s =
      if transforms journal a then
        exec (c.writePayload fault (payloadFields c.context_model (interruptAll journal a)) >>=
          fun _ => update fun s => { s with live := interruptAll journal a }) s
      else (.ok (), { s with live := a }) := by
  have hdecoded := decodePayload_spec hdecode
  have hencode := (decoded_interruptAll hdecoded journal).decode_encode c.context_model
  rw [initializeFrom, exec_read_bind, hdecode, exec_lift_ok_bind, hjournal, exec_lift_ok_bind,
    recoverClaimedSessions_eq, exec_lift_ok_bind]
  simp only [validate_interruptAll.mpr hvalid, exec_lift_ok_bind, hencode.1]
  change exec (if transforms journal a = true then _ else _) s = _
  split
  · rfl
  · next h => rw [interruptAll_of_not_transforms (by simpa using h), exec_update]

/-- The preparation of the state directory raises or does nothing. -/
theorem exec_prepareStateDir (c : Coordinator Ctx) (fault : Option WriteStep)
    (s : System py Ctx) :
    (∃ e, exec (c.prepareStateDir fault) s = (.error e, s)) ∨
      exec (c.prepareStateDir fault) s = (.ok (), s) := by
  rw [prepareStateDir, exec_step_bind]
  split
  · exact .inl ⟨_, rfl⟩
  · rw [exec_step_bind]
    split
    · exact .inl ⟨_, rfl⟩
    · rw [exec_step]
      split
      · exact .inl ⟨_, rfl⟩
      · exact .inr rfl

/-- A start from a snapshot with a payload, once the state directory is prepared. -/
theorem exec_initializeState {fault : Option WriteStep} {payload : Fields} {s : System py Ctx}
    (hsnapshot : s.snapshot = .json (.obj payload))
    (hprepared : exec (c.prepareStateDir fault) s = (.ok (), s)) :
    exec (c.initializeState fault) s = exec (c.initializeFrom fault payload) s := by
  have hpresent : s.snapshot ≠ .missing := by simp [hsnapshot]
  rw [initializeState, exec_bind, hprepared]
  simp only [exec_read_bind]
  rw [if_neg hpresent, hsnapshot, readSnapshot, exec_lift_ok_bind]

/-- A start that returns found a readable journal and a valid aggregate. -/
theorem valid_of_initializeFrom {fault : Option WriteStep} {payload : Fields}
    {a : Aggregate py Ctx} {s s' : System py Ctx}
    (hdecode : decodePayload c.context_model payload = .ok a)
    (h : exec (c.initializeFrom fault payload) s = (.ok (), s')) :
    (∃ journal, PatchJournal.read s.journal = .ok journal) ∧ a.validateAggregate = .ok () := by
  rw [initializeFrom, exec_read_bind, hdecode, exec_lift_ok_bind] at h
  cases hjournal : PatchJournal.read s.journal with
  | error e =>
    rw [hjournal, exec_lift_error_bind] at h
    cases h
  | ok journal =>
    refine ⟨⟨journal, rfl⟩, ?_⟩
    rw [hjournal, exec_lift_ok_bind, recoverClaimedSessions_eq, exec_lift_ok_bind] at h
    cases hvalid : (interruptAll journal a).validateAggregate with
    | error e =>
      simp only [hvalid, exec_lift_error_bind] at h
      cases h
    | ok => exact validate_interruptAll.mp hvalid

/-- How the aggregate `b` that a start installs relates to the aggregate `a` that it read. -/
structure Recovered (journal : Option Fields) (a b : Aggregate py Ctx) : Prop where
  settled : ∀ id s, b.sessions.get id = some s → s.state ≠ .verifying ∧ s.state ≠ .committing
  executing : ∀ id s, b.sessions.get id = some s → s.state = .executing →
    names journal id = true ∨ s.canReconcileWorker = true
  kept : ∀ id s, a.sessions.get id = some s →
    interruption journal id s.toWorkflowSession = none → b.sessions.get id = some s
  blocked : ∀ id s reason, a.sessions.get id = some s →
    interruption journal id s.toWorkflowSession = some reason →
    ∃ s', b.sessions.get id = some s' ∧ s'.toWorkflowSession =
      { s.toWorkflowSession with state := .blocked, blocked_reason := .str reason }
  absent : ∀ id, a.sessions.get id = none → b.sessions.get id = none
  others : b = { a with sessions := b.sessions }
  valid : b.validateAggregate = .ok ()

theorem recovered_interruptAll {journal : Option Fields} {a : Aggregate py Ctx}
    (h : a.validateAggregate = .ok ()) : Recovered journal a (interruptAll journal a) := by
  have hsettled (id : String) (s : Session py Ctx)
      (hs : (interruptAll journal a).sessions.get id = some s) :
      interruption journal id s.toWorkflowSession = none := by
    rw [get_interruptAll, Option.map_eq_some_iff] at hs
    obtain ⟨s, hs, rfl⟩ := hs
    exact interruption_interrupt journal id s
  exact
    { settled := fun id s hs =>
        have hnone := interruption_eq_none.mp (hsettled id s hs)
        ⟨hnone.1, hnone.2.1⟩
      executing := fun id s hs hstate =>
        .inl ((interruption_eq_none.mp (hsettled id s hs)).2.2 hstate)
      kept := fun id s hs hnone => by
        rw [get_interruptAll, hs, Option.map_some, interrupt_of_none hnone]
      blocked := fun id s reason hs hsome =>
        ⟨_, by rw [get_interruptAll, hs, Option.map_some], interrupt_of_some hsome⟩
      absent := fun id hnone => by rw [get_interruptAll, hnone, Option.map_none]
      others := rfl
      valid := validate_interruptAll.mpr h }

/-- The state after a start that returns, and the fact that the next start leaves it. -/
theorem initializeFrom_settles {fault : Option WriteStep} {payload : Fields}
    {a : Aggregate py Ctx} {s s' : System py Ctx} {journal : Option Fields}
    (hsnapshot : s.snapshot = .json (.obj payload))
    (hdecode : decodePayload c.context_model payload = .ok a)
    (hjournal : PatchJournal.read s.journal = .ok journal) (hvalid : a.validateAggregate = .ok ())
    (h : exec (c.initializeFrom fault payload) s = (.ok (), s')) :
    s'.live = interruptAll journal a ∧ s'.journal = s.journal ∧
      ∃ payload', s'.snapshot = .json (.obj payload') ∧
        decodePayload c.context_model payload' = .ok (interruptAll journal a) := by
  rw [exec_initializeFrom hdecode hjournal hvalid] at h
  split at h
  · cases fault with
    | some w =>
      obtain ⟨e, he⟩ := exec_writePayload_some c
        (payloadFields c.context_model (interruptAll journal a)) s w
      rw [exec_bind, he] at h
      cases h
    | none =>
      rw [exec_bind, exec_writePayload_none] at h
      cases h
      exact ⟨rfl, rfl, _, rfl,
        ((decoded_interruptAll (decodePayload_spec hdecode) _).decode_encode _).2⟩
  · next hnot =>
    cases h
    have hsame := interruptAll_of_not_transforms (by simpa using hnot)
    exact ⟨hsame.symm, rfl, payload, hsnapshot, by rw [hdecode, hsame]⟩

/-- A start installs the recovered aggregate, and a second start from what the first one wrote
changes nothing; without failures a valid aggregate is always installed. -/
theorem initializeState_recovers {payload : Fields} {a : Aggregate py Ctx} {s : System py Ctx}
    (hsnapshot : s.snapshot = .json (.obj payload))
    (hdecode : decodePayload c.context_model payload = .ok a) :
    (∀ fault s', exec (c.initializeState fault) s = (.ok (), s') →
      ∃ journal, PatchJournal.read s.journal = .ok journal ∧ Recovered journal a s'.live ∧
        ∀ live, exec (c.initializeState none) { s' with live := live } = (.ok (), s')) ∧
    ((∃ journal, PatchJournal.read s.journal = .ok journal) → a.validateAggregate = .ok () →
      ∃ s', exec (c.initializeState none) s = (.ok (), s')) := by
  refine ⟨fun fault s' h => ?_, fun hjournal hvalid => ?_⟩
  · have hprepared : exec (c.prepareStateDir fault) s = (.ok (), s) := by
      rcases exec_prepareStateDir c fault s with ⟨e, he⟩ | hok
      · rw [initializeState, exec_bind, he] at h
        cases h
      · exact hok
    rw [exec_initializeState hsnapshot hprepared] at h
    obtain ⟨⟨journal, hjournal⟩, hvalid⟩ := valid_of_initializeFrom hdecode h
    obtain ⟨hlive, hsame, payload', hsnapshot', hdecode'⟩ :=
      initializeFrom_settles hsnapshot hdecode hjournal hvalid h
    have hrecovered : Recovered journal a (interruptAll journal a) :=
      recovered_interruptAll hvalid
    refine ⟨journal, hjournal, hlive ▸ hrecovered, fun live => ?_⟩
    have hprepared' : exec (c.prepareStateDir none) { s' with live := live } =
        (.ok (), { s' with live := live }) := by
      simp [prepareStateDir, exec_step_bind, exec_step]
    have hagain := @exec_initializeFrom _ _ c none _ _ { s' with live := live } _
      hdecode' (hsame ▸ hjournal) hrecovered.valid
    rw [transforms_interruptAll, if_neg (by decide)] at hagain
    rw [exec_initializeState (s := { s' with live := live }) hsnapshot' hprepared', hagain, ← hlive]
  · obtain ⟨journal, hjournal⟩ := hjournal
    have hprepared : exec (c.prepareStateDir none) s = (.ok (), s) := by
      simp [prepareStateDir, exec_step_bind, exec_step]
    rw [exec_initializeState hsnapshot hprepared, exec_initializeFrom hdecode hjournal hvalid]
    split
    · rw [exec_bind, exec_writePayload_none]
      exact ⟨_, rfl⟩
    · exact ⟨_, rfl⟩

/-- A workflow whose verification was running when the process stopped. -/
def claimedSession : Session .plain Fields where
  identifier := "w"
  request := none
  plan := none
  state := .verifying
  effect_kind := .repositoryChange
  built := ⟨by simp, rfl⟩

/-- The aggregate with that workflow. -/
def claimedAggregate : Aggregate .plain Fields :=
  { Aggregate.empty .plain Fields with sessions := Dict.set ∅ "w" claimedSession }

/-- A stopped process with that aggregate in its snapshot. -/
def claimedSystem : System .plain Fields where
  live := .empty .plain Fields
  snapshot := .json (.obj (payloadFields .fields claimedAggregate))
  journal := .missing

theorem initializeState_recovers_claimed :
    ∃ s', exec (plain.initializeState none) claimedSystem = (.ok (), s') ∧
      ∃ journal, Recovered journal claimedAggregate.normalize s'.live := by
  have hvalid : claimedAggregate.validateAggregate = .ok () := by
    refine Aggregate.validateAggregate_eq_ok.mpr ⟨fun id s hs => ?_, fun id r hr => ?_⟩
    · obtain ⟨rfl, rfl⟩ := Dict.get_set_empty.mp hs
      rfl
    · exact absurd hr (by simp [claimedAggregate, Aggregate.empty])
  have haccepted : claimedAggregate.Accepted .fields (payloadFields .fields claimedAggregate) := by
    refine ⟨hvalid, encodePayload_eq_ok.mpr ⟨fun id s hs => ?_, rfl⟩⟩
    obtain ⟨rfl, rfl⟩ := Dict.get_set_empty.mp hs
    rfl
  have hclean : claimedAggregate.WellDigested := by
    intro id s hs
    obtain ⟨rfl, rfl⟩ := Dict.get_set_empty.mp hs
    exact ⟨by simp [claimedSession], by simp [claimedSession]⟩
  have hshells : claimedAggregate.NoLegacyShell := fun id r hr =>
    absurd hr (by simp [claimedAggregate, Aggregate.empty])
  have hdecode : decodePayload plain.context_model (payloadFields .fields claimedAggregate) =
      .ok claimedAggregate.normalize := haccepted.decode hclean
  have hstart := initializeState_recovers (c := plain) (s := claimedSystem) rfl hdecode
  obtain ⟨s', hs'⟩ := hstart.2 ⟨none, rfl⟩ (Aggregate.validate_normalize hvalid (.inl hshells))
  obtain ⟨journal, -, hrecovered, -⟩ := hstart.1 none s' hs'
  exact ⟨s', hs', journal, hrecovered⟩

end AtlasOS.Agent.Coordinator
