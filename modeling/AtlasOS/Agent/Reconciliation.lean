import AtlasOS.Agent.OperationalRuns

/-!
# Reconciling an operational action

A `resume` of a session whose reference shows an answered dispatch reads the status
of the dispatch from Core and stores the stage that the ledger state stands for.
The prologue of `resume` comes first: it checks the approval, its expiry included,
for a read as for a submission. A submission whose answer was lost is repeated.
-/

namespace AtlasOS.Agent

open Effect OperationalExecutionOrchestrator
open Core (OperationalLedgerState)

variable {py : Python} {Ctx : Type}

/-! ## Final ledger states -/

/-- The ledger states after which nothing is left to observe. -/
def finalStates : List OperationalLedgerState :=
  [.verified, .failed, .verificationFailed, .targetReplaced, .outcomeUnknown]

/-- A stored session shows a final ledger state: the stage of its terminal reference has the name
of the ledger state, and the workflow is completed if the action was verified and blocked
otherwise. -/
def Shows (s : System py Ctx) (workflow_id : String) (ledger_state : OperationalLedgerState) :
    Prop :=
  ∃ session r, s.live.sessions.get workflow_id = some session ∧
    session.operational_execution_reference = some r ∧
    StrEnum.value r.stage = StrEnum.value ledger_state ∧
    r.ledger_state = .str (StrEnum.value ledger_state) ∧ r.terminal = true ∧
    session.state = if ledger_state = .verified then .completed else .blocked

/-- The mapping of `_from_status` at a final ledger state. -/
theorem statusMapping_final {ledger_state : OperationalLedgerState}
    (hfinal : ledger_state ∈ finalStates) :
    StrEnum.value (statusMapping ledger_state).1 = StrEnum.value ledger_state ∧
      (statusMapping ledger_state).2.1 =
        (if ledger_state = .verified then .completed else .blocked) ∧
      (statusMapping ledger_state).2.2 = true := by
  cases ledger_state <;> first | exact ⟨rfl, rfl, rfl⟩ | simp [finalStates] at hfinal

/-! ## Stores that succeed -/

/-- The invariant of the stores: the sessions are stored under their identifiers, and what a
coordinator keeps was accepted for writing. -/
structure System.Settled (o : OperationalExecutionOrchestrator Ctx) (s : System py Ctx) : Prop where
  keyed : s.Keyed
  accepted : ∀ c ∈ o.persistence, ∃ payload, s.live.Accepted c.context_model payload

/-- A session that waits for no approval can replace any session of its identifier. -/
theorem Aggregate.Accepted.setSession {ctx : ContextModel Ctx} {a : Aggregate py Ctx}
    {payload : Fields} (h : a.Accepted ctx payload) {session : Session py Ctx}
    (hwaiting : a.waitingPurpose session.toWorkflowSession = none)
    (hencodes : session.checkEncode py = .ok ()) :
    ∃ payload', Accepted ctx { a with sessions := a.sessions.set session.identifier session }
      payload' := by
  obtain ⟨hsessions, happrovals⟩ := Aggregate.validateAggregate_eq_ok.mp h.valid
  obtain ⟨hencoded, -⟩ := encodePayload_eq_ok.mp h.encoded
  let candidate := { a with sessions := a.sessions.set session.identifier session }
  have hget (id : String) (s : Session py Ctx) (hs : candidate.sessions.get id = some s) :
      (session.identifier = id ∧ session = s) ∨ a.sessions.get id = some s := by
    rw [Dict.get_set] at hs
    by_cases hid : session.identifier = id
    · rw [if_pos hid] at hs
      exact .inl ⟨hid, Option.some.inj hs⟩
    · rw [if_neg hid] at hs
      exact .inr hs
  have hsame (s : WorkflowSession Ctx) : candidate.waitingPurpose s = a.waitingPurpose s := rfl
  refine ⟨_, Aggregate.validateAggregate_eq_ok.mpr ⟨fun id s hs => ?_, fun id r hr => ?_⟩,
    encodePayload_eq_ok.mpr ⟨fun id s hs => ?_, rfl⟩⟩
  · rcases hget id s hs with ⟨rfl, rfl⟩ | hold
    · rw [Aggregate.validateSession, hsame, hwaiting]
      simp
    · exact hsessions id s hold
  · obtain ⟨hid, hrequest, hworkflow⟩ := validateApproval_eq_ok.mp (happrovals id r hr)
    refine validateApproval_eq_ok.mpr ⟨hid, hrequest, fun hne => ?_⟩
    obtain ⟨s, hs⟩ := hworkflow hne
    generalize r.toApprovalResult.request.workflow_id = workflow_id at hs ⊢
    cases workflow_id with
    | str key =>
      simp only [lookupUnchecked, Except.ok.injEq] at hs ⊢
      by_cases hkey : session.identifier = key
      · exact ⟨session, by rw [Dict.get_set, if_pos hkey]⟩
      · exact ⟨s, by rw [Dict.get_set, if_neg hkey, hs]⟩
    | _ => simp [lookupUnchecked] at hs
  · rcases hget id s hs with ⟨-, rfl⟩ | hold
    · exact hencodes
    · exact hencoded id s hold

/-- Whatever a store does, the coordinator's stores stay accepted. -/
theorem System.Settled.store {o : OperationalExecutionOrchestrator Ctx} {s : System py Ctx}
    (h : s.Settled o) (fault : Option WriteStep) (session : Session py Ctx)
    (reference : OperationalExecutionReference) (state : WorkflowSessionState) :
    (exec (o.store fault session reference state) s).2.Settled o := by
  refine ⟨store_keyed o fault session reference state h.keyed, fun c hc => ?_⟩
  rw [OperationalExecutionOrchestrator.store, exec_lift_bind]
  cases session.replace _ with
  | error e => exact h.accepted c hc
  | ok updated =>
    dsimp only
    rw [Option.mem_def.mp hc]
    dsimp only
    by_cases hcommits : ∃ result candidate payload, Coordinator.Commits c
        (setSession session.identifier updated) s result candidate payload
    · obtain ⟨result, candidate, payload, hcommit⟩ := hcommits
      cases fault with
      | none =>
        rw [hcommit.exec_none]
        exact ⟨payload, hcommit.accepted⟩
      | some w =>
        obtain ⟨e, he⟩ := hcommit.exec_some w
        rw [he]
        cases w.afterReplace <;> exact h.accepted c hc
    · push Not at hcommits
      obtain ⟨e, he⟩ := Coordinator.exec_mutateAggregate_of_not_commits hcommits fault
      rw [he]
      exact h.accepted c hc

theorem System.Settled.step {o : OperationalExecutionOrchestrator Ctx} {w : Orchestration py Ctx}
    (h : w.system.Settled o) (event : ResumeEvent) : (w.step o event).system.Settled o := by
  have hwrote := step_wrote o w event
  generalize (w.step o event).system = s at hwrote
  cases hwrote with
  | nothing => exact h
  | blocked | unsubmitted | dispatched | observed => exact h.store _ _ _ _

theorem run_settled {o : OperationalExecutionOrchestrator Ctx} {w : Orchestration py Ctx}
    (h : w.system.Settled o) (events : List ResumeEvent) : (w.run o events).system.Settled o := by
  induction events using List.reverseRecOn with
  | nil => exact h
  | append_singleton events event ih =>
    rw [Orchestration.run_append]
    exact ih.step event

/-- A session in a state that waits for nothing is stored, if no write step fails. -/
theorem System.Settled.store_succeeds {o : OperationalExecutionOrchestrator Ctx} {s : System py Ctx}
    (h : s.Settled o) {session : Session py Ctx} {request : OperationalActionRequest}
    (hrequest : session.operational_action_request = some request)
    (hencodes : ∀ c ∈ o.persistence, session.checkEncode py = .ok ())
    {reference : OperationalExecutionReference} (hid : reference.request_id = request.request_id)
    (hdigest : reference.request_digest = request.request_digest) {state : WorkflowSessionState}
    (hstate : state = .completed ∨ state = .blocked) :
    ∃ stored : Session py Ctx,
      (exec (o.store none session reference state) s).2.live.sessions.get session.identifier =
        some stored ∧
      stored.operational_execution_reference = some reference ∧ stored.state = state := by
  obtain ⟨updated, hreplace, hupdated⟩ := session.replace_reference hrequest hid hdigest state
  refine ⟨updated, ?_, by rw [hupdated], by rw [hupdated]⟩
  rw [OperationalExecutionOrchestrator.store, hreplace, exec_lift_ok_bind]
  cases hpersistence : o.persistence with
  | none => exact Dict.get_set_self _ _ _
  | some c =>
    obtain ⟨payload, haccepted⟩ := h.accepted c hpersistence
    have hwaiting : s.live.waitingPurpose updated.toWorkflowSession = none := by
      rcases hstate with rfl | rfl <;> simp [hupdated, Aggregate.waitingPurpose, WAITING_PURPOSES]
    have hcheck : updated.checkEncode py = .ok () := by
      rw [hupdated]
      exact hencodes c hpersistence
    obtain ⟨payload', haccepted'⟩ := haccepted.setSession hwaiting hcheck
    have hidentifier : updated.identifier = session.identifier := by rw [hupdated]
    rw [hidentifier] at haccepted'
    have hcommit : Coordinator.Commits c (setSession session.identifier updated) s ()
        { s.live with sessions := s.live.sessions.set session.identifier updated } payload' :=
      ⟨rfl, haccepted'⟩
    dsimp only
    rw [hcommit.exec_none]
    exact Dict.get_set_self _ _ _

/-! ## Reading the status -/

/-- A stored reference is about the request of its session. -/
theorem Session.reference_binds (session : Session py Ctx) {request : OperationalActionRequest}
    (hrequest : session.operational_action_request = some request)
    {reference : OperationalExecutionReference}
    (hreference : session.operational_execution_reference = some reference) :
    reference.request_id = request.request_id ∧
      reference.request_digest = request.request_digest := by
  have hinit := session.built.postInit
  simp only [WorkflowSession.postInit, check_bind_eq_ok] at hinit
  obtain ⟨-, -, -, -, -, -, hbinds⟩ := hinit
  simpa [hrequest, hreference] using hbinds

/-- A call that finds an approved action with an answered dispatch reads the status. -/
theorem resume_reads {o : OperationalExecutionOrchestrator Ctx} {s : System py Ctx}
    {workflow_id : String} {session : Session py Ctx} {request : OperationalActionRequest}
    {reference : OperationalExecutionReference} {approval : Approval} {now : DateTime}
    (hfound : s.live.sessions.get workflow_id = some session)
    (heffect : session.effect_kind = .operationalAction)
    (hrequest : session.operational_action_request = some request)
    (happroval : validatedApproval s.live now session.toWorkflowSession request = .ok (.ok approval))
    (hreference : session.operational_execution_reference = some reference)
    (hanswered : submits reference.stage = false) (fault : Option WriteStep) (later : DateTime) :
    exec (o.resume fault now later workflow_id) s =
      (.ok (.awaits (.status session request reference)), s) := by
  have hid := (session.reference_binds hrequest hreference).1
  simp [resume, hfound, heffect, hrequest, happroval, hreference, hid, hanswered]

/-- A call that finds an approved action whose submission was not answered submits it again. -/
theorem resume_resubmits {o : OperationalExecutionOrchestrator Ctx} {s : System py Ctx}
    {workflow_id : String} {session : Session py Ctx} {request : OperationalActionRequest}
    {reference : OperationalExecutionReference} {approval : Approval} {now : DateTime}
    (hfound : s.live.sessions.get workflow_id = some session)
    (heffect : session.effect_kind = .operationalAction)
    (hrequest : session.operational_action_request = some request)
    (happroval : validatedApproval s.live now session.toWorkflowSession request = .ok (.ok approval))
    (hreference : session.operational_execution_reference = some reference)
    (hunanswered : submits reference.stage = true)
    (hpolicy : o.execution_policy request.execution_intent = true) (fault : Option WriteStep)
    (later : DateTime) :
    exec (o.resume fault now later workflow_id) s =
      (.ok (.awaits (.dispatch session request approval)), s) := by
  have hid := (session.reference_binds hrequest hreference).1
  simp [resume, submit, hfound, heffect, hrequest, happroval, hreference, hid, hunanswered, hpolicy]

/-- A call whose approval is refused ends. -/
theorem resume_refused {o : OperationalExecutionOrchestrator Ctx} {s : System py Ctx}
    {workflow_id reason : String} {session : Session py Ctx} {request : OperationalActionRequest}
    {now : DateTime} (hfound : s.live.sessions.get workflow_id = some session)
    (heffect : session.effect_kind = .operationalAction)
    (hrequest : session.operational_action_request = some request)
    (happroval : validatedApproval s.live now session.toWorkflowSession request =
      .ok (.error reason)) (fault : Option WriteStep) (later : DateTime) :
    exec (o.resume fault now later workflow_id) s = (.ok (.returned (some reason)), s) := by
  simp [resume, hfound, heffect, hrequest, happroval]

/-- A final answer of Core is stored, if no write step fails. -/
theorem System.Settled.observed_shows {o : OperationalExecutionOrchestrator Ctx}
    {s : System py Ctx} (h : s.Settled o) {session : Session py Ctx}
    {request : OperationalActionRequest} {reference : OperationalExecutionReference}
    (hrequest : session.operational_action_request = some request)
    (hreference : session.operational_execution_reference = some reference)
    (hencodes : ∀ c ∈ o.persistence, session.checkEncode py = .ok ())
    {status : CoreOperationalLifecycleStatus} (hfinal : status.ledger_state ∈ finalStates)
    (hdigest : status.request_digest = request.request_digest) (now : DateTime) :
    Shows (exec (o.observed none now session request reference (some status)) s).2
      session.identifier status.ledger_state := by
  obtain ⟨hstage, hstate, hterminal⟩ := statusMapping_final hfinal
  obtain ⟨hid, hdigest'⟩ := session.reference_binds hrequest hreference
  have hwaits : (statusMapping status.ledger_state).2.1 = .completed ∨
      (statusMapping status.ledger_state).2.1 = .blocked := by
    rw [hstate]
    split
    · exact .inl rfl
    · exact .inr rfl
  obtain ⟨stored, hget, hstored, hstored_state⟩ := h.store_succeeds hrequest hencodes
    (show (statusReference reference now status).request_id = request.request_id from hid)
    (show (statusReference reference now status).request_digest = request.request_digest
      from hdigest') hwaits
  rw [observed, if_neg (not_not.mpr hdigest)]
  dsimp only [fromStatus]
  rw [exec_store_bind]
  exact ⟨stored, _, hget, hstored, hstage, rfl, hterminal, hstored_state.trans hstate⟩

/-! ## Runs -/

/-- A resume of a workflow asks Core for the status and for nothing else, and, whatever happens
before the answer, it ends with a final answer for the same digest in the stores. -/
def Orchestration.Reconciles (o : OperationalExecutionOrchestrator Ctx) (w : Orchestration py Ctx)
    (now later : DateTime) (workflow_id : String) : Prop :=
  ∃ session request reference,
    w.step o (.resume none now later workflow_id) =
      ⟨w.system, w.calls ++ [some (.status session request reference)]⟩ ∧
    ∀ between status observed_at,
      let w' := (w.step o (.resume none now later workflow_id)).run o between
      w'.calls[w.calls.length]? = some (some (.status session request reference)) →
      status.ledger_state ∈ finalStates → status.request_digest = request.request_digest →
      Shows (w'.step o (.observed w.calls.length none observed_at (some status))).system workflow_id
        status.ledger_state

/-- In every state of every run: while its approval is accepted, an action with an answered
dispatch is reconciled, and an action whose submission was not answered is submitted again. -/
theorem reconciles_answered (o : OperationalExecutionOrchestrator Ctx) (w : Orchestration py Ctx)
    (h : w.system.Settled o) (events : List ResumeEvent) {workflow_id : String}
    {session : Session py Ctx} {request : OperationalActionRequest}
    {reference : OperationalExecutionReference} {approval : Approval} (now later : DateTime)
    (hfound : (w.run o events).system.live.sessions.get workflow_id = some session)
    (heffect : session.effect_kind = .operationalAction)
    (hrequest : session.operational_action_request = some request)
    (hreference : session.operational_execution_reference = some reference)
    (happroval : validatedApproval (w.run o events).system.live now session.toWorkflowSession
      request = .ok (.ok approval)) :
    (reference.stage ∉ [.executionBlocked, .submissionOutcomeUnknown] →
      (w.run o events).Reconciles o now later workflow_id) ∧
    (reference.stage = .submissionOutcomeUnknown →
      o.execution_policy request.execution_intent = true →
      (w.run o events).step o (.resume none now later workflow_id) =
        ⟨(w.run o events).system,
          (w.run o events).calls ++ [some (.dispatch session request approval)]⟩) := by
  have hsettled := run_settled h events
  generalize w.run o events = w' at hfound happroval hsettled ⊢
  obtain rfl := hsettled.keyed workflow_id session hfound
  refine ⟨fun hstage => ?_, fun hstage hpolicy => ?_⟩
  · have hanswered : submits reference.stage = false := by simpa [submits] using hstage
    have hreads := resume_reads (o := o) hfound heffect hrequest happroval hreference hanswered none
      later
    have hstep : w'.step o (.resume none now later session.identifier) =
        ⟨w'.system, w'.calls ++ [some (.status session request reference)]⟩ := by
      rw [Orchestration.step, hreads]
      rfl
    refine ⟨session, request, reference, hstep, ?_⟩
    intro between status observed_at answered hwaits hfinal hdigest
    rw [Orchestration.step, hwaits]
    refine (run_settled (hsettled.step _) between).observed_shows hrequest hreference
      (fun c hc => ?_) hfinal hdigest observed_at
    obtain ⟨payload, haccepted⟩ := hsettled.accepted c hc
    exact (encodePayload_eq_ok.mp haccepted.encoded).1 _ session hfound
  · have hunanswered : submits reference.stage = true := by simp [submits, hstage]
    rw [Orchestration.step, resume_resubmits hfound heffect hrequest happroval hreference hunanswered
      hpolicy none later]
    rfl

/-! ## An expired approval and a lost answer -/

/-- The plain Agent after the submission of its request, with what the Agent stored. -/
structure Submitted (w : Orchestration .plain Fields) (reference : OperationalExecutionReference) :
    Prop where
  found : ∃ session : Session .plain Fields, w.system.live.sessions.get "w" = some session ∧
    session.effect_kind = .operationalAction ∧
    session.operational_action_request = some .plain ∧
    session.operational_execution_reference = some reference ∧
    session.identifier = "w" ∧ session.operational_action_approval_id = .str "a"
  approval : w.system.live.approvals.get "a" = some .plain

theorem Submitted.reference {w : Orchestration .plain Fields}
    {reference : OperationalExecutionReference} (h : Submitted w reference) :
    w.system.reference "w" = some reference := by
  obtain ⟨session, hget, -, -, hreference, -⟩ := h.found
  rw [System.reference, hget, Option.bind_some, hreference]

/-- The submission of the plain request, with what Core answers. -/
def submission (answer : Option CoreOperationalDispatchResult) : List ResumeEvent :=
  [.resume none (.utc ⟨1, one_lt_MAX_MICROS⟩) (.utc ⟨1, one_lt_MAX_MICROS⟩) "w",
    .dispatched 0 none (.utc ⟨1, one_lt_MAX_MICROS⟩) (.utc ⟨1, one_lt_MAX_MICROS⟩) answer]

/-- A submission stores the reference that it makes from the answer. -/
theorem submitted_of_stores {answer : Option CoreOperationalDispatchResult}
    {reference : OperationalExecutionReference} {state : WorkflowSessionState}
    (hid : reference.request_id = "r")
    (hdigest : reference.request_digest = OperationalActionRequest.plain.request_digest)
    (hstores : ∀ s, (exec (OperationalExecutionOrchestrator.plain.dispatched none
        (.utc ⟨1, by decide⟩) (.utc ⟨1, by decide⟩) .plain .plain answer) s).2 =
      (exec (OperationalExecutionOrchestrator.plain.store none .plain reference state) s).2) :
    Submitted (Orchestration.plain.run .plain (submission answer)) reference := by
  have hresume := resume_dispatches (o := .plain) get_session_plain rfl rfl validatedApproval_plain
    rfl rfl none (.utc ⟨1, by decide⟩)
  obtain ⟨updated, hreplace, hupdated⟩ := Session.plain.replace_reference rfl hid hdigest state
  have hstore : (exec (OperationalExecutionOrchestrator.plain.store none .plain reference state)
      Orchestration.plain.system).2 = { Orchestration.plain.system with
        live := { Orchestration.plain.system.live with
          sessions := Orchestration.plain.system.live.sessions.set "w" updated } } := by
    rw [OperationalExecutionOrchestrator.store, hreplace, exec_lift_ok_bind]
    rfl
  have hrun : Orchestration.plain.run .plain (submission answer) =
      ⟨{ Orchestration.plain.system with
        live := { Orchestration.plain.system.live with
          sessions := Orchestration.plain.system.live.sessions.set "w" updated } }, [none]⟩ := by
    rw [← hstore, ← hstores]
    simp only [submission, Orchestration.run, List.foldl_cons, List.foldl_nil, Orchestration.step,
      hresume]
    rfl
  rw [hrun]
  refine ⟨⟨updated, Dict.get_set_self _ _ _, ?_⟩, Dict.get_set_self _ _ _⟩
  rw [hupdated]
  exact ⟨rfl, rfl, rfl, rfl, rfl⟩

theorem submitted_answered : Submitted (Orchestration.plain.run .plain
    (submission (some acceptedResult)))
    (dispatchReference .plain (.utc ⟨1, by decide⟩) acceptedResult) := by
  refine @submitted_of_stores _ _ .verifying rfl rfl fun s => ?_
  have hfrom : fromDispatch .plain (.utc ⟨1, by decide⟩) acceptedResult =
      .ok (dispatchReference .plain (.utc ⟨1, by decide⟩) acceptedResult, .verifying) := by
    simp [fromDispatch, acceptedResult, OperationalActionRequest.plain]
  rw [dispatched, hfrom, exec_lift_ok_bind]
  exact exec_store_bind

theorem submitted_lost : Submitted (Orchestration.plain.run .plain (submission none))
    (unknownReference .plain (.utc ⟨1, by decide⟩) (.utc ⟨1, by decide⟩)) := by
  refine @submitted_of_stores _ _ .executing rfl rfl fun s => ?_
  rw [dispatched]
  exact exec_store_bind

/-- An approval that binds the session is refused once the request is expired. -/
theorem validatedApproval_expired {a : Aggregate py Ctx} {now : DateTime}
    {session : WorkflowSession Ctx} {request : OperationalActionRequest} {approval : Approval}
    {metadata : OperationalApprovalMetadata}
    (named : session.operational_action_approval_id ≠ .null)
    (found : lookupUnchecked a.approvals session.operational_action_approval_id =
      .ok (some approval))
    (purpose : approval.request.purpose = .operationalAction)
    (described : approval.request.operational_metadata = some metadata)
    (identifier : .str approval.request.identifier = session.operational_action_approval_id)
    (workflow_id : approval.request.workflow_id = .str session.identifier)
    (approved : approval.status = .approved) (expired : request.expires_at.le now = .ok true) :
    validatedApproval a now session request = .ok (.error "operational_approval_expired") := by
  rw [validatedApproval, if_neg named, found]
  simp [purpose, described, identifier, workflow_id, approved, expired]

/-- The approval of the plain request is accepted until it expires. -/
theorem validatedApproval_submitted {a : Aggregate .plain Fields} {session : Session .plain Fields}
    (hidentifier : session.identifier = "w")
    (happroval_id : session.operational_action_approval_id = .str "a")
    (happroval : a.approvals.get "a" = some .plain) {now : DateTime} :
    (OperationalActionRequest.plain.expires_at.le now = .ok false →
      validatedApproval a now session.toWorkflowSession .plain = .ok (.ok .plain)) ∧
    (OperationalActionRequest.plain.expires_at.le now = .ok true →
      validatedApproval a now session.toWorkflowSession .plain =
        .ok (.error "operational_approval_expired")) := by
  have hget : lookupUnchecked a.approvals session.operational_action_approval_id =
      .ok (some .plain) := by
    rw [happroval_id, lookupUnchecked, happroval]
  constructor
  · intro hlive
    exact Approved.validated
      { named := by simp [happroval_id]
        found := hget
        purpose := rfl
        described := rfl
        identifier := happroval_id.symm
        workflow_id := by rw [hidentifier]; rfl
        approved := rfl
        live := hlive
        metadata_live := hlive
        binds := by decide }
  · exact validatedApproval_expired (by simp [happroval_id]) hget rfl rfl
      happroval_id.symm (by rw [hidentifier]; rfl) rfl

/-- The dispatch of the first Agent was answered, but its approval is expired when it asks for the
status. The dispatch of the second was not answered, and is submitted again. -/
theorem not_reconciles_expired_or_lost :
    (∃ r, (Orchestration.plain.run .plain (submission (some acceptedResult))).system.reference "w" =
        some r ∧ r.submitted_at ≠ none ∧ r.stage = .verificationPending) ∧
    ¬ (Orchestration.plain.run .plain (submission (some acceptedResult))).Reconciles .plain
      (.utc ⟨10, by decide⟩) (.utc ⟨10, by decide⟩) "w" ∧
    (∃ r, (Orchestration.plain.run .plain (submission none)).system.reference "w" =
        some r ∧ r.submitted_at ≠ none ∧ r.stage = .submissionOutcomeUnknown) ∧
    ¬ (Orchestration.plain.run .plain (submission none)).Reconciles .plain
      (.utc ⟨1, by decide⟩) (.utc ⟨1, by decide⟩) "w" := by
  obtain ⟨⟨session, hget, heffect, hrequest, hreference, hid, happroval_id⟩, happroval⟩ :=
    submitted_answered
  obtain ⟨⟨session', hget', heffect', hrequest', hreference', hid', happroval_id'⟩, happroval'⟩ :=
    submitted_lost
  refine ⟨⟨_, submitted_answered.reference, nofun, rfl⟩, ?_,
    ⟨_, submitted_lost.reference, nofun, rfl⟩, ?_⟩
  · have hexpired : OperationalActionRequest.plain.expires_at.le (.utc ⟨10, by decide⟩) =
        .ok true := by decide
    have hrefused := resume_refused (o := .plain) hget heffect hrequest
      ((validatedApproval_submitted hid happroval_id happroval).2 hexpired) none
      (.utc ⟨10, by decide⟩)
    rintro ⟨_, _, _, hstep, -⟩
    rw [Orchestration.step, hrefused] at hstep
    have hlength := congrArg (fun w => w.calls.length) hstep
    simp [waiting] at hlength
  · have hlive : OperationalActionRequest.plain.expires_at.le (.utc ⟨1, by decide⟩) =
        .ok false := by decide
    have hresubmits := resume_resubmits (o := .plain) hget' heffect' hrequest'
      ((validatedApproval_submitted hid' happroval_id' happroval').1 hlive) hreference' rfl rfl none
      (.utc ⟨1, by decide⟩)
    rintro ⟨_, _, _, hstep, -⟩
    rw [Orchestration.step, hresubmits] at hstep
    have hlast := congrArg (fun w => w.calls.getLast?) hstep
    simp [waiting] at hlast

theorem settled_plain : Orchestration.plain.system.Settled .plain where
  keyed := sound_plain.keyed
  accepted := nofun

/-- The answered submission is reconciled before its approval expires. -/
theorem reconciles_submitted :
    (Orchestration.plain.run .plain (submission (some acceptedResult))).Reconciles .plain
      (.utc ⟨2, by decide⟩) (.utc ⟨2, by decide⟩) "w" := by
  obtain ⟨⟨session, hget, heffect, hrequest, hreference, hid, happroval_id⟩, happroval⟩ :=
    submitted_answered
  exact (reconciles_answered .plain .plain settled_plain (submission (some acceptedResult))
    (.utc ⟨2, by decide⟩) (.utc ⟨2, by decide⟩) hget heffect hrequest hreference
    ((validatedApproval_submitted hid happroval_id happroval).1 (by decide))).1 (by decide)

end AtlasOS.Agent
