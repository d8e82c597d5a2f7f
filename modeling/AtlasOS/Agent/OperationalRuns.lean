import Mathlib.Data.List.Induction
import AtlasOS.Agent.Operational
import AtlasOS.Core.Dispatch.Runtime

/-!
# Concurrent calls of the orchestrator

Any number of `resume` calls run at the same time. A call reads the session, waits
for Core and then stores a reference that it derives from what it had read, and
nothing keeps another call from storing in between. A run is a sequence of such
steps, with any answers of Core.
-/

namespace AtlasOS.Agent

open Effect OperationalExecutionOrchestrator

variable {py : Python} {Ctx : Type}

/-! ## Runs -/

/-- The Agent with the calls that wait for Core; a call that ended leaves its place empty. -/
structure Orchestration (py : Python) (Ctx : Type) where
  system : System py Ctx
  calls : List (Option (Awaiting py Ctx))

/-- What can happen. -/
inductive ResumeEvent where
  /-- A new call of `resume`. -/
  | resume (fault : Option WriteStep) (now later : DateTime) (workflow_id : String)
  /-- Core answers the dispatch of a call, or the client raises. -/
  | dispatched (index : ℕ) (fault : Option WriteStep) (now later : DateTime)
      (answer : Option CoreOperationalDispatchResult)
  /-- Core answers the status request of a call, or the client raises. -/
  | observed (index : ℕ) (fault : Option WriteStep) (now : DateTime)
      (answer : Option CoreOperationalLifecycleStatus)
  /-- A call is cancelled. -/
  | cancel (index : ℕ)

/-- The request to Core that a call waits for, if it waits. -/
def waiting : Except PyError (Progress py Ctx) → Option (Awaiting py Ctx)
  | .ok (.awaits awaiting) => some awaiting
  | _ => none

namespace Orchestration

/-- One step. -/
def step (o : OperationalExecutionOrchestrator Ctx) (w : Orchestration py Ctx) :
    ResumeEvent → Orchestration py Ctx
  | .resume fault now later workflow_id =>
      let (result, s) := exec (o.resume fault now later workflow_id) w.system
      ⟨s, w.calls ++ (waiting result).toList.map some⟩
  | .dispatched index fault now later answer =>
      match w.calls[index]? with
      | some (some (.dispatch session request _)) =>
          ⟨(exec (o.dispatched fault now later session request answer) w.system).2,
            w.calls.set index none⟩
      | _ => w
  | .observed index fault now answer =>
      match w.calls[index]? with
      | some (some (.status session request reference)) =>
          ⟨(exec (o.observed fault now session request reference answer) w.system).2,
            w.calls.set index none⟩
      | _ => w
  | .cancel index => ⟨w.system, w.calls.set index none⟩

/-- The state after a run. -/
def run (o : OperationalExecutionOrchestrator Ctx) (w : Orchestration py Ctx)
    (events : List ResumeEvent) : Orchestration py Ctx := events.foldl (step o) w

theorem run_append (o : OperationalExecutionOrchestrator Ctx) (w : Orchestration py Ctx)
    (events later : List ResumeEvent) :
    w.run o (events ++ later) = (w.run o events).run o later := by
  simp [run]

end Orchestration

/-- The stored reference of a session. -/
def System.reference (s : System py Ctx) (identifier : String) :
    Option OperationalExecutionReference :=
  (s.live.sessions.get identifier).bind (·.operational_execution_reference)

/-! ## What a store does -/

/-- A session is replaced as asked, if its checks accept the new fields. -/
theorem Session.replace_eq {session updated : Session py Ctx}
    {artifacts : WorkflowSession Ctx → WorkflowSession Ctx}
    (h : session.replace artifacts = .ok updated)
    (hrequest : (artifacts session.toWorkflowSession).operational_action_request =
      session.operational_action_request) :
    updated.toWorkflowSession = artifacts session.toWorkflowSession := by
  rw [Session.replace, Session.build_eq_ok, WorkflowSession.construct, hrequest] at h
  cases hoperational : session.operational_action_request with
  | none =>
    simp only [hoperational, check_bind_eq_ok, pure_eq_ok, Except.ok.injEq] at h
    exact h.2.symm
  | some request =>
    have hbuilt := (session.built.operational request hoperational).postInit
    simp only [hoperational, hbuilt, ok_bind, check_bind_eq_ok, pure_eq_ok, Except.ok.injEq] at h
    rw [← h.2, ← hoperational, ← hrequest]

/-- A session with another state and a reference to its own request is accepted. -/
theorem Session.replace_reference (session : Session py Ctx) {request : OperationalActionRequest}
    (hrequest : session.operational_action_request = some request)
    {reference : OperationalExecutionReference} (hid : reference.request_id = request.request_id)
    (hdigest : reference.request_digest = request.request_digest) (state : WorkflowSessionState) :
    ∃ updated : Session py Ctx,
      session.replace (fun s => { s with state, operational_execution_reference := some reference }) =
        .ok updated ∧
      updated.toWorkflowSession =
        { session.toWorkflowSession with
          state, operational_execution_reference := some reference } := by
  have hinit := session.built.postInit
  simp only [WorkflowSession.postInit, check_bind_eq_ok, require_eq_ok] at hinit
  obtain ⟨hworker, heffect, hrepository, hoperational, happroval, hmatch, -⟩ := hinit
  have hbuilt : ({ session.toWorkflowSession with
      state, operational_execution_reference := some reference } : WorkflowSession Ctx).Built py := by
    refine ⟨session.built.operational, ?_⟩
    simp only [WorkflowSession.postInit, check_bind_eq_ok, require_eq_ok]
    refine ⟨hworker, heffect, hrepository, hoperational, happroval, hmatch, ?_⟩
    simp [hrequest, hid, hdigest]
  exact ⟨⟨_, hbuilt⟩, Session.build_eq_ok.mpr hbuilt.construct, rfl⟩

/-- The live stores after `_store`: as they were, or with the updated session. -/
theorem store_live (o : OperationalExecutionOrchestrator Ctx) (fault : Option WriteStep)
    (session : Session py Ctx) (reference : OperationalExecutionReference)
    (state : WorkflowSessionState) (s : System py Ctx) :
    (exec (o.store fault session reference state) s).2.live = s.live ∨
      ∃ updated : Session py Ctx,
        updated.toWorkflowSession =
          { session.toWorkflowSession with
            state, operational_execution_reference := some reference } ∧
        (exec (o.store fault session reference state) s).2.live =
          { s.live with sessions := s.live.sessions.set session.identifier updated } := by
  rw [store, exec_lift_bind]
  cases hreplace : session.replace _ with
  | error e => exact .inl rfl
  | ok updated =>
    have hupdated := Session.replace_eq hreplace rfl
    dsimp only
    cases hpersistence : o.persistence with
    | none => exact .inr ⟨updated, hupdated, rfl⟩
    | some coordinator =>
      dsimp only
      by_cases hcommits : ∃ result candidate payload, Coordinator.Commits coordinator
          (setSession session.identifier updated) s result candidate payload
      · obtain ⟨result, candidate, payload, h⟩ := hcommits
        cases fault with
        | none =>
          rw [h.exec_none]
          refine .inr ⟨updated, hupdated, ?_⟩
          have hreturned := h.returned
          rw [setSession, Except.ok.injEq, Prod.mk.injEq] at hreturned
          exact hreturned.2.symm
        | some w =>
          obtain ⟨e, he⟩ := h.exec_some w
          rw [he]
          cases w.afterReplace <;> exact .inl rfl
      · push Not at hcommits
        obtain ⟨e, he⟩ := Coordinator.exec_mutateAggregate_of_not_commits hcommits fault
        rw [he]
        exact .inl rfl

/-- The stored references after `_store`. -/
theorem store_reference (o : OperationalExecutionOrchestrator Ctx) (fault : Option WriteStep)
    (session : Session py Ctx) (reference : OperationalExecutionReference)
    (state : WorkflowSessionState) (s : System py Ctx) (id : String) :
    (exec (o.store fault session reference state) s).2.reference id = s.reference id ∨
      (session.identifier = id ∧
        (exec (o.store fault session reference state) s).2.reference id = some reference) := by
  rcases store_live o fault session reference state s with hsame | ⟨updated, hupdated, hlive⟩
  · exact .inl (by rw [System.reference, hsame, System.reference])
  · rw [System.reference, hlive, System.reference]
    simp only [Dict.get_set]
    by_cases hid : session.identifier = id
    · rw [if_pos hid, Option.bind_some, hupdated]
      exact .inr ⟨hid, rfl⟩
    · rw [if_neg hid]
      exact .inl rfl

/-- What `resume` does up to its request to Core. -/
inductive Resumed (o : OperationalExecutionOrchestrator Ctx) (s : System py Ctx)
    (fault : Option WriteStep) (later : DateTime) (workflow_id : String) :
    Except PyError (Progress py Ctx) × System py Ctx → Prop
  /-- It ends without a change. -/
  | refused (result : Except PyError (Progress py Ctx)) (ended : waiting result = none) :
      Resumed o s fault later workflow_id (result, s)
  /-- It submits a request that was not answered before. -/
  | submits {session : Session py Ctx} {request : OperationalActionRequest} {approval : Approval}
      (found : s.live.sessions.get workflow_id = some session)
      (requested : session.operational_action_request = some request)
      (opened : ∀ r ∈ session.operational_execution_reference, submits r.stage = true) :
      Resumed o s fault later workflow_id (.ok (.awaits (.dispatch session request approval)), s)
  /-- It reads the status of a submitted request. -/
  | reconciles {session : Session py Ctx} {request : OperationalActionRequest}
      {reference : OperationalExecutionReference}
      (found : s.live.sessions.get workflow_id = some session)
      (requested : session.operational_action_request = some request)
      (referenced : session.operational_execution_reference = some reference)
      (submitted : OperationalExecutionOrchestrator.submits reference.stage = false) :
      Resumed o s fault later workflow_id (.ok (.awaits (.status session request reference)), s)
  /-- The gate is closed. -/
  | blocked {session : Session py Ctx} {request : OperationalActionRequest}
      (result : Except PyError (Progress py Ctx)) (ended : waiting result = none)
      (found : s.live.sessions.get workflow_id = some session)
      (requested : session.operational_action_request = some request)
      (opened : ∀ r ∈ session.operational_execution_reference,
        OperationalExecutionOrchestrator.submits r.stage = true) :
      Resumed o s fault later workflow_id (result,
        (exec (o.store fault session (blockedReference request later) session.state) s).2)

theorem submit_resumed {o : OperationalExecutionOrchestrator Ctx} {s : System py Ctx}
    {workflow_id : String} {session : Session py Ctx} {request : OperationalActionRequest}
    {approval : Approval} (found : s.live.sessions.get workflow_id = some session)
    (requested : session.operational_action_request = some request)
    (opened : ∀ r ∈ session.operational_execution_reference, submits r.stage = true)
    (fault : Option WriteStep) (later : DateTime) :
    Resumed o s fault later workflow_id (exec (o.submit fault later session request approval) s) := by
  rw [submit]
  split
  · exact .submits found requested opened
  · rw [exec_bind]
    rcases hstore : exec (o.store fault session (blockedReference request later) session.state) s
      with ⟨e | _, s'⟩
    · have hblocked : Resumed o s fault later workflow_id _ :=
        .blocked (.error e) rfl found requested opened
      rwa [hstore] at hblocked
    · have hblocked : Resumed o s fault later workflow_id _ :=
        .blocked (.ok (.returned (some "operational_execution_not_enabled"))) rfl found requested
          opened
      rwa [hstore] at hblocked

/-- Every call of `resume` does one of these. -/
theorem resume_resumed (o : OperationalExecutionOrchestrator Ctx) (fault : Option WriteStep)
    (now later : DateTime) (workflow_id : String) (s : System py Ctx) :
    Resumed o s fault later workflow_id (exec (o.resume fault now later workflow_id) s) := by
  rw [resume, exec_read_bind]
  cases hfound : s.live.sessions.get workflow_id with
  | none => exact .refused _ rfl
  | some session =>
    dsimp only
    split
    · exact .refused _ rfl
    · cases hrequest : session.operational_action_request with
      | none => exact .refused _ rfl
      | some request =>
        dsimp only
        rw [exec_lift_bind]
        cases validatedApproval s.live now session.toWorkflowSession request with
        | error e => exact .refused _ rfl
        | ok found =>
          cases found with
          | error reason => exact .refused _ rfl
          | ok approval =>
            dsimp only
            cases hreference : session.operational_execution_reference with
            | none =>
              exact submit_resumed hfound hrequest (by simp [hreference]) fault later
            | some reference =>
              dsimp only
              split
              · exact .refused _ rfl
              · split
                · next hsubmits =>
                  exact submit_resumed hfound hrequest (by simp [hreference, hsubmits]) fault later
                · next hsubmits =>
                  exact .reconciles hfound hrequest hreference (Bool.eq_false_iff.mpr hsubmits)

/-- The sessions are stored under their identifiers. -/
def System.Keyed (s : System py Ctx) : Prop :=
  ∀ id session, s.live.sessions.get id = some session → session.identifier = id

theorem store_keyed (o : OperationalExecutionOrchestrator Ctx) (fault : Option WriteStep)
    (session : Session py Ctx) (reference : OperationalExecutionReference)
    (state : WorkflowSessionState) {s : System py Ctx} (h : s.Keyed) :
    (exec (o.store fault session reference state) s).2.Keyed := by
  intro id stored hget
  rcases store_live o fault session reference state s with hsame | ⟨updated, hupdated, hlive⟩
  · rw [hsame] at hget
    exact h id stored hget
  · rw [hlive] at hget
    dsimp only at hget
    rw [Dict.get_set] at hget
    by_cases hid : session.identifier = id
    · rw [if_pos hid] at hget
      obtain rfl := Option.some.inj hget
      rw [hupdated]
      exact hid
    · rw [if_neg hid] at hget
      exact h id stored hget

/-! ## Progress of references -/

/-- How far a stage is. -/
def OperationalExecutionStage.rank : OperationalExecutionStage → ℕ
  | .executionBlocked => 0
  | .submissionOutcomeUnknown => 1
  | .dispatchPending => 2
  | .verificationPending => 3
  | .verified | .failed | .verificationFailed | .targetReplaced | .outcomeUnknown => 4

namespace OperationalExecutionReference

/-- The reference is terminal or carries a dispatch result. -/
def Recorded (r : OperationalExecutionReference) : Prop :=
  r.terminal = true ∨ r.dispatch_status ≠ .null

/-- A later reference is at no earlier stage, and keeps the end and the evidence. -/
structure Advances (r r' : OperationalExecutionReference) : Prop where
  stage : r.stage.rank ≤ r'.stage.rank
  terminal : r.terminal = true → r'.terminal = true
  dispatch : r.dispatch_status ≠ .null → r'.dispatch_status ≠ .null
  operation : r.provider_operation_id ≠ .null → r'.provider_operation_id ≠ .null
  verification : r.verification_status ≠ .null → r'.verification_status ≠ .null

theorem Advances.refl (r : OperationalExecutionReference) : r.Advances r :=
  ⟨le_rfl, id, id, id, id⟩

theorem Advances.trans {r r' r'' : OperationalExecutionReference} (h : r.Advances r')
    (h' : r'.Advances r'') : r.Advances r'' where
  stage := h.stage.trans h'.stage
  terminal := fun hr => h'.terminal (h.terminal hr)
  dispatch := fun hr => h'.dispatch (h.dispatch hr)
  operation := fun hr => h'.operation (h.operation hr)
  verification := fun hr => h'.verification (h.verification hr)

theorem Advances.recorded {r r' : OperationalExecutionReference} (h : r.Advances r')
    (hr : r.Recorded) : r'.Recorded :=
  hr.imp h.terminal h.dispatch

end OperationalExecutionReference

/-- Core's answer to a dispatch has at least what a reference has. -/
structure CoreOperationalDispatchResult.Covers (answer : CoreOperationalDispatchResult)
    (stored : OperationalExecutionReference) : Prop where
  stage : stored.stage.rank ≤ (dispatchStage answer.status).rank
  terminal : stored.terminal = true → answer.status ≠ .succeeded
  operation : stored.provider_operation_id ≠ .null → answer.provider_operation_id ≠ none
  verification : stored.verification_status = .null

/-- Core's answer to a status request, with what the call read before, has at least what a
reference has. -/
structure CoreOperationalLifecycleStatus.Covers (answer : CoreOperationalLifecycleStatus)
    (read stored : OperationalExecutionReference) : Prop where
  stage : stored.stage.rank ≤ (statusMapping answer.ledger_state).1.rank
  terminal : stored.terminal = true → (statusMapping answer.ledger_state).2.2 = true
  dispatch : stored.dispatch_status ≠ .null →
    answer.dispatch_result = none → read.dispatch_status ≠ .null
  operation : stored.provider_operation_id ≠ .null →
    match answer.dispatch_result with
    | some dispatch => dispatch.provider_operation_id ≠ none
    | none => read.provider_operation_id ≠ .null
  verification : stored.verification_status ≠ .null → answer.verification_result ≠ none

theorem optionalText_ne_null {text : Option String} :
    optionalText text ≠ .null ↔ text ≠ none := by
  cases text <;> simp [optionalText]

/-- What is stored from an answer advances exactly what the answer covers. -/
theorem advances_dispatchReference {request : OperationalActionRequest} {now : DateTime}
    {answer : CoreOperationalDispatchResult} {stored : OperationalExecutionReference} :
    stored.Advances (dispatchReference request now answer) ↔ answer.Covers stored := by
  constructor
  · intro h
    refine ⟨h.stage, fun hterminal => ?_, fun hoperation => ?_, ?_⟩
    · simpa [dispatchReference] using h.terminal hterminal
    · exact optionalText_ne_null.mp (h.operation hoperation)
    · by_contra hne
      exact h.verification hne rfl
  · intro h
    refine ⟨h.stage, fun hterminal => ?_, fun _ => nofun, fun hoperation => ?_, fun hne => ?_⟩
    · simpa [dispatchReference] using h.terminal hterminal
    · exact optionalText_ne_null.mpr (h.operation hoperation)
    · exact absurd h.verification hne

theorem advances_statusReference {read stored : OperationalExecutionReference} {now : DateTime}
    {answer : CoreOperationalLifecycleStatus} :
    stored.Advances (statusReference read now answer) ↔ answer.Covers read stored := by
  have hdispatch : (statusReference read now answer).dispatch_status ≠ .null ↔
      (answer.dispatch_result = none → read.dispatch_status ≠ .null) := by
    cases hresult : answer.dispatch_result <;> simp [statusReference, hresult]
  have hoperation : (statusReference read now answer).provider_operation_id ≠ .null ↔
      match answer.dispatch_result with
      | some dispatch => dispatch.provider_operation_id ≠ none
      | none => read.provider_operation_id ≠ .null := by
    cases hresult : answer.dispatch_result with
    | none => simp [statusReference, hresult]
    | some dispatch => simp only [statusReference, hresult]; exact optionalText_ne_null
  have hverification : (statusReference read now answer).verification_status ≠ .null ↔
      answer.verification_result ≠ none := by
    cases hresult : answer.verification_result <;> simp [statusReference, hresult]
  constructor
  · intro h
    exact ⟨h.stage, h.terminal, fun hne => hdispatch.mp (h.dispatch hne),
      fun hne => hoperation.mp (h.operation hne), fun hne => hverification.mp (h.verification hne)⟩
  · intro h
    exact ⟨h.stage, h.terminal, fun hne => hdispatch.mpr (h.dispatch hne),
      fun hne => hoperation.mpr (h.operation hne), fun hne => hverification.mpr (h.verification hne)⟩

/-! ## Steps -/

/-- What a step stores. -/
inductive Wrote (o : OperationalExecutionOrchestrator Ctx) (w : Orchestration py Ctx) :
    ResumeEvent → System py Ctx → Prop
  | nothing (event : ResumeEvent) : Wrote o w event w.system
  /-- The gate is closed for a request that was not answered before. -/
  | blocked {fault : Option WriteStep} {now later : DateTime} {workflow_id : String}
      {session : Session py Ctx} {request : OperationalActionRequest}
      (found : w.system.live.sessions.get workflow_id = some session)
      (opened : ∀ r ∈ session.operational_execution_reference, submits r.stage = true) :
      Wrote o w (.resume fault now later workflow_id)
        (exec (o.store fault session (blockedReference request later) session.state) w.system).2
  /-- The submission failed. -/
  | unsubmitted {index : ℕ} {fault : Option WriteStep} {now later : DateTime}
      {session : Session py Ctx} {request : OperationalActionRequest} {approval : Approval}
      (called : w.calls[index]? = some (some (.dispatch session request approval))) :
      Wrote o w (.dispatched index fault now later none)
        (exec (o.store fault session (unknownReference request now later) .executing) w.system).2
  /-- The dispatch was answered. -/
  | dispatched {index : ℕ} {fault : Option WriteStep} {now later : DateTime}
      {session : Session py Ctx} {request : OperationalActionRequest} {approval : Approval}
      {answer : CoreOperationalDispatchResult} {state : WorkflowSessionState}
      (called : w.calls[index]? = some (some (.dispatch session request approval)))
      (same_id : answer.request_id = request.request_id)
      (same_digest : answer.request_digest = request.request_digest) :
      Wrote o w (.dispatched index fault now later (some answer))
        (exec (o.store fault session (dispatchReference request now answer) state) w.system).2
  /-- The status was read. -/
  | observed {index : ℕ} {fault : Option WriteStep} {now : DateTime}
      {session : Session py Ctx} {request : OperationalActionRequest}
      {reference : OperationalExecutionReference} {answer : CoreOperationalLifecycleStatus}
      {state : WorkflowSessionState}
      (called : w.calls[index]? = some (some (.status session request reference)))
      (same_digest : answer.request_digest = request.request_digest) :
      Wrote o w (.observed index fault now (some answer))
        (exec (o.store fault session (statusReference reference now answer) state) w.system).2

theorem exec_store_bind {o : OperationalExecutionOrchestrator Ctx} {fault : Option WriteStep}
    {session : Session py Ctx} {reference : OperationalExecutionReference}
    {state : WorkflowSessionState} {progress : Progress py Ctx} {s : System py Ctx} :
    (exec (do o.store fault session reference state; return progress) s).2 =
      (exec (o.store fault session reference state) s).2 := by
  rw [exec_bind]
  rcases exec (o.store fault session reference state) s with ⟨_ | _, s'⟩ <;> rfl

/-- Every step stores one of these. -/
theorem step_wrote (o : OperationalExecutionOrchestrator Ctx) (w : Orchestration py Ctx)
    (event : ResumeEvent) : Wrote o w event (w.step o event).system := by
  cases event with
  | resume fault now later workflow_id =>
    have hresumed := resume_resumed o fault now later workflow_id w.system
    rw [Orchestration.step]
    dsimp only
    generalize exec (o.resume fault now later workflow_id) w.system = ended at hresumed
    rcases hresumed with _ | _ | _ | ⟨_, _, found, _, opened⟩
    · exact .nothing _
    · exact .nothing _
    · exact .nothing _
    · exact .blocked found opened
  | dispatched index fault now later answer =>
    rw [Orchestration.step]
    split
    · next session request approval hcalled =>
      cases answer with
      | none =>
        rw [OperationalExecutionOrchestrator.dispatched]
        dsimp only
        rw [exec_store_bind]
        exact .unsubmitted hcalled
      | some answer =>
        rw [OperationalExecutionOrchestrator.dispatched]
        dsimp only
        rw [exec_lift_bind]
        cases hfrom : fromDispatch request now answer with
        | error e => exact .nothing _
        | ok returned =>
          obtain ⟨reference, state⟩ := returned
          simp only [fromDispatch, check_bind_eq_ok, require_eq_ok, Bool.and_eq_true,
            decide_eq_true_eq, pure_eq_ok, Except.ok.injEq, Prod.mk.injEq] at hfrom
          obtain ⟨⟨hid, hdigest⟩, rfl, rfl⟩ := hfrom
          dsimp only
          rw [exec_store_bind]
          exact .dispatched hcalled hid hdigest
    · exact .nothing _
  | observed index fault now answer =>
    rw [Orchestration.step]
    split
    · next session request reference hcalled =>
      cases answer with
      | none => exact .nothing _
      | some status =>
        rw [OperationalExecutionOrchestrator.observed]
        split
        · exact .nothing _
        · next hdigest =>
          dsimp only [fromStatus]
          rw [exec_store_bind]
          exact .observed hcalled (not_not.mp hdigest)
    · exact .nothing _
  | cancel index => exact .nothing _

/-! ## Progress of runs -/

/-- The invariant of a run: the sessions are stored under their identifiers, and a reference
from which a call submits records nothing. -/
structure System.Sound (s : System py Ctx) : Prop where
  keyed : s.Keyed
  opened : ∀ id r, s.reference id = some r → submits r.stage = true → ¬ r.Recorded

theorem submits_statusMapping (state : Core.OperationalLedgerState) :
    submits (statusMapping state).1 = false := by
  cases state <;> rfl

theorem submits_dispatchStage (status : Core.OperationalDispatchStatus) :
    submits (dispatchStage status) = false := by
  cases status <;> rfl

/-- A store keeps the invariant, if what it stores is sound. -/
theorem System.Sound.store {s : System py Ctx} (h : s.Sound)
    (o : OperationalExecutionOrchestrator Ctx) (fault : Option WriteStep)
    (session : Session py Ctx) (reference : OperationalExecutionReference)
    (state : WorkflowSessionState) (hopened : submits reference.stage = true → ¬ reference.Recorded) :
    (exec (o.store fault session reference state) s).2.Sound where
  keyed := store_keyed o fault session reference state h.keyed
  opened := fun id r hr hsubmits => by
    rcases store_reference o fault session reference state s id with hsame | ⟨_, hnew⟩
    · exact h.opened id r (hsame ▸ hr) hsubmits
    · obtain rfl := Option.some.inj (hnew.symm.trans hr)
      exact hopened hsubmits

theorem System.Sound.step {w : Orchestration py Ctx} (h : w.system.Sound)
    (o : OperationalExecutionOrchestrator Ctx) (event : ResumeEvent) :
    (w.step o event).system.Sound := by
  have hwrote := step_wrote o w event
  generalize (w.step o event).system = s at hwrote
  cases hwrote with
  | nothing => exact h
  | blocked => exact h.store o _ _ _ _ fun _ hrecorded => by simp [
      OperationalExecutionReference.Recorded, blockedReference] at hrecorded
  | unsubmitted => exact h.store o _ _ _ _ fun _ hrecorded => by simp [
      OperationalExecutionReference.Recorded, unknownReference] at hrecorded
  | @dispatched _ _ now _ _ request _ answer =>
    refine h.store o _ _ _ _ fun hsubmits => ?_
    rw [show (dispatchReference request now answer).stage = dispatchStage answer.status from rfl,
      submits_dispatchStage] at hsubmits
    cases hsubmits
  | @observed _ _ now _ _ reference answer =>
    refine h.store o _ _ _ _ fun hsubmits => ?_
    rw [show (statusReference reference now answer).stage = (statusMapping answer.ledger_state).1
      from rfl, submits_statusMapping] at hsubmits
    cases hsubmits

/-- The event answers a call whose session has a recorded reference that the answer does not
cover. -/
def Orchestration.Regresses (w : Orchestration py Ctx) : ResumeEvent → Prop
  | .dispatched index _ _ _ answer => ∃ session request approval r,
      w.calls[index]? = some (some (.dispatch session request approval)) ∧
      w.system.reference session.identifier = some r ∧ r.Recorded ∧
      ∀ dispatch, answer = some dispatch → ¬ dispatch.Covers r
  | .observed index _ _ (some status) => ∃ session request reference r,
      w.calls[index]? = some (some (.status session request reference)) ∧
      w.system.reference session.identifier = some r ∧ r.Recorded ∧ ¬ status.Covers reference r
  | _ => False

/-- A step that does not regress advances every recorded reference. -/
theorem step_advances {w : Orchestration py Ctx} (h : w.system.Sound)
    (o : OperationalExecutionOrchestrator Ctx) {event : ResumeEvent} (hsafe : ¬ w.Regresses event)
    {id : String} {r : OperationalExecutionReference} (hr : w.system.reference id = some r)
    (hrecorded : r.Recorded) :
    ∃ r', (w.step o event).system.reference id = some r' ∧ r.Advances r' := by
  have hwrote := step_wrote o w event
  generalize (w.step o event).system = s at hwrote
  -- a store leaves the reference, or replaces it
  have hstore (fault : Option WriteStep) (session : Session py Ctx)
      (reference : OperationalExecutionReference) (state : WorkflowSessionState)
      (hadvances : session.identifier = id → r.Advances reference) :
      ∃ r', (exec (o.store fault session reference state) w.system).2.reference id = some r' ∧
        r.Advances r' := by
    rcases store_reference o fault session reference state w.system id with hsame | ⟨hid, hnew⟩
    · exact ⟨r, hsame.trans hr, .refl r⟩
    · exact ⟨reference, hnew, hadvances hid⟩
  cases hwrote with
  | nothing => exact ⟨r, hr, .refl r⟩
  | @blocked _ _ _ workflow_id session _ found opened =>
    refine hstore _ _ _ _ fun hid => ?_
    have hkey := h.keyed workflow_id session found
    rw [System.reference, ← hid, hkey, found, Option.bind_some] at hr
    refine absurd hrecorded (h.opened workflow_id r ?_ (opened r hr))
    rw [System.reference, found, Option.bind_some, hr]
  | @unsubmitted _ _ _ _ session request approval called =>
    refine hstore _ _ _ _ fun hid => ?_
    exact absurd ⟨session, request, approval, r, called, hid ▸ hr, hrecorded, nofun⟩ hsafe
  | @dispatched _ _ _ _ session request approval answer _ called =>
    refine hstore _ _ _ _ fun hid => advances_dispatchReference.mpr ?_
    by_contra hcovers
    refine hsafe ⟨session, request, approval, r, called, hid ▸ hr, hrecorded, ?_⟩
    rintro dispatch hdispatch
    cases hdispatch
    exact hcovers
  | @observed _ _ _ session request reference answer _ called =>
    refine hstore _ _ _ _ fun hid => advances_statusReference.mpr ?_
    by_contra hcovers
    exact hsafe ⟨session, request, reference, r, called, hid ▸ hr, hrecorded, hcovers⟩

theorem run_sound {w : Orchestration py Ctx} (h : w.system.Sound)
    (o : OperationalExecutionOrchestrator Ctx) (events : List ResumeEvent) :
    (w.run o events).system.Sound := by
  induction events using List.reverseRecOn with
  | nil => exact h
  | append_singleton events event ih =>
    rw [Orchestration.run_append]
    exact ih.step o event

/-- No step of the run stores an answer behind a recorded reference. -/
def Orchestration.Forward (o : OperationalExecutionOrchestrator Ctx) (w : Orchestration py Ctx)
    (events : List ResumeEvent) : Prop :=
  ∀ before event after, events = before ++ event :: after → ¬ (w.run o before).Regresses event

/-- In every part of the run a recorded reference is only ever replaced by one that advances
it. -/
def Orchestration.Monotone (o : OperationalExecutionOrchestrator Ctx) (w : Orchestration py Ctx)
    (events : List ResumeEvent) : Prop :=
  ∀ earlier later, events = earlier ++ later → ∀ id r,
    (w.run o earlier).system.reference id = some r → r.Recorded →
      ∃ r', (w.run o events).system.reference id = some r' ∧ r.Advances r'

/-- A run that starts from a sound state and stores no answer behind a recorded reference is
monotone. -/
theorem monotone_of_forward (o : OperationalExecutionOrchestrator Ctx) (w : Orchestration py Ctx)
    (h : w.system.Sound) (events : List ResumeEvent) (hforward : w.Forward o events) :
    w.Monotone o events := by
  rintro earlier later rfl id r hr hrecorded
  induction later using List.reverseRecOn with
  | nil => exact ⟨r, by rw [List.append_nil, hr], .refl r⟩
  | append_singleton later event ih =>
    obtain ⟨r', hr', hadvances⟩ := ih fun before event' after heq =>
      hforward before event' (after ++ [event]) (by rw [← List.append_assoc, heq]; simp)
    rw [← List.append_assoc] at hforward ⊢
    rw [Orchestration.run_append]
    obtain ⟨r'', hr'', hadvances'⟩ := step_advances (run_sound h o (earlier ++ later)) o
      (hforward _ event [] rfl) hr' (hadvances.recorded hrecorded)
    exact ⟨r'', hr'', hadvances.trans hadvances'⟩

/-! ## A lost answer -/

/-- Without a coordinator a store always happens. -/
theorem store_unpersisted {o : OperationalExecutionOrchestrator Ctx} (ho : o.persistence = none)
    {session : Session py Ctx} {request : OperationalActionRequest}
    (hrequest : session.operational_action_request = some request)
    {reference : OperationalExecutionReference} (hid : reference.request_id = request.request_id)
    (hdigest : reference.request_digest = request.request_digest) (fault : Option WriteStep)
    (state : WorkflowSessionState) (s : System py Ctx) :
    (exec (o.store fault session reference state) s).2.reference session.identifier =
      some reference := by
  obtain ⟨updated, hreplace, hupdated⟩ := session.replace_reference hrequest hid hdigest state
  rw [store, hreplace, exec_lift_ok_bind, ho]
  dsimp only
  rw [exec_update, System.reference, Dict.get_set_self, Option.bind_some, hupdated]

/-- An approval that a call can use. -/
structure Approved (a : Aggregate py Ctx) (now : DateTime) (session : WorkflowSession Ctx)
    (request : OperationalActionRequest) (approval : Approval)
    (metadata : OperationalApprovalMetadata) : Prop where
  named : session.operational_action_approval_id ≠ .null
  found : lookupUnchecked a.approvals session.operational_action_approval_id = .ok (some approval)
  purpose : approval.request.purpose = .operationalAction
  described : approval.request.operational_metadata = some metadata
  identifier : .str approval.request.identifier = session.operational_action_approval_id
  workflow_id : approval.request.workflow_id = .str session.identifier
  approved : approval.status = .approved
  live : request.expires_at.le now = .ok false
  metadata_live : metadata.expires_at.le now = .ok false
  binds : metadata.binds py request = true

theorem Approved.validated {a : Aggregate py Ctx} {now : DateTime} {session : WorkflowSession Ctx}
    {request : OperationalActionRequest} {approval : Approval}
    {metadata : OperationalApprovalMetadata}
    (h : Approved a now session request approval metadata) :
    validatedApproval a now session request = .ok (.ok approval) := by
  have hidentifier := h.identifier
  rw [validatedApproval, if_neg h.named, h.found]
  simp [h.purpose, h.described, hidentifier, h.workflow_id, h.approved, h.live, h.metadata_live,
    h.binds]

/-- A call that finds an approved request which was not answered waits for its dispatch. -/
theorem resume_dispatches {o : OperationalExecutionOrchestrator Ctx} {s : System py Ctx}
    {workflow_id : String} {session : Session py Ctx} {request : OperationalActionRequest}
    {approval : Approval} {now : DateTime}
    (hfound : s.live.sessions.get workflow_id = some session)
    (heffect : session.effect_kind = .operationalAction)
    (hrequest : session.operational_action_request = some request)
    (happroval : validatedApproval s.live now session.toWorkflowSession request = .ok (.ok approval))
    (hreference : session.operational_execution_reference = none)
    (hpolicy : o.execution_policy request.execution_intent = true) (fault : Option WriteStep)
    (later : DateTime) :
    exec (o.resume fault now later workflow_id) s =
      (.ok (.awaits (.dispatch session request approval)), s) := by
  simp [resume, submit, hfound, heffect, hrequest, happroval, hreference, hpolicy]

/-- A request to restart a virtual machine. -/
def OperationalActionRequest.plain : OperationalActionRequest where
  request_id := "r"
  request_digest := Core.plainDigest OPERATIONAL_REQUEST_DIGEST_VERSION
  idempotency_key := Core.plainDigest OPERATIONAL_IDEMPOTENCY_KEY_VERSION
  workflow_session_id := "w"
  candidate_planning_session_id := "s"
  candidate_id := "c"
  candidate_fingerprint := "f"
  candidate_plan_id := "p"
  candidate_plan_fingerprint := "g"
  effect_kind := .operationalAction
  execution_intent := "restart-service"
  provider_id := "proxmox"
  resource_id := "qemu/1"
  resource_type := "qemu"
  provider_action_id := "proxmox-qemu-graceful-restart-v1"
  target_fingerprint := "t"
  target_version := .null
  disruption_scope := "vm"
  evidence_ids := ["e"]
  expected_pre_state := "running"
  verification := ⟨"running", "running", "t", "healthy", "verify"⟩
  expires_at := .utc ⟨10, ten_lt_MAX_MICROS⟩
  translator_version := "v"
  generated_at := .utc ⟨0, zero_lt_MAX_MICROS⟩

/-- The approval of the request. -/
def Approval.plain : Approval where
  decision := {
    request := {
      identifier := "a"
      checkpoint_id := "r"
      title := "Approve"
      requested_tool := "atlas-agent-operational-contract"
      requested_command := []
      rationale := "Approval"
      workflow_id := .str "w"
      purpose := .operationalAction
      operational_metadata := some {
        action_request_id := "r"
        action_request_digest := Core.plainDigest OPERATIONAL_REQUEST_DIGEST_VERSION
        candidate_id := "c"
        candidate_fingerprint := "f"
        operational_plan_fingerprint := "g"
        provider_id := "proxmox"
        resource_id := "qemu/1"
        resource_type := "qemu"
        target_fingerprint := "t"
        target_version := .null
        operation_intent := "restart-service"
        disruption_scope := "vm"
        verification_digest := Core.plainDigest OPERATIONAL_VERIFICATION_DIGEST_VERSION
        generated_at := .utc ⟨0, zero_lt_MAX_MICROS⟩
        expires_at := .utc ⟨10, ten_lt_MAX_MICROS⟩ } }
    status := .approved }
  built := by
    intro m hm
    cases hm
    decide

/-- The workflow session of the request before its submission. -/
def Session.plain : Session .plain Fields where
  identifier := "w"
  request := none
  plan := none
  state := .awaitingImplementationApproval
  effect_kind := .operationalAction
  source := .candidate
  candidate_metadata := some {
    candidate_planning_session_id := "s"
    candidate_id := "c"
    candidate_fingerprint := "f"
    candidate_plan_id := "p"
    candidate_plan_fingerprint := "g"
    source_recommendation_id := "n"
    source_subsystem := "m"
    catalog_item_id := .null
    target_id := "t"
    target_type := "vm"
    execution_category := "k"
    execution_intent := "restart-service"
    evidence_ids := ["e"]
    compatibility_assessment_id := .null
    compatibility_status := .null
    relationship_ids := []
    conversion_timestamp := .utc ⟨0, zero_lt_MAX_MICROS⟩
    core_revalidation_status := "accepted"
    core_revalidation_fingerprint := "f"
    effect_kind := .operationalAction }
  operational_action_request := some .plain
  operational_action_approval_id := .str "a"
  built := by
    refine ⟨fun r hr => ?_, by decide⟩
    cases hr
    exact OperationalActionRequest.built_of_postInit
      (show OperationalActionRequest.plain.postInit .plain = .ok .plain by decide)

/-- An Agent with the approved session. -/
def Orchestration.plain : Orchestration .plain Fields where
  system :=
    { Coordinator.fresh with
      live := { Aggregate.empty .plain Fields with
        sessions := (∅ : Dict (Session .plain Fields)).set "w" .plain
        approvals := (∅ : Dict Approval).set "a" .plain } }
  calls := []

/-- An orchestrator that may submit. -/
def OperationalExecutionOrchestrator.plain : OperationalExecutionOrchestrator Fields where
  persistence := none
  execution_policy := fun intent => decide (intent = "restart-service")

/-- Core accepted the request. -/
def acceptedResult : CoreOperationalDispatchResult where
  status := .succeeded
  request_id := "r"
  request_digest := Core.plainDigest OPERATIONAL_REQUEST_DIGEST_VERSION
  provider_operation_id := some "u"
  sanitized_message := none

/-- Two calls submit the request; Core's answer reaches the first and the second times out. -/
def lostAnswer : List ResumeEvent :=
  let now := .utc ⟨1, one_lt_MAX_MICROS⟩
  [.resume none now now "w", .resume none now now "w", .dispatched 0 none now now (some acceptedResult),
    .dispatched 1 none now now none]

theorem get_session_plain :
    Orchestration.plain.system.live.sessions.get "w" = some .plain :=
  Dict.get_set_self _ _ _

theorem validatedApproval_plain : validatedApproval Orchestration.plain.system.live
    (.utc ⟨1, by decide⟩) Session.plain.toWorkflowSession .plain = .ok (.ok .plain) := by
  have hget : Orchestration.plain.system.live.approvals.get "a" = some .plain :=
    Dict.get_set_self _ _ _
  exact Approved.validated
    { named := nofun
      found := congrArg Except.ok hget
      purpose := rfl
      described := rfl
      identifier := rfl
      workflow_id := rfl
      approved := rfl
      live := by decide
      metadata_live := by decide
      binds := by decide }

/-- The second call waits for its dispatch too, and takes the recorded answer back. -/
theorem not_monotone_lostAnswer : ¬ Orchestration.plain.Monotone .plain lostAnswer := by
  intro hmonotone
  have hresume := resume_dispatches (o := .plain) get_session_plain rfl rfl validatedApproval_plain
    rfl rfl none (.utc ⟨1, by decide⟩)
  let waits : Option (Awaiting .plain Fields) := some (.dispatch .plain .plain .plain)
  let w : Orchestration .plain Fields := ⟨Orchestration.plain.system, [waits, waits]⟩
  have hfirst : Orchestration.plain.run .plain (lostAnswer.take 2) = w := by
    simp only [lostAnswer, List.take_succ_cons, List.take_zero, Orchestration.run, List.foldl_cons,
      List.foldl_nil, Orchestration.step, hresume]
    rfl
  let answered := w.step .plain
    (.dispatched 0 none (.utc ⟨1, by decide⟩) (.utc ⟨1, by decide⟩) (some acceptedResult))
  have hsecond : Orchestration.plain.run .plain (lostAnswer.take 3) = answered := by
    have hsplit : lostAnswer.take 3 = lostAnswer.take 2 ++ [.dispatched 0 none
        (.utc ⟨1, by decide⟩) (.utc ⟨1, by decide⟩) (some acceptedResult)] := rfl
    rw [hsplit, Orchestration.run_append, hfirst]
    rfl
  have hthird : Orchestration.plain.run .plain lostAnswer = answered.step .plain
      (.dispatched 1 none (.utc ⟨1, by decide⟩) (.utc ⟨1, by decide⟩) none) := by
    have hsplit : lostAnswer = lostAnswer.take 3 ++ [.dispatched 1 none (.utc ⟨1, by decide⟩)
        (.utc ⟨1, by decide⟩) none] := rfl
    rw [hsplit, Orchestration.run_append, hsecond]
    rfl
  have hanswered : answered.system.reference "w" =
      some (dispatchReference .plain (.utc ⟨1, by decide⟩) acceptedResult) := by
    have hfrom : fromDispatch .plain (.utc ⟨1, by decide⟩) acceptedResult =
        .ok (dispatchReference .plain (.utc ⟨1, by decide⟩) acceptedResult, .verifying) := by
      simp [fromDispatch, acceptedResult, OperationalActionRequest.plain]
    simp only [answered, w, waits, Orchestration.step, List.getElem?_cons_zero]
    rw [dispatched, hfrom, exec_lift_ok_bind, exec_store_bind]
    exact store_unpersisted rfl rfl rfl rfl none .verifying _
  have hlost : (answered.step .plain (.dispatched 1 none (.utc ⟨1, by decide⟩)
      (.utc ⟨1, by decide⟩) none)).system.reference "w" =
      some (unknownReference .plain (.utc ⟨1, by decide⟩) (.utc ⟨1, by decide⟩)) := by
    have hwaits : answered.calls[1]? = some waits := rfl
    rw [Orchestration.step, hwaits]
    dsimp only [waits]
    rw [dispatched, exec_store_bind]
    exact store_unpersisted rfl rfl rfl rfl none .executing _
  obtain ⟨r', hr', hadvances⟩ := hmonotone (lostAnswer.take 3) (lostAnswer.drop 3) rfl "w" _
    (hsecond ▸ hanswered) (.inr (by simp [dispatchReference]))
  rw [hthird, hlost] at hr'
  obtain rfl := Option.some.inj hr'
  exact absurd hadvances.stage (by decide)

theorem sound_plain : Orchestration.plain.system.Sound where
  keyed := fun id session hget => by
    obtain ⟨rfl, rfl⟩ := Dict.get_set_empty.mp hget
    rfl
  opened := fun id r hr => by
    obtain ⟨session, hget, hsession⟩ := Option.bind_eq_some_iff.mp hr
    obtain ⟨rfl, rfl⟩ := Dict.get_set_empty.mp hget
    cases hsession

/-- A call whose answer arrives makes a monotone run. -/
theorem monotone_answered : Orchestration.plain.Monotone .plain
    [.resume none (.utc ⟨1, by decide⟩) (.utc ⟨1, by decide⟩) "w",
      .dispatched 0 none (.utc ⟨1, by decide⟩) (.utc ⟨1, by decide⟩) (some acceptedResult)] := by
  refine monotone_of_forward .plain .plain sound_plain _ fun before event after heq => ?_
  have hresume := resume_dispatches (o := .plain) get_session_plain rfl rfl validatedApproval_plain
    rfl rfl none (.utc ⟨1, by decide⟩)
  match before, heq with
  | [], heq =>
    obtain ⟨rfl, -⟩ := List.cons.inj heq
    exact id
  | [first], heq =>
    obtain ⟨rfl, htail⟩ := List.cons.inj heq
    obtain ⟨rfl, -⟩ := List.cons.inj htail
    rintro ⟨session, request, approval, r, hcalled, hr, -⟩
    simp only [Orchestration.run, List.foldl_cons, List.foldl_nil, Orchestration.step, hresume] at hr
    obtain ⟨stored, hget, hstored⟩ := Option.bind_eq_some_iff.mp hr
    obtain ⟨-, rfl⟩ := Dict.get_set_empty.mp hget
    cases hstored
  | first :: second :: before, heq =>
    have hlength := congrArg List.length heq
    simp at hlength

end AtlasOS.Agent
