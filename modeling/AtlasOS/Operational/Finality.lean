import AtlasOS.Agent.Reconciliation
import AtlasOS.Core.Dispatch.Lifecycle

/-!
# Agent and Core agree on the end of an action

The orchestrator of the Agent and Core run side by side. A call of `resume` that
waits for Core receives a reply to a dispatch of its request, or a status that Core
read for it; both may be late. A terminal reference of the Agent is expected to mean
that the row of the request in Core's ledger is final, in the state that the stage of
the reference names.
-/

namespace AtlasOS.Operational

open Agent Agent.OperationalExecutionOrchestrator Effect
open Core (Pydantic World LifecycleEvent Final entry eligible)

variable {pd : Pydantic} {py : Python} {Ctx : Type}

/-! ## The two services -/

/-- A dispatch result as the Agent reads it. -/
def received (result : Core.OperationalDispatchResult) : CoreOperationalDispatchResult where
  status := result.status
  request_id := result.request_id
  request_digest := result.request_digest
  provider_operation_id := result.provider_operation_id
  sanitized_message := result.sanitized_message

/-- A status as the Agent reads it. -/
def receivedStatus (status : Core.OperationalLifecycleStatus) : CoreOperationalLifecycleStatus where
  request_digest := status.request_digest
  ledger_state := status.ledger_state
  dispatch_result := status.dispatch_result.map received
  verification_result := status.verification_result.map (·.status)

/-- What Core sends. -/
inductive Answer where
  /-- The reply to a dispatch of a request. -/
  | dispatch (request_id request_digest : String) (result : Core.OperationalDispatchResult)
  /-- What a status request read. -/
  | status (found : Core.OperationalLifecycleStatus)

/-- The two services, and what Core sent so far. -/
structure Services (py : Python) (Ctx : Type) where
  agent : Orchestration py Ctx
  core : World py
  sent : List Answer

/-- What can happen. -/
inductive Occurrence (py : Python) where
  /-- A new call of `resume`. -/
  | resume (fault : Option WriteStep) (now later : DateTime) (workflow_id : String)
  /-- The dispatch of a call fails or times out. -/
  | lost (index : ℕ) (fault : Option WriteStep) (now later : DateTime)
  /-- The status request of a call fails or times out. -/
  | unread (index : ℕ) (fault : Option WriteStep) (now : DateTime)
  /-- A call of `resume` is cancelled. -/
  | cancel (index : ℕ)
  /-- A step of Core. -/
  | core (event : LifecycleEvent py)
  /-- A call of `dispatch` that returned sends its result. -/
  | replies (call : ℕ)
  /-- Core reads the status of a request and sends it. -/
  | reports (faults : List Bool) (request_id : String)
  /-- An answer reaches a call that waits for one about its request. -/
  | receives (index message : ℕ) (fault : Option WriteStep) (now later : DateTime)

/-- An answer is about the request that a call waits for. -/
def fits : Awaiting py Ctx → Answer → Bool
  | .dispatch _ request _, .dispatch request_id request_digest _ =>
      decide (request_id = request.request_id) && decide (request_digest = request.request_digest)
  | .status _ request _, .status found => decide (found.request_id = request.request_id)
  | _, _ => false

/-- What an answer means to the call that receives it. -/
def Answer.event (index : ℕ) (fault : Option WriteStep) (now later : DateTime) :
    Answer → ResumeEvent
  | .dispatch _ _ result => .dispatched index fault now later (some (received result))
  | .status found => .observed index fault now (some (receivedStatus found))

namespace Services

/-- The answer that a call receives, if it waits for it. -/
def delivery (w : Services py Ctx) (index message : ℕ) : Option Answer :=
  match w.agent.calls[index]?, w.sent[message]? with
  | some (some awaiting), some answer => if fits awaiting answer then some answer else none
  | _, _ => none

/-- The reply of a call of `dispatch` that returned. -/
def reply (w : Services py Ctx) (call : ℕ) : Option Answer :=
  match w.core.calls[call]? with
  | some c =>
      match c.phase with
      | .finished (some result) =>
          some (.dispatch c.request.request_id c.request.request_digest result)
      | _ => none
  | none => none

/-- One step. -/
def step (pd : Pydantic) (o : OperationalExecutionOrchestrator Ctx) (w : Services py Ctx) :
    Occurrence py → Services py Ctx
  | .resume fault now later workflow_id =>
      { w with agent := w.agent.step o (.resume fault now later workflow_id) }
  | .lost index fault now later =>
      { w with agent := w.agent.step o (.dispatched index fault now later none) }
  | .unread index fault now => { w with agent := w.agent.step o (.observed index fault now none) }
  | .cancel index => { w with agent := w.agent.step o (.cancel index) }
  | .core event => { w with core := w.core.serve pd event }
  | .replies call => { w with sent := w.sent ++ (w.reply call).toList }
  | .reports faults request_id =>
      { w with sent := w.sent ++ ((w.core.status pd faults request_id).map .status).toList }
  | .receives index message fault now later =>
      match w.delivery index message with
      | some answer => { w with agent := w.agent.step o (answer.event index fault now later) }
      | none => w

/-- The state after some steps. -/
def run (pd : Pydantic) (o : OperationalExecutionOrchestrator Ctx) (w : Services py Ctx)
    (events : List (Occurrence py)) : Services py Ctx := events.foldl (step pd o) w

theorem run_append (o : OperationalExecutionOrchestrator Ctx) (w : Services py Ctx)
    (events : List (Occurrence py)) (event : Occurrence py) :
    w.run pd o (events ++ [event]) = (w.run pd o events).step pd o event := by
  simp [run]

theorem run_core (o : OperationalExecutionOrchestrator Ctx) (w : Services py Ctx)
    (events : List (LifecycleEvent py)) :
    w.run pd o (events.map .core) = { w with core := w.core.serves pd events } := by
  induction events generalizing w with
  | nil => rfl
  | cons event events ih => exact ih { w with core := w.core.serve pd event }

/-- An Agent beside a Core that was asked nothing yet. -/
def start (agent : Orchestration py Ctx) : Services py Ctx := ⟨agent, .initial, []⟩

/-- Every terminal reference of the Agent names the state of Core's entry for its request, and the
row of that entry stays as it is in every later run of Core. -/
def Agrees (pd : Pydantic) (w : Services py Ctx) : Prop :=
  ∀ id r, w.agent.system.reference id = some r → r.terminal = true →
    ∃ row e, w.core.db.rows.get r.request_id = some row ∧ entry pd py row = .ok e ∧
      StrEnum.value r.stage = StrEnum.value e.state ∧
      ∀ events, (w.core.serves pd events).db.rows.get r.request_id = some row

end Services

/-! ## Premature answers -/

/-- A negative reply is the outcome of the request: the ledger holds a dispatch result of its
status, for a failure the target was not replaced, and for an unknown outcome no verification can
be started or one ended with the outcome unknown. -/
def Concludes (pd : Pydantic) (core : World py) (request_id : String)
    (status : Core.OperationalDispatchStatus) : Prop :=
  ∃ row e dispatch, core.db.rows.get request_id = some row ∧ entry pd py row = .ok e ∧
    e.dispatch_result = some dispatch ∧ dispatch.status = status ∧
    (status = .failed → e.state ≠ .targetReplaced) ∧
    (status = .outcomeUnknown → dispatch.provider_operation_id ≠ none →
      e.state = .outcomeUnknown ∧ e.verification_result ≠ none)

/-- An answer that the Agent takes for the end of the request, although it is not. -/
def Answer.Early (pd : Pydantic) (core : World py) : Answer → Prop
  | .dispatch request_id _ result =>
      result.status ≠ .succeeded ∧ ¬ Concludes pd core request_id result.status
  | .status found => found.ledger_state = .outcomeUnknown ∧ found.verification_resumable = true

/-- A call receives an answer too early. -/
def Services.Premature (pd : Pydantic) (w : Services py Ctx) : Occurrence py → Prop
  | .receives index message _ _ _ =>
      ∃ answer, w.delivery index message = some answer ∧ answer.Early pd w.core
  | _ => False

/-! ## What the Agent stores -/

/-- A call that reads a status has a reference to its request. -/
def Binds : Awaiting py Ctx → Prop
  | .status _ request reference => reference.request_id = request.request_id
  | .dispatch _ _ _ => True

/-- The references that a step of the Agent can store. -/
inductive Answered (w : Orchestration py Ctx) : ResumeEvent → OperationalExecutionReference → Prop
  | open (event : ResumeEvent) {r : OperationalExecutionReference} (nonterminal : r.terminal = false) :
      Answered w event r
  | dispatched {index : ℕ} {fault : Option WriteStep} {now later : DateTime}
      {session : Session py Ctx} {request : OperationalActionRequest} {approval : Approval}
      {answer : CoreOperationalDispatchResult}
      (called : w.calls[index]? = some (some (.dispatch session request approval))) :
      Answered w (.dispatched index fault now later (some answer))
        (dispatchReference request now answer)
  | observed {index : ℕ} {fault : Option WriteStep} {now : DateTime} {session : Session py Ctx}
      {request : OperationalActionRequest} {reference : OperationalExecutionReference}
      {answer : CoreOperationalLifecycleStatus}
      (called : w.calls[index]? = some (some (.status session request reference))) :
      Answered w (.observed index fault now (some answer)) (statusReference reference now answer)

/-- After a step, a reference is the one from before or one of these. -/
theorem step_answered (o : OperationalExecutionOrchestrator Ctx) (w : Orchestration py Ctx)
    (event : ResumeEvent) {id : String} {r : OperationalExecutionReference}
    (hr : (w.step o event).system.reference id = some r) :
    w.system.reference id = some r ∨ Answered w event r := by
  have hwrote := step_wrote o w event
  generalize (w.step o event).system = s at hwrote hr
  have hstore (fault : Option WriteStep) (session : Session py Ctx)
      (reference : OperationalExecutionReference) (state : WorkflowSessionState)
      (hr : (exec (o.store fault session reference state) w.system).2.reference id = some r) :
      w.system.reference id = some r ∨ reference = r := by
    rcases store_reference o fault session reference state w.system id with hsame | ⟨-, hnew⟩
    · exact .inl (hsame.symm.trans hr)
    · exact .inr (Option.some.inj (hnew.symm.trans hr))
  cases hwrote with
  | nothing => exact .inl hr
  | blocked =>
    refine (hstore _ _ _ _ hr).imp_right ?_
    rintro rfl
    exact .open _ rfl
  | unsubmitted =>
    refine (hstore _ _ _ _ hr).imp_right ?_
    rintro rfl
    exact .open _ rfl
  | dispatched called =>
    refine (hstore _ _ _ _ hr).imp_right ?_
    rintro rfl
    exact .dispatched called
  | observed called =>
    refine (hstore _ _ _ _ hr).imp_right ?_
    rintro rfl
    exact .observed called

/-- The calls of the Agent keep their requests and references together. -/
theorem step_binds {o : OperationalExecutionOrchestrator Ctx} {w : Orchestration py Ctx}
    (h : ∀ a, some a ∈ w.calls → Binds a) (event : ResumeEvent) :
    ∀ a, some a ∈ (w.step o event).calls → Binds a := by
  have hset (index : ℕ) (a : Awaiting py Ctx) (ha : some a ∈ w.calls.set index none) : Binds a := by
    rcases List.mem_or_eq_of_mem_set ha with hold | hnone
    · exact h a hold
    · cases hnone
  intro a ha
  cases event with
  | resume fault now later workflow_id =>
    have hresumed := resume_resumed o fault now later workflow_id w.system
    rw [Orchestration.step] at ha
    rcases List.mem_append.mp ha with hold | hnew
    · exact h a hold
    · generalize exec (o.resume fault now later workflow_id) w.system = ended at hresumed hnew
      have ha' : waiting ended.1 = some a := by simpa using hnew
      cases hresumed with
      | refused result ended =>
        rw [ended] at ha'
        cases ha'
      | blocked result ended =>
        rw [ended] at ha'
        cases ha'
      | submits =>
        obtain rfl := Option.some.inj ha'
        trivial
      | @reconciles session request reference found requested referenced =>
        obtain rfl := Option.some.inj ha'
        exact (session.reference_binds requested referenced).1
  | dispatched index fault now later answer =>
    rw [Orchestration.step] at ha
    split at ha
    · exact hset index a ha
    · exact h a ha
  | observed index fault now answer =>
    rw [Orchestration.step] at ha
    split at ha
    · exact hset index a ha
    · exact h a ha
  | cancel index => exact hset index a ha

/-! ## The invariant -/

/-- The row of a request is final, in a state. -/
def Rests (pd : Pydantic) (core : World py) (request_id : String)
    (state : Core.OperationalLedgerState) : Prop :=
  ∃ row e, core.db.rows.get request_id = some row ∧ row.Valid pd py e ∧ Final e ∧ e.state = state

theorem Rests.serve {core : World py} (hcore : core.Valid pd) {request_id : String}
    {state : Core.OperationalLedgerState} (h : Rests pd core request_id state)
    (event : LifecycleEvent py) : Rests pd (core.serve pd event) request_id state := by
  obtain ⟨row, e, hget, hvalid, hfinal, hstate⟩ := h
  exact ⟨row, e, (hcore.served event).stable_final _ row e hget hvalid hfinal, hvalid, hfinal, hstate⟩

/-- A status says that its request is final. -/
def Conclusive (found : Core.OperationalLifecycleStatus) : Prop :=
  found.ledger_state ∈ [Core.OperationalLedgerState.failed, .verified, .verificationFailed,
      .targetReplaced] ∨
    found.ledger_state = .outcomeUnknown ∧ found.verification_resumable = false

/-- The invariant of the two services: Core's own, calls that keep requests and references
together, conclusive statuses of final rows, and terminal references to final rows. -/
structure Services.Sound (pd : Pydantic) (w : Services py Ctx) : Prop where
  core : w.core.Coupled pd
  binds : ∀ a, some a ∈ w.agent.calls → Binds a
  sent : ∀ found, .status found ∈ w.sent → Conclusive found →
    Rests pd w.core found.request_id found.ledger_state
  ends : ∀ id r, w.agent.system.reference id = some r → r.terminal = true →
    ∃ state, Rests pd w.core r.request_id state ∧ StrEnum.value r.stage = StrEnum.value state

/-- A status that Core reports and that is conclusive is the status of a final row. -/
theorem status_rests {core : World py} (hcore : core.Valid pd) {faults : List Bool} {id : String}
    {found : Core.OperationalLifecycleStatus} (h : core.status pd faults id = some found)
    (hconclusive : Conclusive found) : Rests pd core found.request_id found.ledger_state := by
  rw [World.status] at h
  split at h
  · next e _ hread =>
    obtain ⟨row, hget, hvalid⟩ := hcore.getEntry hread
    obtain rfl := Option.some.inj h
    have hid : e.request_id = id := hvalid.reads.request_id.trans (hcore.db.stored id row hget).1
    exact ⟨row, e, (congrArg _ hid).trans hget, hvalid, hconclusive, rfl⟩
  · cases h

/-- A reply that concludes is the reply for a final row. -/
theorem Concludes.rests {core : World py} (hcore : core.Coupled pd) {request_id : String}
    {status : Core.OperationalDispatchStatus} (h : Concludes pd core request_id status)
    (hnegative : status ≠ .succeeded) :
    ∃ state, Rests pd core request_id state ∧
      StrEnum.value (dispatchStage status) = StrEnum.value state := by
  obtain ⟨row, e, dispatch, hget, hentry, hdispatch, hstatus, hfailed, hunknown⟩ := h
  obtain ⟨e', hvalid⟩ := hcore.valid.db.get hget
  obtain rfl : e = e' :=
    Except.ok.inj (hentry.symm.trans (Core.entry_eq_ok.mpr hvalid.reads))
  have hcoupled := hcore.coupled request_id row e hget hvalid
  cases status with
  | succeeded => exact absurd rfl hnegative
  | failed =>
    have hstate : e.state = .failed := by
      have hmem := hcoupled.failed dispatch hdispatch hstatus
      simpa [hfailed rfl] using hmem
    exact ⟨.failed, ⟨row, e, hget, hvalid, .inl (by simp [hstate]), hstate⟩, rfl⟩
  | outcomeUnknown =>
    have hends : e.state = .outcomeUnknown ∧ eligible e = false := by
      by_cases hoperation : dispatch.provider_operation_id = none
      · refine ⟨(hcoupled.unknown dispatch hdispatch hstatus hoperation).1, ?_⟩
        simp [eligible, hdispatch, hoperation]
      · obtain ⟨hstate, hverified⟩ := hunknown rfl hoperation
        refine ⟨hstate, ?_⟩
        rw [eligible, Option.isNone_eq_false_iff.mpr (Option.isSome_iff_ne_none.mpr hverified)]
        rfl
    exact ⟨.outcomeUnknown, ⟨row, e, hget, hvalid, .inr hends, hends.1⟩, rfl⟩

/-- The final states of `_from_status` are named by a stage. -/
theorem conclusive_of_terminal {found : Core.OperationalLifecycleStatus}
    (hterminal : (statusMapping found.ledger_state).2.2 = true)
    (hearly : ¬ (found.ledger_state = .outcomeUnknown ∧ found.verification_resumable = true)) :
    Conclusive found ∧ StrEnum.value (statusMapping found.ledger_state).1 =
      StrEnum.value found.ledger_state := by
  have hfinal : found.ledger_state ∈ finalStates := by
    generalize found.ledger_state = state at hterminal
    cases state <;> first | decide | cases hterminal
  refine ⟨?_, (statusMapping_final hfinal).1⟩
  by_cases hunknown : found.ledger_state = .outcomeUnknown
  · exact .inr ⟨hunknown, by simpa [hunknown] using hearly⟩
  · refine .inl ?_
    simp only [finalStates, List.mem_cons, hunknown] at hfinal ⊢
    tauto

/-- A step of the Agent that stores no end keeps the invariant. -/
theorem Services.Sound.agent {w : Services py Ctx} (h : w.Sound pd)
    (o : OperationalExecutionOrchestrator Ctx) (event : ResumeEvent)
    (hends : ∀ r, Answered w.agent event r → r.terminal = true →
      ∃ state, Rests pd w.core r.request_id state ∧ StrEnum.value r.stage = StrEnum.value state) :
    Services.Sound pd { w with agent := w.agent.step o event } where
  core := h.core
  binds := step_binds h.binds event
  sent := h.sent
  ends := fun id r hr hterminal =>
    (step_answered o w.agent event hr).elim (fun hold => h.ends id r hold hterminal)
      fun hanswered => hends r hanswered hterminal

/-- An answer that is received in time ends what it says. -/
theorem Services.Sound.receives {w : Services py Ctx} (h : w.Sound pd) {index message : ℕ}
    {answer : Answer} (hdelivery : w.delivery index message = some answer)
    (hearly : ¬ answer.Early pd w.core) {fault : Option WriteStep} {now later : DateTime}
    {r : OperationalExecutionReference}
    (hr : Answered w.agent (answer.event index fault now later) r) (hterminal : r.terminal = true) :
    ∃ state, Rests pd w.core r.request_id state ∧ StrEnum.value r.stage = StrEnum.value state := by
  rw [Services.delivery] at hdelivery
  split at hdelivery
  · next awaiting answer' hcalled hsent =>
    split at hdelivery
    · next hfits =>
      obtain rfl := Option.some.inj hdelivery
      cases answer' with
      | dispatch request_id request_digest result =>
        cases hr with
        | «open» _ nonterminal =>
          rw [nonterminal] at hterminal
          cases hterminal
        | @dispatched _ _ _ _ session request approval _ called =>
          obtain rfl := Option.some.inj (Option.some.inj (called.symm.trans hcalled))
          simp only [fits, Bool.and_eq_true, decide_eq_true_eq] at hfits
          have hnegative : result.status ≠ .succeeded := by
            rintro hsucceeded
            simp [dispatchReference, received, hsucceeded] at hterminal
          have hconcludes : Concludes pd w.core request_id result.status := by
            by_contra hnot
            exact hearly ⟨hnegative, hnot⟩
          rw [hfits.1] at hconcludes
          exact hconcludes.rests h.core hnegative
      | status found =>
        cases hr with
        | «open» _ nonterminal =>
          rw [nonterminal] at hterminal
          cases hterminal
        | @observed _ _ _ session request reference _ called =>
          obtain rfl := Option.some.inj (Option.some.inj (called.symm.trans hcalled))
          simp only [fits, decide_eq_true_eq] at hfits
          have hbinds : reference.request_id = request.request_id :=
            h.binds _ (List.mem_of_getElem? called)
          obtain ⟨hconclusive, hstage⟩ := conclusive_of_terminal hterminal hearly
          refine ⟨found.ledger_state, ?_, hstage⟩
          have hrests := h.sent found (List.mem_of_getElem? hsent) hconclusive
          rw [hfits, ← hbinds] at hrests
          exact hrests
    · cases hdelivery
  · cases hdelivery

/-- A step without a premature answer keeps the invariant. -/
theorem Services.Sound.step {w : Services py Ctx} (h : w.Sound pd)
    (o : OperationalExecutionOrchestrator Ctx) {event : Occurrence py}
    (hsafe : ¬ w.Premature pd event) : (w.step pd o event).Sound pd := by
  -- the Agent's own steps store references that are not terminal
  have hopen {event : ResumeEvent} (hevent : ∀ r, Answered w.agent event r → r.terminal = false) :
      Services.Sound pd { w with agent := w.agent.step o event } := by
    refine h.agent o event fun r hr hterminal => ?_
    rw [hevent r hr] at hterminal
    cases hterminal
  cases event with
  | resume fault now later workflow_id =>
    refine hopen fun r hr => ?_
    cases hr with
    | «open» _ nonterminal => exact nonterminal
  | lost index fault now later =>
    refine hopen fun r hr => ?_
    cases hr with
    | «open» _ nonterminal => exact nonterminal
  | unread index fault now =>
    refine hopen fun r hr => ?_
    cases hr with
    | «open» _ nonterminal => exact nonterminal
  | cancel index =>
    refine hopen fun r hr => ?_
    cases hr with
    | «open» _ nonterminal => exact nonterminal
  | core event =>
    refine ⟨h.core.serve event, h.binds, fun found hfound hconclusive => ?_, fun id r hr hterminal => ?_⟩
    · exact (h.sent found hfound hconclusive).serve h.core.valid event
    · obtain ⟨state, hrests, hstage⟩ := h.ends id r hr hterminal
      exact ⟨state, hrests.serve h.core.valid event, hstage⟩
  | replies call =>
    refine ⟨h.core, h.binds, fun found hfound => ?_, h.ends⟩
    refine h.sent found ?_
    rcases List.mem_append.mp hfound with hold | hnew
    · exact hold
    · rw [Option.mem_toList, Services.reply] at hnew
      split at hnew
      · split at hnew
        · cases hnew
        · cases hnew
      · cases hnew
  | reports faults request_id =>
    refine ⟨h.core, h.binds, fun found hfound hconclusive => ?_, h.ends⟩
    rcases List.mem_append.mp hfound with hold | hnew
    · exact h.sent found hold hconclusive
    · rw [Option.mem_toList] at hnew
      obtain ⟨found', hfound', hsame⟩ := Option.map_eq_some_iff.mp hnew
      cases hsame
      exact status_rests h.core.valid hfound' hconclusive
  | receives index message fault now later =>
    rw [Services.step]
    cases hdelivery : w.delivery index message with
    | none => exact h
    | some answer =>
      exact h.agent o _ fun r hr hterminal =>
        h.receives hdelivery (fun hearly => hsafe ⟨answer, hdelivery, hearly⟩) hr hterminal

/-! ## Runs -/

/-- No call receives an answer too early. -/
def Services.Timely (pd : Pydantic) (o : OperationalExecutionOrchestrator Ctx) (w : Services py Ctx)
    (events : List (Occurrence py)) : Prop :=
  ∀ before event after, events = before ++ event :: after → ¬ (w.run pd o before).Premature pd event

theorem Services.Timely.append {w : Services py Ctx} {o : OperationalExecutionOrchestrator Ctx}
    {events : List (Occurrence py)} {event : Occurrence py} (h : w.Timely pd o events)
    (hlast : ¬ (w.run pd o events).Premature pd event) : w.Timely pd o (events ++ [event]) := by
  intro before event' after heq
  rcases List.eq_nil_or_concat after with rfl | ⟨after', last, rfl⟩
  · obtain ⟨rfl, hevent⟩ := List.append_inj' heq rfl
    obtain rfl := List.singleton_inj.mp hevent
    exact hlast
  · have hinit : events ++ [event] = (before ++ event' :: after') ++ [last] := by simpa using heq
    exact h before event' after' (List.append_inj' hinit rfl).1

theorem Services.Sound.run {w : Services py Ctx} (h : w.Sound pd)
    (o : OperationalExecutionOrchestrator Ctx) (events : List (Occurrence py))
    (htimely : w.Timely pd o events) : (w.run pd o events).Sound pd := by
  induction events using List.reverseRecOn with
  | nil => exact h
  | append_singleton events event ih =>
    rw [Services.run_append]
    have hbefore : w.Timely pd o events := fun before event' after heq =>
      htimely before event' (after ++ [event]) (by rw [heq]; simp)
    exact (ih hbefore).step o (htimely events event [] rfl)

/-- An Agent whose calls do not wait yet and whose references are not terminal is sound beside a
fresh Core. -/
theorem start_sound {agent : Orchestration py Ctx} (hcalls : agent.calls = [])
    (hopen : ∀ id r, agent.system.reference id = some r → r.terminal = false) :
    (Services.start agent).Sound pd where
  core := Core.initial_coupled
  binds := fun a ha => by
    rw [show (Services.start agent).agent.calls = [] from hcalls] at ha
    cases ha
  sent := fun found hfound => by cases hfound
  ends := fun id r hr hterminal => by
    rw [hopen id r hr] at hterminal
    cases hterminal

/-- In every run in which no call of the Agent receives an answer too early, the Agent's terminal
references agree with Core's ledger, for good. -/
theorem agrees_of_timely (pd : Pydantic) (o : OperationalExecutionOrchestrator Ctx)
    (agent : Orchestration py Ctx) (hcalls : agent.calls = [])
    (hopen : ∀ id r, agent.system.reference id = some r → r.terminal = false)
    (events : List (Occurrence py)) (htimely : (Services.start agent).Timely pd o events) :
    ((Services.start agent).run pd o events).Agrees pd := by
  have hsound := (start_sound hcalls hopen).run o events htimely
  intro id r hr hterminal
  obtain ⟨state, ⟨row, e, hget, hvalid, hfinal, rfl⟩, hstage⟩ := hsound.ends id r hr hterminal
  exact ⟨row, e, hget, Core.entry_eq_ok.mpr hvalid.reads, hstage,
    hsound.core.valid.final_stays hget hvalid hfinal⟩

/-! ## An early failure -/

open Core (plainService plainTarget)

/-- The Agent submits the plain request, and Core's call takes two steps and replies. -/
def dispatchedRun (early late : Core.Input) : List (Occurrence .plain) :=
  [.resume none (.utc ⟨1, one_lt_MAX_MICROS⟩) (.utc ⟨1, one_lt_MAX_MICROS⟩) "w",
    .core (.call plainService .plain), .core (.advance 0 early), .core (.advance 0 late),
    .replies 0, .receives 0 0 none (.utc ⟨1, one_lt_MAX_MICROS⟩) (.utc ⟨1, one_lt_MAX_MICROS⟩)]

/-- The Agent that waits for the dispatch of the plain request. -/
def waitingAgent : Orchestration .plain Fields :=
  ⟨Orchestration.plain.system, [some (.dispatch .plain .plain .plain)]⟩

/-- A step of Core's only call. -/
theorem serve_advance {first second : Core.DispatchCall .plain} {input : Core.Input}
    {db db' : Core.Database} (h : first.advance Pydantic.plain input db = (second, db')) :
    World.serve Pydantic.plain ⟨db, [first]⟩ (.advance 0 input) = ⟨db', [second]⟩ := by
  simp only [World.serve, World.event, World.step, List.getElem?_cons_zero, h, List.set_cons_zero]

/-- The services before the Agent receives the reply. -/
theorem run_replied {early late : Core.Input} {db : Core.Database}
    {result : Core.OperationalDispatchResult} {phase : Core.Phase} {middle : Core.Database}
    (hfirst : Core.DispatchCall.advance Pydantic.plain
      ⟨plainService, .plain, .start, false, 0, none⟩ early .empty =
        (⟨plainService, .plain, phase, false, 0, none⟩, middle))
    (hsecond : Core.DispatchCall.advance Pydantic.plain
      ⟨plainService, .plain, phase, false, 0, none⟩ late middle =
        (⟨plainService, .plain, .finished (some result), false, 0, none⟩, db)) :
    (Services.start Orchestration.plain).run Pydantic.plain .plain
        ((dispatchedRun early late).take 5) =
      ⟨waitingAgent, ⟨db, [⟨plainService, .plain, .finished (some result), false, 0, none⟩]⟩,
        [.dispatch "r" OperationalActionRequest.plain.request_digest result]⟩ := by
  have hresume := resume_dispatches (o := .plain) get_session_plain rfl rfl validatedApproval_plain
    rfl rfl none (.utc ⟨1, by decide⟩)
  have hagent : Orchestration.plain.step .plain
      (.resume none (.utc ⟨1, by decide⟩) (.utc ⟨1, by decide⟩) "w") = waitingAgent := by
    rw [Orchestration.step, hresume]
    rfl
  have hcall : World.initial.serve Pydantic.plain (.call plainService .plain) =
      ⟨.empty, [⟨plainService, .plain, .start, false, 0, none⟩]⟩ := rfl
  have hcore : World.initial.serves Pydantic.plain
      [.call plainService .plain, .advance 0 early, .advance 0 late] =
      ⟨db, [⟨plainService, .plain, .finished (some result), false, 0, none⟩]⟩ := by
    rw [World.serves, List.foldl_cons, List.foldl_cons, List.foldl_cons, List.foldl_nil, hcall,
      serve_advance hfirst, serve_advance hsecond]
  have hevents : (dispatchedRun early late).take 5 =
      .resume none (.utc ⟨1, by decide⟩) (.utc ⟨1, by decide⟩) "w" ::
        ([.call plainService .plain, .advance 0 early, .advance 0 late].map .core ++
          [.replies 0]) := rfl
  rw [hevents, Services.run, List.foldl_cons, Services.step, Services.start, hagent,
    ← Services.run, Services.run_append, Services.run_core, hcore]
  rfl

/-- The reply is delivered to the waiting call. -/
theorem delivery_replied (core : World .plain) (result : Core.OperationalDispatchResult) :
    Services.delivery ⟨waitingAgent, core,
      [.dispatch "r" OperationalActionRequest.plain.request_digest result]⟩ 0 0 =
      some (.dispatch "r" OperationalActionRequest.plain.request_digest result) := by
  have hfits : fits (.dispatch Session.plain OperationalActionRequest.plain Approval.plain)
      (.dispatch "r" OperationalActionRequest.plain.request_digest result) = true := by
    simp only [fits, Bool.and_eq_true, decide_eq_true_eq, and_true]
    rfl
  simp only [Services.delivery, waitingAgent, List.getElem?_cons_zero, hfits, if_true]

/-- The reply is stored as the reference of the session. -/
theorem reference_replied {result : Core.OperationalDispatchResult}
    (hid : result.request_id = "r")
    (hdigest : result.request_digest = OperationalActionRequest.plain.request_digest) :
    (waitingAgent.step .plain (.dispatched 0 none (.utc ⟨1, by decide⟩) (.utc ⟨1, by decide⟩)
      (some (received result)))).system.reference "w" =
      some (dispatchReference .plain (.utc ⟨1, by decide⟩) (received result)) := by
  have hid' : result.request_id = OperationalActionRequest.plain.request_id := hid
  have hfrom : fromDispatch .plain (.utc ⟨1, by decide⟩) (received result) =
      .ok (dispatchReference .plain (.utc ⟨1, by decide⟩) (received result),
        if result.status = .succeeded then .verifying else .blocked) := by
    simp [fromDispatch, received, hid', hdigest]
  simp only [waitingAgent, Orchestration.step, List.getElem?_cons_zero]
  rw [dispatched, hfrom, exec_lift_ok_bind, exec_store_bind]
  exact store_unpersisted rfl rfl rfl rfl none _ _

/-- The resolver cannot reach the provider. -/
def unavailable : Core.Input :=
  { Core.Input.at plainTarget ⟨1, one_lt_MAX_MICROS⟩ with resolver := .unavailable }

/-- Core replies that the target is temporarily unavailable: the Agent stores a failed end, and the
row of the request is claimed. -/
theorem not_agrees_unavailable : ¬ ((Services.start Orchestration.plain).run Pydantic.plain .plain
    (dispatchedRun (.at plainTarget ⟨1, by decide⟩) unavailable)).Agrees Pydantic.plain := by
  have habsent : Core.Database.empty.rows.get Core.Request.plain.request_id = none := by
    simp [Core.Database.empty]
  obtain ⟨db, hclaim, row, e, hstored, -, hclaimed⟩ := @Core.advance_claim Pydantic.plain .plain
    ⟨1, by decide⟩ .empty plainService .plain plainTarget Core.ready_plain habsent
  let result := Core.Request.plain.result .failed (.utc ⟨1, by decide⟩)
    (some (.utc ⟨1, by decide⟩)) "Operational target is temporarily unavailable." (by decide)
  have hunavailable : Core.DispatchCall.advance Pydantic.plain
      ⟨plainService, .plain, .resolving (.utc ⟨1, by decide⟩), false, 0, none⟩ unavailable db =
      (⟨plainService, .plain, .finished (some result.toOperationalDispatchResult), false, 0, none⟩,
        db) := rfl
  have hreplied := run_replied hclaim hunavailable
  have hsplit : dispatchedRun (.at plainTarget ⟨1, by decide⟩) unavailable =
      (dispatchedRun (.at plainTarget ⟨1, by decide⟩) unavailable).take 5 ++
        [.receives 0 0 none (.utc ⟨1, by decide⟩) (.utc ⟨1, by decide⟩)] := rfl
  rw [hsplit, Services.run_append, hreplied, Services.step, delivery_replied]
  intro hagrees
  obtain ⟨row', e', hget, hentry, hstage, -⟩ := hagrees "w" _
    (@reference_replied result.toOperationalDispatchResult rfl rfl) rfl
  obtain rfl : row = row' := Option.some.inj (hstored.found.symm.trans hget)
  obtain rfl : e = e' :=
    Except.ok.inj ((Core.entry_eq_ok.mpr hstored.valid.reads).symm.trans hentry)
  rw [hclaimed] at hstage
  exact absurd hstage (by decide)

/-- A dispatch that comes after the expiry of its request is refused, and the refusal is stored
and replied. -/
theorem expired_replied : ∃ db row e middle read,
    Core.DispatchCall.advance Pydantic.plain ⟨plainService, .plain, .start, false, 0, none⟩
      (.at plainTarget ⟨20, by decide⟩) .empty =
      (⟨plainService, .plain, .refusing (.utc ⟨20, by decide⟩) .expired, false, 0, none⟩, middle) ∧
    Core.DispatchCall.advance Pydantic.plain
      ⟨plainService, .plain, .refusing (.utc ⟨20, by decide⟩) .expired, false, 0, none⟩
      (.at plainTarget ⟨20, by decide⟩) middle =
      (⟨plainService, .plain, .finished (some read), false, 0, none⟩, db) ∧
    db.rows.get Core.Request.plain.request_id = some row ∧ row.Valid Pydantic.plain .plain e ∧
    e.dispatch_result = some read ∧ e.state = .failed ∧ read.status = .failed := by
  have habsent : Core.Database.empty.rows.get Core.Request.plain.request_id = none := by
    simp [Core.Database.empty]
  have hexpired : Core.Request.plain.expires_at.le (.utc ⟨20, by decide⟩) = .ok true := by
    decide
  obtain ⟨middle, hclaim, row₀, e₀, hstored, hrow, hclaimed⟩ := @Core.advance_expired
    Pydantic.plain _ ⟨20, by decide⟩ .empty plainService .plain plainTarget habsent hexpired
  have hpending : e₀.state ∈ Core.PRE_RESULT_STATES := by simp [hclaimed, Core.PRE_RESULT_STATES]
  obtain ⟨db, row, e, text, read, hrefuse, hstored', -, -, hresult, hstate, hstatus⟩ :=
    @Core.advance_refuse Pydantic.plain _ ⟨20, by decide⟩ middle plainService .plain plainTarget _ _
      hstored hrow hpending
  exact ⟨db, row, e, middle, read, hclaim, hrefuse, hstored'.found, hstored'.valid, hresult, hstate,
    hstatus⟩

/-- An expired request ends with an agreement of both services. -/
theorem agrees_expired : ((Services.start Orchestration.plain).run Pydantic.plain .plain
    (dispatchedRun (.at plainTarget ⟨20, by decide⟩) (.at plainTarget ⟨20, by decide⟩))).Agrees
      Pydantic.plain := by
  obtain ⟨db, row, e, middle, read, hclaim, hrefuse, hget, hvalid, hresult, hstate, hstatus⟩ :=
    expired_replied
  have hreplied := run_replied hclaim hrefuse
  have hopen (id : String) (r : OperationalExecutionReference)
      (hr : Orchestration.plain.system.reference id = some r) : r.terminal = false := by
    obtain ⟨session, hsession, hreference⟩ := Option.bind_eq_some_iff.mp hr
    obtain ⟨-, rfl⟩ := Dict.get_set_empty.mp hsession
    cases hreference
  have hquiet : (Services.start Orchestration.plain).Timely Pydantic.plain .plain
      ((dispatchedRun (.at plainTarget ⟨20, by decide⟩) (.at plainTarget ⟨20, by decide⟩)).take 5) := by
    intro before event after heq
    have hmem : event ∈ (dispatchedRun (.at plainTarget ⟨20, by decide⟩)
        (.at plainTarget ⟨20, by decide⟩)).take 5 := by
      rw [heq]
      simp
    simp only [dispatchedRun, List.take_succ_cons, List.take_zero, List.mem_cons,
      List.not_mem_nil, or_false] at hmem
    rcases hmem with rfl | rfl | rfl | rfl | rfl <;> exact id
  refine agrees_of_timely Pydantic.plain .plain Orchestration.plain rfl hopen _
    (@Services.Timely.append _ _ _ _ _ _ _ hquiet ?_)
  rw [hreplied]
  rintro ⟨answer, hdelivery, hearly⟩
  rw [delivery_replied] at hdelivery
  obtain rfl := Option.some.inj hdelivery
  refine hearly.2 ⟨row, e, read, hget, Core.entry_eq_ok.mpr hvalid.reads, hresult, rfl, ?_, ?_⟩
  · rw [hstate]
    exact fun _ => nofun
  · intro hunknown
    rw [hstatus] at hunknown
    cases hunknown

end AtlasOS.Operational
