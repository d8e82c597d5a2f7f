import AtlasOS.Core.Dispatch.ServiceRuns

/-!
# The lifecycle service

`OperationalLifecycleService` starts the verification of a dispatched request if
`_eligible` accepts its entry, and reports how an entry stands. An entry is final
when nothing that Core does to requests changes its row any more: it failed, it was
verified, or its outcome stays unknown because `_eligible` refuses it.
-/

namespace AtlasOS.Core

open Sqlite Sqlite.Transaction

variable {pd : Pydantic} {py : Python} {now : Fin MAX_MICROS} {db db' : Database}
  {request : OperationalDispatchRequest}

/-! ## The service -/

/-- `_eligible` -/
def eligible (entry : OperationalLedgerEntry) : Bool :=
  entry.verification_result.isNone &&
    (entry.dispatch_result.any fun dispatch =>
      dispatch.provider_operation_id.isSome &&
        decide (dispatch.status ∈ [OperationalDispatchStatus.succeeded, .outcomeUnknown])) &&
    decide (entry.state ∈ [OperationalLedgerState.succeeded, .outcomeUnknown, .verifying])

/-- `OperationalLifecycleStatus` -/
structure OperationalLifecycleStatus where
  request_id : String
  request_digest : String
  ledger_state : OperationalLedgerState
  dispatch_result : Option OperationalDispatchResult
  verification_result : Option OperationalVerificationResult
  verification_resumable : Bool

/-- What `status` returns for an entry. -/
def OperationalLedgerEntry.status (entry : OperationalLedgerEntry) : OperationalLifecycleStatus where
  request_id := entry.request_id
  request_digest := entry.request_digest
  ledger_state := entry.state
  dispatch_result := entry.dispatch_result
  verification_result := entry.verification_result
  verification_resumable := eligible entry

/-- `status`, with the outcome of its read. -/
def World.status (pd : Pydantic) (w : World py) (faults : List Bool) (request_id : String) :
    Option OperationalLifecycleStatus :=
  match withConnection w.db faults (getEntry pd py request_id) with
  | (.ok (some entry), _) => some entry.status
  | _ => none

/-- What can happen in a Core whose verifications are started by the lifecycle service. -/
inductive LifecycleEvent (py : Python) where
  | call (service : OperationalDispatchService) (request : Request py)
  | advance (index : ℕ) (input : Input)
  | cancel (index : ℕ)
  /-- `reconcile`, up to the await of its verifier. -/
  | reconcile (now : Fin MAX_MICROS) (reading faults : List Bool) (request_id : String)
      (verifiers : OperationalDispatchRequest → Bool) (recovery : Bool)
  /-- The write of `reconcile`; it may come at any time and with any result of a verifier. -/
  | verified (now : Fin MAX_MICROS) (faults : List Bool) (request : OperationalDispatchRequest)
      (result : VerificationResult)
  | restart (now : Fin MAX_MICROS) (faults : List Bool)

/-- The call of `begin_verification` that `reconcile` makes, if it makes one. -/
def World.begins (pd : Pydantic) (w : World py) (now : Fin MAX_MICROS) (reading faults : List Bool)
    (request_id : String) (verifiers : OperationalDispatchRequest → Bool) (recovery : Bool) :
    Option (Event py) :=
  match withConnection w.db reading (getEntry pd py request_id) with
  | (.ok (some entry), _) =>
      if eligible entry && verifiers entry.request then
        some (.beginVerification now faults entry.request
          (recovery && decide (entry.state = .verifying)))
      else none
  | _ => none

/-- What an event does to the ledger and to the calls, if it does something. -/
def World.event (pd : Pydantic) (w : World py) : LifecycleEvent py → Option (Event py)
  | .call service request => some (.call service request)
  | .advance index input => some (.advance index input)
  | .cancel index => some (.cancel index)
  | .reconcile now reading faults request_id verifiers recovery =>
      w.begins pd now reading faults request_id verifiers recovery
  | .verified now faults request result => some (.persistVerificationResult now faults request result)
  | .restart now faults => some (.restart now faults)

/-- One step under the lifecycle service. -/
def World.serve (pd : Pydantic) (w : World py) (event : LifecycleEvent py) : World py :=
  match w.event pd event with
  | some event => w.step pd event
  | none => w

/-- The state after some steps. -/
def World.serves (pd : Pydantic) (w : World py) (events : List (LifecycleEvent py)) : World py :=
  events.foldl (World.serve pd) w

theorem World.Valid.serve {w : World py} (h : w.Valid pd) (event : LifecycleEvent py) :
    (w.serve pd event).Valid pd := by
  rw [World.serve]
  cases w.event pd event with
  | none => exact h
  | some event => exact h.step event

/-! ## Final entries -/

/-- The request failed, or its verification ended, or its outcome is unknown and no verification
can be started. -/
def Final (entry : OperationalLedgerEntry) : Prop :=
  entry.state ∈ [OperationalLedgerState.failed, .verified, .verificationFailed, .targetReplaced] ∨
    entry.state = .outcomeUnknown ∧ eligible entry = false

theorem Final.not_pending {entry : OperationalLedgerEntry} (h : Final entry) :
    entry.state ∉ PRE_RESULT_STATES := by
  rcases h with hstate | ⟨hstate, -⟩
  · generalize entry.state = state at hstate
    cases state <;> simp [PRE_RESULT_STATES] at hstate ⊢
  · simp [hstate, PRE_RESULT_STATES]

theorem Final.not_running {entry : OperationalLedgerEntry} (h : Final entry) :
    entry.state ∉ [OperationalLedgerState.claimed, .revalidated, .dispatching, .succeeded,
      .verifying] := by
  rcases h with hstate | ⟨hstate, -⟩
  · generalize entry.state = state at hstate
    cases state <;> simp at hstate ⊢
  · simp [hstate]

/-- The verification of an eligible entry does not start from a final one. -/
theorem Final.not_begins {entry : OperationalLedgerEntry} (h : Final entry)
    (heligible : eligible entry = true) :
    entry.state ∉ [OperationalLedgerState.succeeded, .outcomeUnknown] := by
  rcases h with hstate | ⟨-, hnot⟩
  · generalize entry.state = state at hstate
    cases state <;> simp at hstate ⊢
  · rw [hnot] at heligible
    cases heligible

/-- A read returns the entry of a row and changes nothing. -/
theorem getEntry_spec (hdb : db.Valid pd py) (id : String) :
    Spec (getEntry pd py id) db db
      (fun found d w => d = w ∧ w = db ∧
        ∀ e ∈ found, ∃ row, db.rows.get id = some row ∧ row.Valid pd py e)
      (fun _ d => d = db) := by
  refine Spec.bind (Spec.select rfl ?_)
  cases hget : db.rows.get id with
  | none => exact Spec.pure ⟨rfl, rfl, fun e he => absurd he (Option.not_mem_none e)⟩
  | some row =>
    obtain ⟨e, hvalid⟩ := hdb.get hget
    refine Spec.bind (spec_entry hvalid (Spec.pure ⟨rfl, rfl, fun e' he' => ?_⟩))
    obtain rfl := Option.mem_some_iff.mp he'
    exact ⟨row, rfl, hvalid⟩

theorem World.Valid.getEntry {w : World py} (hw : w.Valid pd) {faults : List Bool} {id : String}
    {e : OperationalLedgerEntry} {after : Database}
    (h : withConnection w.db faults (Core.getEntry pd py id) = (.ok (some e), after)) :
    ∃ row, w.db.rows.get id = some row ∧ row.Valid pd py e :=
  (Spec.outcome (getEntry_spec hw.db id) h).2 e rfl

/-- `reconcile` begins a verification of the eligible entry that it read. -/
theorem World.Valid.begins {w : World py} (hw : w.Valid pd) {reading faults : List Bool}
    {id : String} {verifiers : OperationalDispatchRequest → Bool} {recovery : Bool}
    {event : Event py} (h : w.begins pd now reading faults id verifiers recovery = some event) :
    ∃ row e resume_interrupted, w.db.rows.get e.request.request_id = some row ∧
      row.Valid pd py e ∧ eligible e = true ∧
      event = .beginVerification now faults e.request resume_interrupted := by
  rw [World.begins] at h
  split at h
  · next e _ hread =>
    obtain ⟨row, hget, hvalid⟩ := hw.getEntry hread
    split at h
    · next heligible =>
      rw [Bool.and_eq_true] at heligible
      obtain rfl := Option.some.inj h
      have hid : e.request.request_id = id :=
        hvalid.reads.stored_id.trans (hw.db.stored id row hget).1
      exact ⟨row, e, _, hid ▸ hget, hvalid, heligible.1, rfl⟩
    · cases h
  · cases h

/-! ## Steps -/

/-- What a step does to the rows. -/
inductive Served (pd : Pydantic) (db : Database) : Database → Prop
  | nothing : Served pd db db
  | moved {c c' : DispatchCall py} {db' : Database} (moved : Moved pd db c c' db') :
      Served pd db db'
  | began {row : Row} {e : OperationalLedgerEntry} {now : Fin MAX_MICROS}
      (stored : Stored pd py db e.request row e) (eligible : eligible e = true)
      (unverified : e.verification_result = none)
      (state : e.state ∈ [OperationalLedgerState.succeeded, .outcomeUnknown]) :
      Served pd db (db.moved py e.request (row.beginVerification (nowText py now)) e.state
        .verifying now)
  | verified {request : OperationalDispatchRequest} {result : OperationalVerificationResult}
      {e : OperationalLedgerEntry} {now : Fin MAX_MICROS} {db' : Database}
      (verified : Verified pd py now request db result e db') : Served pd db db'
  | interrupted {rows : List Row} {now : Fin MAX_MICROS} {db' : Database}
      (interrupted : Interrupted pd py now rows db db') : Served pd db db'

/-- Every step under the lifecycle service does one of these. -/
theorem World.Valid.served {w : World py} (hw : w.Valid pd) (event : LifecycleEvent py) :
    @Served py pd w.db (w.serve pd event).db := by
  rw [World.serve]
  cases event with
  | call service request => exact .nothing
  | cancel index => exact .nothing
  | advance index input =>
    rw [World.event]
    dsimp only
    rw [World.step]
    cases w.calls[index]? with
    | none => exact .nothing
    | some c => exact .moved (advance_moved hw.db c input)
  | reconcile now reading faults id verifiers recovery =>
    rw [World.event]
    cases hbegins : w.begins pd now reading faults id verifiers recovery with
    | none => exact .nothing
    | some event =>
      obtain ⟨row, e, resume_interrupted, hget, hvalid, heligible, rfl⟩ := hw.begins hbegins
      dsimp only
      rw [World.step]
      rcases hrun : withConnection w.db faults
        (beginVerification pd py now e.request resume_interrupted) with ⟨result, after⟩
      have hbegan := Spec.outcome (beginVerification_spec hw.db now e.request resume_interrupted) hrun
      cases result with
      | ok entry =>
        rcases hbegan with @⟨row', e', hstored, hunverified, hstate⟩ | _
        · obtain rfl : row = row' := Option.some.inj (hget.symm.trans hstored.found)
          obtain rfl := hstored.valid.unique hvalid
          exact .began hstored heligible hunverified hstate
        · exact .nothing
      | error error =>
        have hsame : after = w.db := hbegan
        rw [hsame]
        exact .nothing
  | verified now faults request result =>
    rw [World.event]
    dsimp only
    rw [World.step]
    rcases hrun : withConnection w.db faults
      (persistVerificationResult pd py now request result.toOperationalVerificationResult) with
      ⟨outcome, after⟩
    have hverified := Spec.outcome (persistVerificationResult_spec hw.db now request result) hrun
    cases outcome with
    | ok entry => exact .verified hverified
    | error error =>
      have hsame : after = w.db := hverified
      rw [hsame]
      exact .nothing
  | restart now faults =>
    rw [World.event]
    dsimp only
    rw [World.step]
    rcases hrun : withConnection w.db faults (reconcileStartup pd py now) with ⟨outcome, after⟩
    have hinterrupted := Spec.outcome (reconcileStartup_spec hw.db now) hrun
    cases outcome with
    | ok entry => exact .interrupted hinterrupted
    | error error =>
      have hsame : after = w.db := hinterrupted
      rw [hsame]
      exact .nothing

/-! ## Final rows stay -/

theorem Moved.stable_final {c c' : DispatchCall py} (h : Moved pd db c c' db') :
    Stable pd py Final db db' := by
  have hbefore {db' : Database} (hpreliminary : Preliminary pd py db db') :
      Stable pd py Final db db' := by
    refine hpreliminary.stable.mono fun e he hmem => he.not_running ?_
    rcases List.mem_cons.mp hmem with hstate | hmem
    · simp [hstate]
    · simp [List.mem_singleton.mp hmem]
  cases h with
  | before _ _ preliminary => exact hbefore preliminary
  | crossed _ _ preliminary => exact hbefore preliminary
  | refused _ _ _ persisted =>
    exact persisted.stable fun _ _ _ hpending hfinal => hfinal.not_pending hpending
  | stored _ persisted =>
    exact persisted.stable fun _ _ _ hpending hfinal => hfinal.not_pending hpending
  | called | answered | ended => exact .refl db

/-- Nothing that Core does to requests changes the row of a final entry. -/
theorem Served.stable_final (h : @Served py pd db db') : Stable pd py Final db db' := by
  cases h with
  | nothing => exact .refl db
  | moved moved => exact moved.stable_final
  | began stored eligible unverified state =>
    exact stored.stable fun hfinal => hfinal.not_begins eligible state
  | verified verified =>
    exact verified.stable fun e hfinal hstate => hfinal.not_running (by simp [hstate])
  | interrupted interrupted =>
    exact interrupted.stable fun e hfinal hstate => hfinal.not_running (by simp [hstate])

/-! ## Results and states -/

/-- What the dispatch result of an entry says about its state. -/
structure Coupled (entry : OperationalLedgerEntry) : Prop where
  failed : ∀ dispatch ∈ entry.dispatch_result, dispatch.status = .failed →
    entry.state ∈ [OperationalLedgerState.failed, .targetReplaced]
  unknown : ∀ dispatch ∈ entry.dispatch_result, dispatch.status = .outcomeUnknown →
    dispatch.provider_operation_id = none →
    entry.state = .outcomeUnknown ∧ entry.verification_result = none

/-- Every row that changes is coupled afterwards. -/
def Couples (pd : Pydantic) (py : Python) (db db' : Database) : Prop :=
  ∀ id row e, db'.rows.get id = some row → row.Valid pd py e →
    db.rows.get id = some row ∨ Coupled e

theorem Couples.refl (db : Database) : Couples pd py db db := fun _ _ _ hget _ => .inl hget

theorem Couples.trans {db'' : Database} (h : Couples pd py db db') (h' : Couples pd py db' db'') :
    Couples pd py db db'' := by
  intro id row e hget hvalid
  rcases h' id row e hget hvalid with hold | hcoupled
  · exact h id row e hold hvalid
  · exact .inr hcoupled

/-- A row moves to one that holds a coupled entry. -/
theorem couples_moved {row' : Row} {e' : OperationalLedgerEntry} (hvalid' : row'.Valid pd py e')
    (hcoupled : Coupled e') (previous_state state : OperationalLedgerState) :
    Couples pd py db (db.moved py request row' previous_state state now) := by
  intro id row e hget hvalid
  rw [Database.moved, get_rows_change] at hget
  split at hget
  · obtain rfl := Option.some.inj hget
    rw [hvalid.unique hvalid']
    exact .inr hcoupled
  · exact .inl hget

/-- A row without a result says nothing. -/
theorem Preliminary.couples (h : Preliminary pd py db db') : Couples pd py db db' := by
  intro id row e hget hvalid
  refine (h.resultless id row hget).imp_right fun hnone => ?_
  have hresult := (readColumn_eq_none hvalid.reads.dispatch).mpr hnone
  exact ⟨fun d hd => by simp [hresult] at hd, fun d hd => by simp [hresult] at hd⟩

/-- A result is stored under a state of its status. -/
theorem Persisted.couples (hdb : db.Valid pd py) {result : OperationalDispatchResult}
    {state : OperationalLedgerState} {e : OperationalLedgerEntry}
    (h : Persisted pd py now request db result state e db')
    (hfailed : result.status = .failed →
      state ∈ [OperationalLedgerState.failed, .targetReplaced])
    (hunknown : result.status = .outcomeUnknown → state = .outcomeUnknown) :
    Couples pd py db db' := by
  cases h with
  | replayed => exact .refl db
  | @stored row e read stored pending allowed loaded alike same_id same_digest =>
    have hvalid := stored.finish hdb pending allowed loaded alike same_id same_digest now
    refine couples_moved hvalid ⟨fun d hd hstatus => ?_, fun d hd hstatus _ => ?_⟩ _ _
    · obtain rfl := Option.mem_some_iff.mp hd
      exact hfailed (alike.status.symm.trans hstatus)
    · obtain rfl := Option.mem_some_iff.mp hd
      exact ⟨hunknown (alike.status.symm.trans hstatus),
        stored.valid.verification_of_pending pending⟩

theorem Moved.couples (hdb : db.Valid pd py) {c c' : DispatchCall py} (h : Moved pd db c c' db') :
    Couples pd py db db' := by
  cases h with
  | before _ _ preliminary => exact preliminary.couples
  | crossed _ _ preliminary => exact preliminary.couples
  | refused _ status kind persisted =>
    exact persisted.couples hdb (fun _ => kind) fun hunknown => by rw [status] at hunknown; cases hunknown
  | @stored result _ _ _ _ _ persisted =>
    refine persisted.couples hdb (fun hstatus => ?_) fun hstatus => ?_
    · rw [show result.status = .failed from hstatus]
      exact List.mem_cons_self
    · rw [show result.status = .outcomeUnknown from hstatus]
      rfl
  | called | answered | ended => exact .refl db

/-- Only entries with an operation identifier that did not fail are verified. -/
theorem coupled_beginVerification {entry : OperationalLedgerEntry} (h : eligible entry = true)
    (now : Fin MAX_MICROS) : Coupled (entry.beginVerification now) := by
  simp only [eligible, Bool.and_eq_true, Option.any_eq_true, decide_eq_true_eq] at h
  obtain ⟨⟨-, d, hd, hoperation, hstatus⟩, -⟩ := h
  have hsame (d' : OperationalDispatchResult)
      (hd' : d' ∈ (entry.beginVerification now).dispatch_result) : d' = d :=
    Option.some.inj ((Option.mem_def.mp hd').symm.trans hd)
  refine ⟨fun d' hd' hfailed => ?_, fun d' hd' _ hnone => ?_⟩
  · rw [hsame d' hd'] at hfailed
    simp [hfailed] at hstatus
  · rw [hsame d' hd'] at hnone
    simp [hnone] at hoperation

/-- A verification ends with the coupling it began with. -/
theorem Verified.couples (hdb : ∀ id row e, db.rows.get id = some row → row.Valid pd py e → Coupled e)
    {result : OperationalVerificationResult} {e : OperationalLedgerEntry}
    (h : Verified pd py now request db result e db') : Couples pd py db db' := by
  cases h with
  | replayed => exact .refl db
  | @stored row e read stored state unverified loaded alike =>
    have hcoupled := hdb _ row e stored.found stored.valid
    refine couples_moved (stored.valid.verify state loaded result.status now)
      ⟨fun d hd hstatus => ?_, fun d hd hstatus hnone => ?_⟩ _ _
    · have hmem := hcoupled.failed d hd hstatus
      simp [state] at hmem
    · have hsame := (hcoupled.unknown d hd hstatus hnone).1
      rw [state] at hsame
      cases hsame

/-- A restart stores unknown outcomes without an operation. -/
theorem Interrupted.couples {rows : List Row} (h : Interrupted pd py now rows db db') :
    Couples pd py db db' := by
  induction h with
  | nil => exact .refl _
  | @cons db db' row rows e started_at read stored state loaded alike _ ih =>
    have hpre : OperationalLedgerState.dispatching ∈ PRE_RESULT_STATES := by
      simp [PRE_RESULT_STATES]
    have hresult : OperationalLedgerState.outcomeUnknown ∈ DISPATCH_RESULT_STATES := by
      simp [DISPATCH_RESULT_STATES]
    rw [← state] at hpre
    have hvalid := stored.valid.finish hpre hresult loaded alike.request_id alike.request_digest now
    refine (couples_moved hvalid ⟨fun d hd hstatus => ?_, fun _ _ _ _ => ?_⟩ _ _).trans ih
    · obtain rfl := Option.mem_some_iff.mp hd
      rw [alike.status] at hstatus
      cases hstatus
    · exact ⟨rfl, stored.valid.verification_of_pending hpre⟩

/-- The invariant of Core under the lifecycle service. -/
structure World.Coupled (pd : Pydantic) (w : World py) : Prop where
  valid : w.Valid pd
  coupled : ∀ id row e, w.db.rows.get id = some row → row.Valid pd py e → Core.Coupled e

theorem Served.couples (hvalid : db.Valid pd py)
    (hcoupled : ∀ id row e, db.rows.get id = some row → row.Valid pd py e → Coupled e)
    (h : @Served py pd db db') : Couples pd py db db' := by
  cases h with
  | nothing => exact .refl db
  | moved moved => exact moved.couples hvalid
  | @began _ _ now stored eligible unverified state =>
    exact couples_moved (stored.valid.beginVerification state unverified now)
      (coupled_beginVerification eligible now) _ _
  | verified verified => exact verified.couples hcoupled
  | interrupted interrupted => exact interrupted.couples

theorem World.Coupled.serve {w : World py} (h : w.Coupled pd) (event : LifecycleEvent py) :
    (w.serve pd event).Coupled pd where
  valid := h.valid.serve event
  coupled := fun id row e hget hvalid => by
    rcases (h.valid.served event).couples h.valid.db h.coupled id row e hget hvalid with
      hold | hcoupled
    · exact h.coupled id row e hold hvalid
    · exact hcoupled

theorem initial_coupled : World.Coupled pd (World.initial : World py) where
  valid := initial_valid
  coupled := fun id row e hget => by simp [World.initial, Database.empty] at hget

/-! ## Runs -/

theorem World.Valid.serves {w : World py} (h : w.Valid pd) (events : List (LifecycleEvent py)) :
    (w.serves pd events).Valid pd := by
  induction events using List.reverseRecOn with
  | nil => exact h
  | append_singleton events event ih =>
    rw [World.serves, List.foldl_append]
    exact ih.serve event

/-- The row of a final entry is the same after every later run. -/
theorem World.Valid.final_stays {w : World py} (hw : w.Valid pd) {id : String} {row : Row}
    {e : OperationalLedgerEntry} (hget : w.db.rows.get id = some row) (hvalid : row.Valid pd py e)
    (hfinal : Final e) (events : List (LifecycleEvent py)) :
    (w.serves pd events).db.rows.get id = some row := by
  induction events using List.reverseRecOn with
  | nil => exact hget
  | append_singleton events event ih =>
    rw [World.serves, List.foldl_append]
    exact ((hw.serves events).served event).stable_final id row e ih hvalid hfinal

end AtlasOS.Core
