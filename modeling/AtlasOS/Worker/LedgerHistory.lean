import AtlasOS.Worker.LedgerInvariant

/-!
# Histories of the durable worker ledger

A history is a finite sequence of calls with arbitrary arguments, clock
readings and database failures. `TableStep` says what one call can do to the
rows; everything about whole histories follows from it by induction.
-/

namespace AtlasOS.Worker

open Sqlite Sqlite.Transaction

variable {py : Python}

/-- The moves of a row: it is claimed, passes the start barrier and ends, or
ends without having been started. -/
inductive Move : DurableState → DurableState → Prop
  | start : Move .claimed .executing
  | refuse : Move .claimed .failedTerminal
  | finish {s : DurableState} : s.terminal = true → Move .executing s

/-- A terminal state is never left. -/
theorem Move.open {s s' : DurableState} (h : Move s s') : s.terminal = false := by
  cases h <;> rfl

/-- What one call can do to a stored row: its digest stays, and either nothing
changes or its state makes one move. -/
structure RowStep (row row' : Row) : Prop where
  digest : row'.request_digest = row.request_digest
  moves : row' = row ∨
    ∃ s s', row.state = s.value ∧ row'.state = s'.value ∧ Move s s'

theorem RowStep.refl (row : Row) : RowStep row row := ⟨rfl, .inl rfl⟩

/-- What one call can do to the table: no row disappears, and every row follows
the moves. -/
def TableStep (t t' : Table) : Prop :=
  ∀ id row, t.get id = some row → ∃ row', t'.get id = some row' ∧ RowStep row row'

theorem TableStep.refl (t : Table) : TableStep t t := fun _ row h => ⟨row, h, .refl row⟩

/-- Replacing one row by a later version of it is a step of the table. -/
theorem TableStep.set {t : Table} {id : String} {row row' : Row} (hget : t.get id = some row)
    (hstep : RowStep row row') : TableStep t (t.set id row') := by
  intro id' stored hstored
  rw [Dict.get_set]
  split
  · next heq =>
    subst heq
    rw [hget] at hstored
    cases hstored
    exact ⟨row', rfl, hstep⟩
  · exact ⟨stored, hstored, .refl stored⟩

/-- The rows that were added are newly claimed. -/
def AddsClaimed (request : Option WorkerExecutionRequest) (t t' : Table) : Prop :=
  ∀ id row, t.get id = none → t'.get id = some row →
    row.state = DurableState.claimed.value ∧
      ∃ q ∈ request, q.execution_request_id = id ∧ row.request_digest = q.request_digest

/-- No row appears when every row of the new table has an earlier version. -/
theorem addsClaimed_of_get {request : Option WorkerExecutionRequest} {t t' : Table}
    (h : ∀ id, t.get id = none → t'.get id = none) : AddsClaimed request t t' := by
  intro id row hnone hsome
  rw [h id hnone] at hsome
  cases hsome

theorem get_set_eq_none {t : Table} {id id' : String} {row row' : Row}
    (hget : t.get id = some row) (hnone : t.get id' = none) : (t.set id row').get id' = none := by
  rw [Dict.get_set]
  split
  · next heq =>
    subst heq
    rw [hget] at hnone
    cases hnone
  · exact hnone

/-! ## Calls -/

/-- The mutators of the ledger, with their arguments. -/
inductive Call where
  | claim (request : WorkerExecutionRequest)
  | markExecuting (request : WorkerExecutionRequest)
  | persistResult (request : WorkerExecutionRequest) (result : WorkerExecutionResult)
  | markUnknownOutcome (request_id : String)
  | reconcileStartup

/-- The request of a call that can insert a row. -/
def Call.inserts : Call → Option WorkerExecutionRequest
  | .claim request => some request
  | _ => none

/-- One call, made at a clock reading and with a pattern of database failures. -/
structure Invocation where
  call : Call
  now : Fin MAX_MICROS
  faults : List Bool

/-- What a mutator returns. -/
inductive Reply where
  | entry (entry : DurableLedgerEntry)
  | reconciled (counts : Reconciled)

/-- Make one call. -/
def perform (py : Python) (i : Invocation) (t : Table) : Except LedgerError Reply × Table :=
  match i.call with
  | .claim request =>
      (withConnection t i.faults (claim py i.now request)).map (·.map .entry) id
  | .markExecuting request =>
      (withConnection t i.faults (markExecuting py i.now request)).map (·.map .entry) id
  | .persistResult request result =>
      (withConnection t i.faults (persistResult py i.now request result)).map (·.map .entry) id
  | .markUnknownOutcome request_id =>
      (withConnection t i.faults (markUnknownOutcome py i.now request_id)).map (·.map .entry) id
  | .reconcileStartup =>
      (withConnection t i.faults (reconcileStartup py i.now)).map (·.map .reconciled) id

/-- The table after a sequence of calls on an empty ledger. -/
def history (py : Python) (calls : List Invocation) : Table :=
  calls.foldl (fun t i => (perform py i t).2) ∅

/-- What one call guarantees on a valid table. -/
structure Preserves (py : Python) (request : Option WorkerExecutionRequest) (t : Table)
    (outcome : Except LedgerError Reply × Table) : Prop where
  valid : Table.Valid py outcome.2
  step : TableStep t outcome.2
  adds : AddsClaimed request t outcome.2
  raised : ∀ e, outcome.1 = .error e → outcome.2 = t

/-- A method that meets its specification preserves the table: what it returns
with is a step, and when it raises the table is as before. -/
theorem preserves_of_spec {α : Type} {m : Ledger α} {t : Table}
    {request : Option WorkerExecutionRequest} {P : α → Table → Prop} {E : LedgerError → Table → Prop}
    (hspec : Spec m t t (fun a d w => d = w ∧ P a w) (fun e d => d = t ∧ E e d))
    (ht : Table.Valid py t)
    (hstep : ∀ a w, P a w → Table.Valid py w ∧ TableStep t w ∧ AddsClaimed request t w)
    (faults : List Bool) (reply : α → Reply) :
    Preserves py request t ((withConnection t faults m).map (·.map reply) id) := by
  obtain ⟨hok, herror⟩ := Spec.withConnection hspec faults
  rcases hrun : withConnection t faults m with ⟨r, t'⟩
  cases r with
  | ok a =>
    obtain ⟨d, -, hP⟩ := hok a t' hrun
    obtain ⟨hvalid, hstep, hadds⟩ := hstep a t' hP
    exact ⟨hvalid, hstep, hadds, by simp [Prod.map, Except.map]⟩
  | error e =>
    obtain ⟨rfl, -⟩ := herror e t' hrun
    exact ⟨ht, .refl _, addsClaimed_of_get fun _ h => h, fun _ _ => rfl⟩

theorem Claimed.preserves {t w : Table} {now : Fin MAX_MICROS} {request : WorkerExecutionRequest}
    {e : DurableLedgerEntry} (ht : Table.Valid py t) (h : Claimed py now request t e w) :
    Table.Valid py w ∧ TableStep t w ∧ AddsClaimed (some request) t w := by
  cases h with
  | inserted habsent hrequest =>
    refine ⟨ht.set (claimedRow_valid hrequest now), ?_, ?_⟩
    · intro id row hget
      refine ⟨row, ?_, .refl row⟩
      rw [Dict.get_set_of_ne _ _ ?_, hget]
      rintro rfl
      rw [habsent] at hget
      cases hget
    · intro id row hnone hsome
      rw [Dict.get_set] at hsome
      split at hsome
      · next heq =>
        cases hsome
        exact ⟨rfl, request, rfl, heq, rfl⟩
      · rw [hnone] at hsome
        cases hsome
  | found => exact ⟨ht, .refl _, addsClaimed_of_get fun _ h => h⟩

theorem Started.preserves {t w : Table} {now : Fin MAX_MICROS} {request : WorkerExecutionRequest}
    {row : Row} {e : DurableLedgerEntry} (ht : Table.Valid py t)
    (h : Started py now request t row e w) :
    Table.Valid py w ∧ TableStep t w ∧ AddsClaimed none t w := by
  have hid := (ht _ row h.row_eq).1
  obtain rfl := h.table_eq
  refine ⟨?_, .set h.row_eq ⟨rfl, .inr ⟨_, _, h.claimed.state_eq, rfl, .start⟩⟩,
    addsClaimed_of_get fun _ => get_set_eq_none h.row_eq⟩
  have := ht.set (h.claimed.start now)
  rwa [show (row.start (nowText py now)).execution_request_id = _ from hid] at this

/-- The move that storing a result makes. -/
theorem move_persistedState {row : Row} {state : DurableState} {result : WorkerExecutionResult}
    {now : String} {stored : Option WorkerExecutionResult} (hvalid : row.Valid py state none)
    (hopen : state.terminal = false) (hbarrier : result.status = .succeeded → state = .executing)
    (hfinished : (row.finish (persistedState result) result.encode now).Valid py
      (persistedState result) stored) : Move state (persistedState result) := by
  cases state with
  | claimed =>
    -- An unstarted row cannot hold an unknown outcome, whose start marker is missing.
    have hunstarted : row.execution_started_at = none := hvalid.unstarted rfl
    have hbarrier' := hfinished.barrier
    have hstarted : (row.finish (persistedState result) result.encode now).execution_started_at =
      none := hunstarted
    unfold persistedState at *
    split_ifs at * with hsucceeded hcrash
    · exact absurd (hbarrier hsucceeded) (by simp)
    · simp [hstarted] at hbarrier'
    · exact .refuse
  | executing => exact .finish (persistedState_terminal result)
  | completed | failedTerminal | unknownOutcome => simp [DurableState.terminal] at hopen

theorem Persisted.preserves {t w : Table} {now : Fin MAX_MICROS}
    {request : WorkerExecutionRequest} {result : WorkerExecutionResult} {e : DurableLedgerEntry}
    (ht : Table.Valid py t) (h : Persisted py now request result t e w) :
    Table.Valid py w ∧ TableStep t w ∧ AddsClaimed none t w := by
  cases h with
  | replayed => exact ⟨ht, .refl _, addsClaimed_of_get fun _ h => h⟩
  | @stored row state hrow hvalid hdigest hopen hbarrier hresult hfinished =>
    have hid := (ht _ row hrow).1
    have hmove := move_persistedState hvalid hopen hbarrier hfinished
    refine ⟨?_, .set hrow ⟨rfl, .inr ⟨_, _, hvalid.state_eq, rfl, hmove⟩⟩,
      addsClaimed_of_get fun _ => get_set_eq_none hrow⟩
    have := ht.set hfinished
    rwa [show (row.finish _ _ _).execution_request_id = _ from hid] at this

/-- Abandoning an executing row is a move. -/
theorem Row.Valid.abandon_step {row : Row} {r : Option WorkerExecutionResult}
    (h : row.Valid py .executing r) (now : Fin MAX_MICROS) : RowStep row (row.abandon py now) :=
  ⟨rfl, .inr ⟨_, .unknownOutcome, h.state_eq, rfl, .finish rfl⟩⟩

theorem abandonOne_preserves {t w : Table} {now : Fin MAX_MICROS} {id : String} {row : Row}
    {state : DurableState} {r : Option WorkerExecutionResult} (ht : Table.Valid py t)
    (hget : t.get id = some row) (hrow : row.Valid py state r)
    (h : (state = .executing ∧ w = t.set id (row.abandon py now)) ∨ (state ≠ .executing ∧ w = t)) :
    Table.Valid py w ∧ TableStep t w ∧ AddsClaimed none t w := by
  rcases h with ⟨rfl, rfl⟩ | ⟨-, rfl⟩
  · refine ⟨?_, .set hget (hrow.abandon_step now),
      addsClaimed_of_get fun _ => get_set_eq_none hget⟩
    have := ht.set (hrow.abandon now)
    rwa [show (row.finish _ _ _).execution_request_id = _ from (ht _ row hget).1] at this
  · exact ⟨ht, .refl _, addsClaimed_of_get fun _ h => h⟩

theorem abandonAll_preserves {t w : Table} {now : Fin MAX_MICROS} (ht : Table.Valid py t)
    (h : ∀ id, w.get id = (t.get id).map fun row =>
      if row.state = DurableState.executing.value then row.abandon py now else row) :
    Table.Valid py w ∧ TableStep t w ∧ AddsClaimed none t w := by
  refine ⟨?_, ?_, addsClaimed_of_get fun id hnone => by rw [h id, hnone]; rfl⟩
  · intro id row hget
    rw [h id] at hget
    obtain ⟨stored, hstored, rfl⟩ := Option.map_eq_some_iff.mp hget
    obtain ⟨hid, state, result, hrow⟩ := ht id stored hstored
    split
    · next hstate =>
      obtain rfl : state = .executing := by
        simpa using congrArg DurableState.ofValue? (hrow.state_eq.symm.trans hstate)
      exact ⟨hid, _, _, hrow.abandon now⟩
    · exact ⟨hid, state, result, hrow⟩
  · intro id row hget
    obtain ⟨-, state, result, hrow⟩ := ht id row hget
    refine ⟨_, by rw [h id, hget]; rfl, ?_⟩
    dsimp only
    split
    · next hstate =>
      obtain rfl : state = .executing := by
        simpa using congrArg DurableState.ofValue? (hrow.state_eq.symm.trans hstate)
      exact hrow.abandon_step now
    · exact .refl row

/-- Every call preserves a valid table. -/
theorem perform_preserves {t : Table} (ht : Table.Valid py t) (i : Invocation) :
    Preserves py i.call.inserts t (perform py i t) := by
  obtain ⟨call, now, faults⟩ := i
  have weaken {α : Type} {m : Ledger α} {P : α → Table → Prop}
      (h : Spec m t t (fun a d w => d = w ∧ P a w) (fun _ d => d = t)) :
      Spec m t t (fun a d w => d = w ∧ P a w) (fun _ d => d = t ∧ True) := by
    simpa using h
  cases call with
  | claim request =>
    exact preserves_of_spec (weaken (claim_spec ht now request)) ht
      (fun _ _ h => h.preserves ht) faults .entry
  | markExecuting request =>
    exact preserves_of_spec (E := fun e _ => ReportsOwner py request t e)
      (markExecuting_spec ht now request) ht (fun _ _ ⟨_, h⟩ => h.preserves ht) faults .entry
  | persistResult request result =>
    exact preserves_of_spec (weaken (persistResult_spec ht now request result)) ht
      (fun _ _ h => h.preserves ht) faults .entry
  | markUnknownOutcome request_id =>
    exact preserves_of_spec (weaken (markUnknownOutcome_spec ht now request_id)) ht
      (fun _ _ ⟨_, _, _, hget, hrow, h⟩ => abandonOne_preserves ht hget hrow h) faults .entry
  | reconcileStartup =>
    exact preserves_of_spec (weaken (reconcileStartup_spec ht now)) ht
      (fun _ _ h => abandonAll_preserves ht h) faults .reconciled

/-! ## Whole histories -/

theorem history_append (calls later : List Invocation) :
    history py (calls ++ later) =
      later.foldl (fun t i => (perform py i t).2) (history py calls) := by
  simp [history]

/-- Calls keep a valid table valid. -/
theorem valid_foldl {t : Table} (ht : Table.Valid py t) (calls : List Invocation) :
    Table.Valid py (calls.foldl (fun t i => (perform py i t).2) t) := by
  induction calls generalizing t with
  | nil => exact ht
  | cons i calls ih => exact ih (perform_preserves ht i).valid

/-- The rows of every history are valid. -/
theorem history_valid (calls : List Invocation) : Table.Valid py (history py calls) :=
  valid_foldl (fun _ _ h => by simp at h) calls

/-- What later calls can do to a row. -/
structure RowPath (row row' : Row) : Prop where
  digest : row'.request_digest = row.request_digest
  moves : ∃ s s', row.state = s.value ∧ row'.state = s'.value ∧ Relation.ReflTransGen Move s s'
  frozen : ∀ s : DurableState, row.state = s.value → s.terminal = true → row' = row

theorem RowPath.refl {row : Row} {s : DurableState} (h : row.state = s.value) : RowPath row row :=
  ⟨rfl, ⟨s, s, h, h, .refl⟩, fun _ _ _ => rfl⟩

/-- One step followed by a path is a path. -/
theorem RowStep.trans {row row' row'' : Row} (hstep : RowStep row row') (h : RowPath row' row'') :
    RowPath row row'' := by
  obtain ⟨hdigest, rfl | ⟨s, s', hs, hs', hmove⟩⟩ := hstep
  · exact h
  · obtain ⟨u, v, hu, hv, hpath⟩ := h.moves
    have huv : s' = u := by simpa using congrArg DurableState.ofValue? (hs'.symm.trans hu)
    subst huv
    refine ⟨h.digest.trans hdigest, ⟨s, v, hs, hv, .head hmove hpath⟩, ?_⟩
    intro r hr hterminal
    obtain rfl : r = s := by simpa using congrArg DurableState.ofValue? (hr.symm.trans hs)
    rw [hmove.open] at hterminal
    cases hterminal

theorem path_foldl {t : Table} (ht : Table.Valid py t) (calls : List Invocation) {id : String}
    {row : Row} (hget : t.get id = some row) :
    ∃ row', (calls.foldl (fun t i => (perform py i t).2) t).get id = some row' ∧
      RowPath row row' := by
  induction calls generalizing t row with
  | nil =>
    obtain ⟨-, state, result, hrow⟩ := ht id row hget
    exact ⟨row, hget, .refl hrow.state_eq⟩
  | cons i calls ih =>
    have hp := perform_preserves ht i
    obtain ⟨row', hget', hstep⟩ := hp.step id row hget
    obtain ⟨row'', hget'', hpath⟩ := ih hp.valid hget'
    exact ⟨row'', hget'', hstep.trans hpath⟩

/-- The ledger invariant. After every sequence of calls from an empty ledger,
whatever their arguments and whichever statements the database refused:
every stored row passes the validator; a row's digest is that of the request
that first claimed it, in the state `claimed`, and never changes afterwards;
each call leaves a row as it is or makes one move, and the calls that follow
make a path of moves; a terminal row never changes again; and a call that
raises leaves the table as it was. -/
theorem ledger_invariant (calls : List Invocation) :
    (∀ id row, (history py calls).get id = some row →
      row.execution_request_id = id ∧ ∃ result, validateWorkerLedgerRow py row = .ok result) ∧
    (∀ later id row, (history py calls).get id = some row →
      ∃ row', (history py (calls ++ later)).get id = some row' ∧
        row'.request_digest = row.request_digest ∧
        (∃ s s', row.state = s.value ∧ row'.state = s'.value ∧ Relation.ReflTransGen Move s s') ∧
        (∀ s : DurableState, row.state = s.value → s.terminal = true →
          row'.state = row.state ∧ row'.result_json = row.result_json)) ∧
    (∀ i id row', (history py (calls ++ [i])).get id = some row' →
      match (history py calls).get id with
      | some row => row' = row ∨
          ∃ s s', row.state = s.value ∧ row'.state = s'.value ∧ Move s s'
      | none => row'.state = DurableState.claimed.value ∧
          ∃ request, i.call = .claim request ∧ request.execution_request_id = id ∧
            row'.request_digest = request.request_digest) ∧
    (∀ i e, (perform py i (history py calls)).1 = .error e →
      (perform py i (history py calls)).2 = history py calls) := by
  have hvalid : Table.Valid py (history py calls) := history_valid calls
  refine ⟨?_, ?_, ?_, ?_⟩
  · intro id row hget
    obtain ⟨hid, state, result, hrow⟩ := hvalid id row hget
    exact ⟨hid, result, validateWorkerLedgerRow_eq_ok.mpr ⟨state, hrow⟩⟩
  · intro later id row hget
    obtain ⟨row', hget', hpath⟩ := path_foldl hvalid later hget
    refine ⟨row', by rwa [history_append], hpath.digest, hpath.moves, fun s hs hterminal => ?_⟩
    rw [hpath.frozen s hs hterminal]
    exact ⟨rfl, rfl⟩
  · intro i id row' hget'
    have hp := perform_preserves hvalid i
    rw [history_append] at hget'
    cases hget : (history py calls).get id with
    | some row =>
      obtain ⟨next, hnext, hstep⟩ := hp.step id row hget
      obtain rfl : next = row' := by simpa [hnext] using hget'
      exact hstep.moves
    | none =>
      obtain ⟨hstate, request, hrequest, hid, hdigest⟩ := hp.adds id row' hget hget'
      refine ⟨hstate, request, ?_, hid, hdigest⟩
      cases hc : i.call <;> simp_all [Call.inserts]
  · intro i e herror
    exact (perform_preserves hvalid i).raised e herror

end AtlasOS.Worker
