import AtlasOS.Core.Dispatch.LedgerMethods

/-!
# Histories of the dispatch ledger

A history is a finite sequence of ledger calls with arbitrary arguments, clock
readings and database failures; calls that run at the same time are ordered by
the write lock of the database. Every call changes the database as the invariant
allows, so whatever was called, each row reads and its recorded transitions are
a sequence that the ledger's own check accepts.
-/

namespace AtlasOS.Core

open Sqlite Sqlite.Transaction Relation

variable {pd : Pydantic} {py : Python} {now : Fin MAX_MICROS} {db db' : Database}
  {request : OperationalDispatchRequest}

/-! ## Outcomes as changes -/

/-- No change, or changes one after the other. -/
abbrev Changes (pd : Pydantic) (py : Python) : Database → Database → Prop :=
  ReflTransGen (Change pd py)

theorem Claimed.changes {e : OperationalLedgerEntry} (h : Claimed pd py now request db e db') :
    Changes pd py db db' := by
  cases h with
  | inserted absent valid => exact .single (.insert now absent rfl rfl valid rfl)
  | found => exact .refl

/-- A row that moved keeps its results when it only gains what it lacked. -/
theorem Stored.change {row row' : Row} {e e' : OperationalLedgerEntry}
    (h : Stored pd py db request row e) (hvalid : row'.Valid pd py e') (hkeeps : row.Keeps row')
    (hallowed : (some e.state, e'.state) ∈ ALLOWED_LEDGER_TRANSITIONS) :
    Changes pd py db (db.moved py request row' e.state e'.state now) :=
  .single (.move now h.found h.same_digest h.valid hvalid hkeeps hallowed)

/-- A row without a result keeps what it has when a result is stored. -/
theorem Stored.keeps_finish {row : Row} {e : OperationalLedgerEntry}
    (h : Stored pd py db request row e) (hpre : e.state ∈ PRE_RESULT_STATES)
    (state : OperationalLedgerState) (encoded text : String) :
    row.Keeps (row.finish state encoded text) where
  request_id := rfl
  request_digest := rfl
  request_json := rfl
  dispatch := fun hne => absurd
    ((readColumn_eq_none h.valid.reads.dispatch).mp (h.valid.pending.mpr hpre)) hne
  verification := fun _ => rfl

theorem Advanced.changes {expected target : OperationalLedgerState} {started : Bool}
    (hadvance : Advance expected target started) {r : OperationalLedgerEntry × Bool}
    (h : Advanced pd py now request db expected target started r db') : Changes pd py db db' := by
  cases h with
  | moved stored state =>
    subst state
    exact stored.change (stored.valid.advance hadvance now) ⟨rfl, rfl, rfl, fun _ => rfl, fun _ => rfl⟩
      hadvance.allowed
  | kept => exact .refl

/-- A result that answers the request is stored as a valid row. -/
theorem Stored.finish {row : Row} {e : OperationalLedgerEntry} (h : Stored pd py db request row e)
    (hdb : db.Valid pd py) {result read : OperationalDispatchResult} {state : OperationalLedgerState}
    (pending : e.state ∈ PRE_RESULT_STATES) (allowed : state ∈ DISPATCH_RESULT_STATES)
    (loaded : pd.validateDispatchJson (pd.dumpDispatch result) = .ok read)
    (alike : read.Alike result) (same_id : result.request_id = request.request_id)
    (same_digest : result.request_digest = request.request_digest) (now : Fin MAX_MICROS) :
    (row.finish state (pd.dumpDispatch result) (nowText py now)).Valid pd py
      (e.finish state read now) := by
  obtain ⟨hid, -⟩ := hdb.stored _ _ h.found
  exact h.valid.finish pending allowed loaded (alike.request_id.trans (same_id.trans hid.symm))
    (alike.request_digest.trans (same_digest.trans h.same_digest.symm)) now

theorem Persisted.changes (hdb : db.Valid pd py) {result : OperationalDispatchResult}
    {state : OperationalLedgerState} {e : OperationalLedgerEntry}
    (h : Persisted pd py now request db result state e db') : Changes pd py db db' := by
  cases h with
  | replayed => exact .refl
  | stored stored pending allowed loaded alike same_id same_digest =>
    have hvalid := stored.finish hdb pending allowed loaded alike same_id same_digest now
    exact stored.change hvalid (stored.keeps_finish pending _ _ _)
      (finish_allowed _ pending _ allowed)

theorem Began.changes {resume_interrupted : Bool} {r : OperationalLedgerEntry × Bool}
    (h : Began pd py now request db resume_interrupted r db') : Changes pd py db db' := by
  cases h with
  | @moved row e stored unverified state =>
    have hallowed : (some e.state, .verifying) ∈ ALLOWED_LEDGER_TRANSITIONS := by
      generalize e.state = s at state
      cases s <;> simp [ALLOWED_LEDGER_TRANSITIONS] at state ⊢
    exact stored.change (stored.valid.beginVerification state unverified now)
      ⟨rfl, rfl, rfl, fun _ => rfl, fun _ => rfl⟩ hallowed
  | kept => exact .refl

theorem Verified.changes {result : OperationalVerificationResult} {e : OperationalLedgerEntry}
    (h : Verified pd py now request db result e db') : Changes pd py db db' := by
  cases h with
  | replayed => exact .refl
  | @stored row e read stored state unverified loaded alike =>
    have hallowed : (some e.state, verifiedState result.status) ∈ ALLOWED_LEDGER_TRANSITIONS := by
      rw [state]
      cases result.status <;> simp [verifiedState, ALLOWED_LEDGER_TRANSITIONS]
    have hkeeps : row.Keeps (row.verify (verifiedState result.status)
        (pd.dumpVerification result) (nowText py now)) :=
      ⟨rfl, rfl, rfl, fun _ => rfl, fun hne => absurd
        ((readColumn_eq_none stored.valid.reads.verification).mp unverified) hne⟩
    exact stored.change (stored.valid.verify state loaded result.status now) hkeeps hallowed

theorem Interrupted.changes {rows : List Row} (h : Interrupted pd py now rows db db') :
    Changes pd py db db' := by
  induction h with
  | nil => exact .refl
  | cons stored state loaded alike _ ih =>
    have hpre : OperationalLedgerState.dispatching ∈ PRE_RESULT_STATES := by
      simp [PRE_RESULT_STATES]
    have hresult : OperationalLedgerState.outcomeUnknown ∈ DISPATCH_RESULT_STATES := by
      simp [DISPATCH_RESULT_STATES]
    rw [← state] at hpre
    have hvalid := stored.valid.finish hpre hresult loaded alike.request_id alike.request_digest now
    exact (stored.change hvalid (stored.keeps_finish hpre _ _ _)
      (finish_allowed _ hpre _ hresult)).trans ih

/-! ## Calls -/

/-- The methods of the ledger that change it, with their arguments. -/
inductive Call (py : Python) where
  | claim (request : Request py)
  | markRevalidated (request : OperationalDispatchRequest)
  | markDispatching (request : OperationalDispatchRequest)
  | persistDispatchResult (request : OperationalDispatchRequest) (result : DispatchResult)
      (state : OperationalLedgerState)
  | beginVerification (request : OperationalDispatchRequest) (resume_interrupted : Bool)
  | persistVerificationResult (request : OperationalDispatchRequest) (result : VerificationResult)
  | reconcileStartup

/-- One call, made at a clock reading and with a pattern of database failures. -/
structure Invocation (py : Python) where
  call : Call py
  now : Fin MAX_MICROS
  faults : List Bool

/-- A call as a block of statements, without its reply. -/
def block (pd : Pydantic) (now : Fin MAX_MICROS) : Call py → Ledger Unit
  | .claim request => do
      let _ ← claim pd py now request.toOperationalDispatchRequest
  | .markRevalidated request => do
      let _ ← markRevalidated pd py now request
  | .markDispatching request => do
      let _ ← markDispatching pd py now request
  | .persistDispatchResult request result state => do
      let _ ← persistDispatchResult pd py now request result.toOperationalDispatchResult state
  | .beginVerification request resume_interrupted => do
      let _ ← beginVerification pd py now request resume_interrupted
  | .persistVerificationResult request result => do
      let _ ← persistVerificationResult pd py now request result.toOperationalVerificationResult
  | .reconcileStartup => do
      let _ ← reconcileStartup pd py now

/-- Make one call. -/
def perform (pd : Pydantic) (i : Invocation py) (db : Database) : Except LedgerError Unit × Database :=
  withConnection db i.faults (block pd i.now i.call)

/-- The database after a sequence of calls on an empty ledger. -/
def history (pd : Pydantic) (calls : List (Invocation py)) : Database :=
  calls.foldl (fun db i => (perform pd i db).2) .empty

/-- A specification without the reply. -/
theorem spec_discard {α : Type} {m : Ledger α} {P : α → Database → Prop} {R : Database → Prop}
    (h : Spec m db db (fun a d w => d = w ∧ P a w) (fun _ d => d = db))
    (hchanges : ∀ a w, P a w → R w) :
    Spec (m >>= fun _ => pure ()) db db (fun _ d w => d = w ∧ R w) (fun _ d => d = db) := by
  refine Spec.bind fun faults => ?_
  have hm := h faults
  split at hm
  · next a c heq =>
    obtain ⟨hd, hP⟩ := hm
    exact Spec.pure ⟨hd, hchanges a _ hP⟩
  · exact hm

/-- Every call makes changes that the invariant allows. -/
theorem block_spec (hdb : db.Valid pd py) (now : Fin MAX_MICROS) (call : Call py) :
    Spec (block pd now call) db db (fun _ d w => d = w ∧ Changes pd py db w)
      (fun _ d => d = db) := by
  cases call with
  | claim request => exact spec_discard (claim_spec hdb now request) fun _ _ h => h.changes
  | markRevalidated request =>
    exact spec_discard (markRevalidated_spec hdb now request)
      fun _ _ ⟨_, h⟩ => h.changes .revalidated
  | markDispatching request =>
    exact spec_discard (transition_spec hdb now request .dispatching)
      fun _ _ h => h.changes .dispatching
  | persistDispatchResult request result state =>
    exact spec_discard (persistDispatchResult_spec hdb now request result state)
      fun _ _ h => h.changes hdb
  | beginVerification request resume_interrupted =>
    exact spec_discard (beginVerification_spec hdb now request resume_interrupted)
      fun _ _ h => h.changes
  | persistVerificationResult request result =>
    exact spec_discard (persistVerificationResult_spec hdb now request result)
      fun _ _ h => h.changes
  | reconcileStartup =>
    exact spec_discard (reconcileStartup_spec hdb now) fun _ _ h => h.changes

/-- One call makes changes, and none when it raises. -/
theorem perform_changes (hdb : db.Valid pd py) (i : Invocation py) :
    Changes pd py db (perform pd i db).2 ∧
      ∀ e, (perform pd i db).1 = .error e → (perform pd i db).2 = db := by
  obtain ⟨hok, herror⟩ := Spec.withConnection (block_spec hdb i.now i.call) i.faults
  rcases hrun : withConnection db i.faults (block pd i.now i.call) with ⟨_ | a, after⟩
  · have hsame := herror _ _ hrun
    rw [perform, hrun]
    subst hsame
    exact ⟨.refl, fun _ _ => rfl⟩
  · obtain ⟨d, -, hchanges⟩ := hok _ _ hrun
    rw [perform, hrun]
    exact ⟨hchanges, fun _ h => nomatch h⟩

/-! ## Whole histories -/

theorem empty_valid : Database.empty.Valid pd py where
  stored := fun id row hget => by simp [Database.empty] at hget
  absent := fun _ _ => rfl
  sequence := fun row hrow => by simp [Database.empty] at hrow

/-- Calls on a valid database make changes. -/
theorem changes_foldl (hdb : db.Valid pd py) (calls : List (Invocation py)) :
    Changes pd py db (calls.foldl (fun db i => (perform pd i db).2) db) := by
  induction calls generalizing db with
  | nil => exact .refl
  | cons i calls ih =>
    have hstep := (perform_changes hdb i).1
    exact hstep.trans (ih (valid_of_changes hstep hdb))

theorem history_valid (calls : List (Invocation py)) : (history pd calls).Valid pd py :=
  valid_of_changes (changes_foldl empty_valid calls) empty_valid

theorem history_append (calls later : List (Invocation py)) :
    history pd (calls ++ later) =
      later.foldl (fun db i => (perform pd i db).2) (history pd calls) := by
  simp [history]

/-- The audit invariant of the ledger. After every sequence of calls, whatever their arguments
and whichever statements the database refused, every row reads as an entry of its request and
the recorded transitions of the request are a sequence that ends in the state of that entry; a
request without a row has no transitions. Later calls keep every stored result, and a call
that raises changes nothing. -/
theorem dispatch_ledger_invariant (pd : Pydantic) (calls : List (Invocation py)) :
    (∀ id, match (history pd calls).rows.get id with
      | none => listTransitions py (history pd calls) id = .ok []
      | some row => ∃ e transitions, entry pd py row = .ok e ∧ e.request_id = id ∧
          listTransitions py (history pd calls) id = .ok transitions ∧
          validateLedgerTransitionSequence transitions id e.request_digest e.state = true ∧
          transitions.getLast?.map (·.state) = some e.state) ∧
    (∀ later id row, (history pd calls).rows.get id = some row →
      ∃ row', (history pd (calls ++ later)).rows.get id = some row' ∧
        row'.request_digest = row.request_digest ∧
        (row.dispatch_result_json ≠ none →
          row'.dispatch_result_json = row.dispatch_result_json) ∧
        (row.verification_result_json ≠ none →
          row'.verification_result_json = row.verification_result_json)) ∧
    (∀ (i : Invocation py) e, (perform pd i (history pd calls)).1 = .error e →
      (perform pd i (history pd calls)).2 = history pd calls) := by
  have hdb : (history pd calls).Valid pd py := history_valid calls
  refine ⟨fun id => ?_, fun later id row hget => ?_, fun i => (perform_changes hdb i).2⟩
  · cases hget : (history pd calls).rows.get id with
    | none =>
      have htrail := hdb.absent id hget
      rw [Database.trail] at htrail
      dsimp only
      rw [listTransitions, htrail]
      rfl
    | some row =>
      obtain ⟨hid, e, hvalid, htrail⟩ := hdb.stored id row hget
      obtain ⟨transitions, hreads⟩ := htrail.readsAs
      have hvalidated := hreads.valid
      refine ⟨e, transitions, entry_eq_ok.mpr hvalid.reads, hvalid.reads.request_id.trans hid,
        hreads.read, ?_, ?_⟩
      · rw [hvalid.reads.request_digest]
        exact hvalidated
      · exact hreads.last
  · obtain ⟨row', hget', hkeeps⟩ := keeps_of_changes (changes_foldl hdb later) hget
    exact ⟨row', history_append calls later ▸ hget', hkeeps.request_digest, hkeeps.dispatch,
      hkeeps.verification⟩

end AtlasOS.Core
