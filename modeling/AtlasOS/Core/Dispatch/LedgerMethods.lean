import AtlasOS.Core.Dispatch.LedgerInvariant

/-!
# What the ledger methods do

On a valid database each method has one outcome predicate, which says what its
returned value and the new database are, and one specification: when it returns
the outcome holds, and when it raises nothing has changed. Every outcome is no
change or a change in the sense of the invariant.
-/

namespace AtlasOS.Core

open Sqlite Sqlite.Transaction

variable {pd : Pydantic} {py : Python}

/-! ## Later versions of a row -/

/-- The entry of a new row. -/
def OperationalLedgerEntry.new (request : OperationalDispatchRequest) (now : Fin MAX_MICROS) :
    OperationalLedgerEntry where
  request_id := request.request_id
  request_digest := request.request_digest
  state := .claimed
  request := request
  created_at := .utc now
  updated_at := .utc now
  dispatch_started_at := none
  dispatch_result := none
  verification_result := none

/-- The entry after `_transition`. -/
def OperationalLedgerEntry.advance (e : OperationalLedgerEntry) (target : OperationalLedgerState)
    (set_dispatch_started : Bool) (now : Fin MAX_MICROS) : OperationalLedgerEntry :=
  { e with
    state := target
    dispatch_started_at := if set_dispatch_started then some (.utc now) else e.dispatch_started_at
    updated_at := .utc now }

/-- The entry after `persist_dispatch_result`. -/
def OperationalLedgerEntry.finish (e : OperationalLedgerEntry) (state : OperationalLedgerState)
    (result : OperationalDispatchResult) (now : Fin MAX_MICROS) : OperationalLedgerEntry :=
  { e with state, dispatch_result := some result, updated_at := .utc now }

/-- The entry after `begin_verification`. -/
def OperationalLedgerEntry.beginVerification (e : OperationalLedgerEntry) (now : Fin MAX_MICROS) :
    OperationalLedgerEntry :=
  { e with state := .verifying, updated_at := .utc now }

/-- The entry after `persist_verification_result`. -/
def OperationalLedgerEntry.verify (e : OperationalLedgerEntry) (state : OperationalLedgerState)
    (result : OperationalVerificationResult) (now : Fin MAX_MICROS) : OperationalLedgerEntry :=
  { e with state, verification_result := some result, updated_at := .utc now }

theorem claimedRow_valid (request : Request py) (now : Fin MAX_MICROS) :
    (claimedRow pd request.toOperationalDispatchRequest (nowText py now)).Valid pd py
      (.new request.toOperationalDispatchRequest now) where
  reads := {
    request := pd.validateRequestJson_dump request
    dispatch := rfl
    verification := rfl
    state := rfl
    stored_id := rfl
    stored_digest := rfl
    bound := by simp [OperationalLedgerEntry.new]
    resulted := by simp [OperationalLedgerEntry.new, DISPATCH_RESULT_STATES]
    decided := by simp [OperationalLedgerEntry.new]
    unverified := by simp [OperationalLedgerEntry.new]
    created := readTime_nowText now
    updated := readTime_nowText now
    started := rfl
    request_id := rfl
    request_digest := rfl }
  pending := by simp [OperationalLedgerEntry.new, PRE_RESULT_STATES]
  running := by simp [OperationalLedgerEntry.new]

/-- A row reads after an update of the columns that the methods update. -/
theorem Row.Reads.update {row : Row} {e : OperationalLedgerEntry} (h : row.Reads pd py e)
    {state : OperationalLedgerState} {started : Option String} {started_at : Option DateTime}
    {dispatch_json verification_json : Option String}
    {dispatch : Option OperationalDispatchResult}
    {verification : Option OperationalVerificationResult} (now : Fin MAX_MICROS)
    (hstarted : readColumn (readTime py) started = .ok started_at)
    (hdispatch : readColumn pd.validateDispatchJson dispatch_json = .ok dispatch)
    (hverification : readColumn pd.validateVerificationJson verification_json = .ok verification)
    (hbound : ∀ d ∈ dispatch,
      d.request_id = row.request_id ∧ d.request_digest = row.request_digest)
    (hresulted : state ∈ DISPATCH_RESULT_STATES → dispatch ≠ none)
    (hdecided : state ∈ [OperationalLedgerState.verified, .verificationFailed] →
      verification ≠ none)
    (hunverified : verification ≠ none → state ∈ [OperationalLedgerState.verified,
      .verificationFailed, .targetReplaced, .outcomeUnknown]) :
    Row.Reads pd py
      { row with
        state := state.value, updated_at := nowText py now, dispatch_started_at := started
        dispatch_result_json := dispatch_json, verification_result_json := verification_json }
      { e with
        state, updated_at := .utc now, dispatch_started_at := started_at
        dispatch_result := dispatch, verification_result := verification } where
  request := h.request
  dispatch := hdispatch
  verification := hverification
  state := rfl
  stored_id := h.stored_id
  stored_digest := h.stored_digest
  bound := hbound
  resulted := hresulted
  decided := hdecided
  unverified := hunverified
  created := h.created
  updated := readTime_nowText now
  started := hstarted
  request_id := h.request_id
  request_digest := h.request_digest

/-- Before the result states there is no verification result either. -/
theorem Row.Valid.verification_of_pending {row : Row} {e : OperationalLedgerEntry}
    (h : row.Valid pd py e) (hstate : e.state ∈ PRE_RESULT_STATES) :
    e.verification_result = none := by
  by_contra hne
  have hmem := h.reads.unverified hne
  generalize e.state = state at hstate hmem
  cases state <;> simp [PRE_RESULT_STATES] at hstate hmem

/-- The two transitions before the handler runs. -/
inductive Advance : OperationalLedgerState → OperationalLedgerState → Bool → Prop
  | revalidated : Advance .claimed .revalidated false
  | dispatching : Advance .revalidated .dispatching true

theorem Advance.allowed {expected target : OperationalLedgerState} {started : Bool}
    (h : Advance expected target started) :
    (some expected, target) ∈ ALLOWED_LEDGER_TRANSITIONS := by
  cases h <;> simp [ALLOWED_LEDGER_TRANSITIONS]

theorem Row.Valid.advance {row : Row} {e : OperationalLedgerEntry} (h : row.Valid pd py e)
    {target : OperationalLedgerState} {started : Bool} (hadvance : Advance e.state target started)
    (now : Fin MAX_MICROS) :
    (row.advance target started (nowText py now)).Valid pd py (e.advance target started now) := by
  obtain ⟨hpre, htarget⟩ : e.state ∈ PRE_RESULT_STATES ∧ target ∈ PRE_RESULT_STATES := by
    generalize e.state = state at hadvance
    cases hadvance <;> simp [PRE_RESULT_STATES]
  have hdispatch := h.pending.mpr hpre
  have hverification := h.verification_of_pending hpre
  refine ⟨h.reads.update now ?_ h.reads.dispatch h.reads.verification h.reads.bound ?_ ?_ ?_, ?_, ?_⟩
  · cases started with
    | true => simp [readColumn, Except.map]
    | false => exact h.reads.started
  · intro hmem
    cases target <;> simp [PRE_RESULT_STATES, DISPATCH_RESULT_STATES] at htarget hmem
  · intro hmem
    cases target <;> simp [PRE_RESULT_STATES] at htarget hmem
  · intro hne
    exact absurd hverification hne
  · exact iff_of_true hdispatch htarget
  · generalize e.state = state at hadvance
    cases hadvance with
    | revalidated => simp [OperationalLedgerEntry.advance]
    | dispatching => simp [OperationalLedgerEntry.advance]

/-- Every result state can follow every state before it. -/
theorem finish_allowed : ∀ previous_state ∈ PRE_RESULT_STATES, ∀ state ∈ DISPATCH_RESULT_STATES,
    (some previous_state, state) ∈ ALLOWED_LEDGER_TRANSITIONS := by
  decide

/-- A dispatch result is stored. -/
theorem Row.Valid.finish {row : Row} {e : OperationalLedgerEntry} (h : row.Valid pd py e)
    (hpre : e.state ∈ PRE_RESULT_STATES) {state : OperationalLedgerState}
    (hstate : state ∈ DISPATCH_RESULT_STATES) {encoded : String}
    {result : OperationalDispatchResult} (hread : pd.validateDispatchJson encoded = .ok result)
    (hid : result.request_id = row.request_id) (hdigest : result.request_digest = row.request_digest)
    (now : Fin MAX_MICROS) :
    (row.finish state encoded (nowText py now)).Valid pd py (e.finish state result now) := by
  have hverification := h.verification_of_pending hpre
  refine ⟨h.reads.update now h.reads.started ?_ h.reads.verification ?_ ?_ ?_ ?_, ?_, ?_⟩
  · simp [readColumn, hread, Except.map]
  · rintro d hd
    cases hd
    exact ⟨hid, hdigest⟩
  · simp
  · intro hmem
    generalize state = state at hstate hmem
    cases state <;> simp [DISPATCH_RESULT_STATES] at hstate hmem
  · intro hne
    exact absurd hverification hne
  · refine iff_of_false (by simp [OperationalLedgerEntry.finish]) ?_
    cases state <;>
      simp [DISPATCH_RESULT_STATES, OperationalLedgerEntry.finish, PRE_RESULT_STATES] at hstate ⊢
  · rintro rfl
    simp [DISPATCH_RESULT_STATES] at hstate

/-- A verification begins. -/
theorem Row.Valid.beginVerification {row : Row} {e : OperationalLedgerEntry}
    (h : row.Valid pd py e)
    (hstate : e.state ∈ [OperationalLedgerState.succeeded, .outcomeUnknown])
    (hverification : e.verification_result = none) (now : Fin MAX_MICROS) :
    (row.beginVerification (nowText py now)).Valid pd py (e.beginVerification now) := by
  have hdispatch : e.dispatch_result ≠ none := by
    apply h.reads.resulted
    generalize e.state = state at hstate
    cases state <;> simp [DISPATCH_RESULT_STATES] at hstate ⊢
  refine ⟨h.reads.update now h.reads.started h.reads.dispatch h.reads.verification h.reads.bound
    ?_ ?_ ?_, ?_, ?_⟩
  · exact fun _ => hdispatch
  · simp
  · exact fun hne => absurd hverification hne
  · exact iff_of_false hdispatch (by simp [OperationalLedgerEntry.beginVerification,
      PRE_RESULT_STATES])
  · simp [OperationalLedgerEntry.beginVerification]

/-- A verification result is stored. -/
theorem Row.Valid.verify {row : Row} {e : OperationalLedgerEntry} (h : row.Valid pd py e)
    (hstate : e.state = .verifying) {encoded : String} {result : OperationalVerificationResult}
    (hread : pd.validateVerificationJson encoded = .ok result)
    (status : OperationalVerificationStatus) (now : Fin MAX_MICROS) :
    (row.verify (verifiedState status) encoded (nowText py now)).Valid pd py
      (e.verify (verifiedState status) result now) := by
  have hdispatch : e.dispatch_result ≠ none := by
    rw [Ne, h.pending, hstate]
    simp [PRE_RESULT_STATES]
  refine ⟨h.reads.update now h.reads.started h.reads.dispatch ?_ h.reads.bound ?_ ?_ ?_, ?_, ?_⟩
  · simp [readColumn, hread, Except.map]
  · exact fun _ => hdispatch
  · simp
  · intro _
    cases status <;> simp [verifiedState]
  · refine iff_of_false hdispatch ?_
    cases status <;> simp [verifiedState, OperationalLedgerEntry.verify, PRE_RESULT_STATES]
  · cases status <;> simp [verifiedState, OperationalLedgerEntry.verify]

/-! ## Outcomes -/

/-- The row of a request, with the entry it reads as. -/
structure Stored (pd : Pydantic) (py : Python) (db : Database)
    (request : OperationalDispatchRequest) (row : Row) (e : OperationalLedgerEntry) : Prop where
  found : db.rows.get request.request_id = some row
  same_digest : row.request_digest = request.request_digest
  valid : row.Valid pd py e

/-- The database after a row moved. -/
def Database.moved (py : Python) (db : Database) (request : OperationalDispatchRequest)
    (row : Row) (previous_state : OperationalLedgerState) (state : OperationalLedgerState)
    (now : Fin MAX_MICROS) : Database :=
  (db.setRow request.request_id row).addTransition request (some previous_state) state
    (nowText py now)

section

variable (pd py) (now : Fin MAX_MICROS) (request : OperationalDispatchRequest) (db : Database)

/-- The outcome of `claim`. -/
inductive Claimed : OperationalLedgerEntry → Database → Prop
  | inserted (absent : db.rows.get request.request_id = none)
      (valid : (claimedRow pd request (nowText py now)).Valid pd py (.new request now)) :
      Claimed (.new request now)
        ((db.setRow request.request_id (claimedRow pd request (nowText py now))).addTransition
          request none .claimed (nowText py now))
  | found {row : Row} {e : OperationalLedgerEntry} (stored : Stored pd py db request row e) :
      Claimed e db

/-- The outcome of `_transition`. -/
inductive Advanced (expected target : OperationalLedgerState) (started : Bool) :
    OperationalLedgerEntry × Bool → Database → Prop
  | moved {row : Row} {e : OperationalLedgerEntry} (stored : Stored pd py db request row e)
      (state : e.state = expected) :
      Advanced expected target started (e.advance target started now, true)
        (db.moved py request (row.advance target started (nowText py now)) e.state target now)
  | kept {row : Row} {e : OperationalLedgerEntry} (stored : Stored pd py db request row e)
      (state : e.state ≠ expected) : Advanced expected target started (e, false) db

/-- The outcome of `persist_dispatch_result`. -/
inductive Persisted (result : OperationalDispatchResult) (state : OperationalLedgerState) :
    OperationalLedgerEntry → Database → Prop
  | replayed {row : Row} {e : OperationalLedgerEntry} {existing : OperationalDispatchResult}
      (stored : Stored pd py db request row e) (held : e.dispatch_result = some existing)
      (same : existing.same result = true) : Persisted result state e db
  | stored {row : Row} {e : OperationalLedgerEntry} {read : OperationalDispatchResult}
      (stored : Stored pd py db request row e) (pending : e.state ∈ PRE_RESULT_STATES)
      (allowed : state ∈ DISPATCH_RESULT_STATES)
      (loaded : pd.validateDispatchJson (pd.dumpDispatch result) = .ok read)
      (alike : read.Alike result) (same_id : result.request_id = request.request_id)
      (same_digest : result.request_digest = request.request_digest) :
      Persisted result state (e.finish state read now)
        (db.moved py request (row.finish state (pd.dumpDispatch result) (nowText py now)) e.state
          state now)

/-- The outcome of `begin_verification`. -/
inductive Began (resume_interrupted : Bool) : OperationalLedgerEntry × Bool → Database → Prop
  | moved {row : Row} {e : OperationalLedgerEntry} (stored : Stored pd py db request row e)
      (unverified : e.verification_result = none)
      (state : e.state ∈ [OperationalLedgerState.succeeded, .outcomeUnknown]) :
      Began resume_interrupted (e.beginVerification now, true)
        (db.moved py request (row.beginVerification (nowText py now)) e.state .verifying now)
  | kept {row : Row} {e : OperationalLedgerEntry} (stored : Stored pd py db request row e)
      (owner : Bool)
      (state : owner = true →
        e.verification_result = none ∧ e.state = .verifying ∧ resume_interrupted = true) :
      Began resume_interrupted (e, owner) db

/-- The outcome of `persist_verification_result`. -/
inductive Verified (result : OperationalVerificationResult) :
    OperationalLedgerEntry → Database → Prop
  | replayed {row : Row} {e : OperationalLedgerEntry} {existing : OperationalVerificationResult}
      (stored : Stored pd py db request row e) (held : e.verification_result = some existing)
      (same : existing.same result = true) : Verified result e db
  | stored {row : Row} {e : OperationalLedgerEntry} {read : OperationalVerificationResult}
      (stored : Stored pd py db request row e) (state : e.state = .verifying)
      (unverified : e.verification_result = none)
      (loaded : pd.validateVerificationJson (pd.dumpVerification result) = .ok read)
      (alike : read.Alike result) (same_id : result.request_id = request.request_id) :
      Verified result (e.verify (verifiedState result.status) read now)
        (db.moved py request
          (row.verify (verifiedState result.status) (pd.dumpVerification result) (nowText py now))
          e.state (verifiedState result.status) now)

end

/-- The outcome of the loop of `reconcile_startup`. -/
inductive Interrupted (pd : Pydantic) (py : Python) (now : Fin MAX_MICROS) :
    List Row → Database → Database → Prop
  | nil {db : Database} : Interrupted pd py now [] db db
  | cons {db db' : Database} {row : Row} {rows : List Row} {e : OperationalLedgerEntry}
      {started_at : DateTime} {read : OperationalDispatchResult}
      (stored : Stored pd py db e.request row e) (state : e.state = .dispatching)
      (loaded : pd.validateDispatchJson
        (pd.dumpDispatch (interruptedResult now row e.request started_at)) = .ok read)
      (alike : read.Alike (interruptedResult now row e.request started_at))
      (rest : Interrupted pd py now rows
        (db.moved py e.request
          (row.finish .outcomeUnknown
            (pd.dumpDispatch (interruptedResult now row e.request started_at)) (nowText py now))
          e.state .outcomeUnknown now) db') :
      Interrupted pd py now (row :: rows) db db'

/-! ## Specifications -/

section Specifications

variable {committed working db : Database} {E : LedgerError → Database → Prop}

theorem spec_checked {α : Type} {result : Except PyError α} {Q : α → Database → Database → Prop}
    (hok : ∀ a, result = .ok a → Q a committed working) (herror : ∀ e, E e committed) :
    Spec (checked result) committed working Q E := by
  cases result with
  | ok a => exact Spec.lift (fun b hb => by cases hb; exact hok a rfl) (by simp [Except.mapError])
  | error e => exact Spec.lift (by simp [Except.mapError]) fun b _ => herror b

theorem spec_rowFor {id : String} {Q : Row → Database → Database → Prop}
    (herror : ∀ e, E e committed)
    (hrow : ∀ row, working.rows.get id = some row → Q row committed working) :
    Spec (rowFor id) committed working Q E := by
  refine Spec.bind (Spec.select (herror _) ?_)
  split
  · exact Spec.throw (herror _)
  · next row h => exact Spec.pure (hrow row h)

theorem spec_checkDigest {row : Row} {request : OperationalDispatchRequest}
    {Q : Unit → Database → Database → Prop} (herror : ∀ e, E e committed)
    (hok : row.request_digest = request.request_digest → Q () committed working) :
    Spec (checkDigest row request) committed working Q E := by
  rw [checkDigest]
  split
  · exact Spec.throw (herror _)
  · next h => exact Spec.pure (hok (not_not.mp h))

/-- Reading a valid row cannot fail. -/
theorem spec_entry {row : Row} {e : OperationalLedgerEntry}
    {Q : OperationalLedgerEntry → Database → Database → Prop} (hrow : row.Valid pd py e)
    (hok : Q e committed working) :
    Spec (Transaction.lift (entry pd py row)) committed working Q E := by
  rw [entry_eq_ok.mpr hrow.reads]
  exact Spec.lift (fun e he => by cases he; exact hok) (by simp)

theorem spec_recordTransition {request : OperationalDispatchRequest}
    {previous_state : Option OperationalLedgerState} {state : OperationalLedgerState}
    {occurred_at : String} {Q : Unit → Database → Database → Prop}
    (hallowed : (previous_state, state) ∈ ALLOWED_LEDGER_TRANSITIONS)
    (herror : ∀ e, E e committed)
    (hok : Q () committed (working.addTransition request previous_state state occurred_at)) :
    Spec (recordTransition request previous_state state occurred_at) committed working Q E := by
  rw [recordTransition, if_neg (not_not.mpr hallowed)]
  exact Spec.write (herror _) hok

/-- The row and entry of a request, when the methods find one with its digest. -/
theorem Database.Valid.get {id : String} {row : Row} (hdb : db.Valid pd py)
    (hget : db.rows.get id = some row) : ∃ e, row.Valid pd py e :=
  let ⟨_, e, hvalid, _⟩ := hdb.stored id row hget
  ⟨e, hvalid⟩

theorem claim_spec (hdb : db.Valid pd py) (now : Fin MAX_MICROS) (request : Request py) :
    Spec (claim pd py now request.toOperationalDispatchRequest) db db
      (fun e d w => d = w ∧ Claimed pd py now request.toOperationalDispatchRequest db e w)
      (fun _ d => d = db) := by
  refine Spec.bind (spec_checked (fun validated hvalidated => ?_) fun _ => rfl)
  obtain rfl : request.toOperationalDispatchRequest = validated :=
    Except.ok.inj (request.valid.symm.trans hvalidated)
  refine Spec.bind (Spec.beginImmediate rfl (Spec.bind (Spec.select rfl ?_)))
  cases hget : db.rows.get request.request_id with
  | none =>
    refine Spec.bind (Spec.write rfl (Spec.bind ?_))
    refine spec_recordTransition (by simp [ALLOWED_LEDGER_TRANSITIONS]) (fun _ => rfl) ?_
    refine Spec.bind (spec_rowFor (fun _ => rfl) fun row hrow => ?_)
    obtain rfl : claimedRow pd request.toOperationalDispatchRequest (nowText py now) = row := by
      simpa [Database.addTransition, Database.setRow] using hrow
    refine Spec.bind (Spec.commit rfl ?_)
    exact spec_entry (claimedRow_valid request now) ⟨rfl, .inserted hget (claimedRow_valid request now)⟩
  | some row =>
    obtain ⟨e, hvalid⟩ := hdb.get hget
    dsimp only
    split
    · exact Spec.bind (Spec.rollback (Spec.throw rfl))
    · next hdigest =>
      refine Spec.bind (Spec.commit rfl ?_)
      exact spec_entry hvalid ⟨rfl, .found ⟨hget, not_not.mp hdigest, hvalid⟩⟩

theorem transition_spec (hdb : db.Valid pd py) (now : Fin MAX_MICROS)
    (request : OperationalDispatchRequest) {expected target : OperationalLedgerState}
    {started : Bool} (hadvance : Advance expected target started) :
    Spec (transition pd py now request expected target started) db db
      (fun r d w => d = w ∧ Advanced pd py now request db expected target started r w)
      (fun _ d => d = db) := by
  refine Spec.bind (Spec.beginImmediate rfl (Spec.bind (spec_rowFor (fun _ => rfl) ?_)))
  intro row hget
  obtain ⟨e, hvalid⟩ := hdb.get hget
  refine Spec.bind (spec_checkDigest (fun _ => rfl) fun hdigest => ?_)
  refine Spec.bind (spec_checked (fun state hstate => ?_) fun _ => rfl)
  obtain rfl : e.state = state := by
    rw [hvalid.reads.state, read_value, Except.ok.injEq] at hstate
    exact hstate
  split
  · next hexpected =>
    subst hexpected
    have hchanges : changesIn request.request_id e.state db = 1 := by
      simp [changesIn, hget, hvalid.reads.state]
    have hupdate (update : Row → Row) :
        updateIn request.request_id e.state update db = db.setRow request.request_id (update row) := by
      simp [updateIn, hget, hvalid.reads.state]
    refine Spec.bind (Spec.select rfl (Spec.bind (Spec.write rfl ?_)))
    rw [hchanges, hupdate]
    refine Spec.bind (spec_recordTransition hadvance.allowed (fun _ => rfl) ?_)
    refine Spec.bind (spec_rowFor (fun _ => rfl) fun row' hrow' => ?_)
    obtain rfl : row.advance target started (nowText py now) = row' := by
      simpa [Database.addTransition, Database.setRow] using hrow'
    refine Spec.bind (Spec.commit rfl (Spec.bind (spec_entry (hvalid.advance hadvance now) ?_)))
    exact Spec.pure ⟨rfl, .moved ⟨hget, hdigest, hvalid⟩ rfl⟩
  · next hexpected =>
    refine Spec.bind (Spec.commit rfl (Spec.bind (spec_entry hvalid ?_)))
    exact Spec.pure ⟨rfl, .kept ⟨hget, hdigest, hvalid⟩ hexpected⟩

theorem markRevalidated_spec (hdb : db.Valid pd py) (now : Fin MAX_MICROS)
    (request : OperationalDispatchRequest) :
    Spec (markRevalidated pd py now request) db db
      (fun e d w => d = w ∧ ∃ owner,
        Advanced pd py now request db .claimed .revalidated false (e, owner) w)
      (fun _ d => d = db) := by
  refine Spec.bind fun faults => ?_
  have hm := transition_spec hdb now request .revalidated faults
  split at hm
  · next r c heq =>
    obtain ⟨hd, hadvanced⟩ := hm
    exact Spec.pure ⟨hd, r.2, hadvanced⟩
  · exact hm

theorem updateRow_of_get {id : String} {update : Row → Row} {row : Row}
    (hget : db.rows.get id = some row) : updateRow id update db = db.setRow id (update row) := by
  simp [updateRow, hget]

theorem persistDispatchResult_spec (hdb : db.Valid pd py) (now : Fin MAX_MICROS)
    (request : OperationalDispatchRequest) (result : DispatchResult)
    (state : OperationalLedgerState) :
    Spec (persistDispatchResult pd py now request result.toOperationalDispatchResult state) db db
      (fun e d w => d = w ∧
        Persisted pd py now request db result.toOperationalDispatchResult state e w)
      (fun _ d => d = db) := by
  refine Spec.bind (spec_checked (fun _ hallowed => ?_) fun _ => rfl)
  refine Spec.bind (spec_checked (fun _ hsame => ?_) fun _ => rfl)
  rw [require_eq_ok, decide_eq_true_eq] at hallowed
  rw [require_eq_ok, Bool.and_eq_true, decide_eq_true_eq, decide_eq_true_eq] at hsame
  refine Spec.bind (Spec.beginImmediate rfl (Spec.bind (spec_rowFor (fun _ => rfl) ?_)))
  intro row hget
  obtain ⟨hid, e, hvalid, -⟩ := hdb.stored _ row hget
  refine Spec.bind (spec_checkDigest (fun _ => rfl) fun hdigest => ?_)
  split
  · refine Spec.bind (spec_entry hvalid ?_)
    split
    · next hreplay =>
      obtain ⟨existing, hheld, hsame⟩ := Option.any_eq_true _ _ |>.mp hreplay
      exact Spec.bind (Spec.commit rfl
        (Spec.pure ⟨rfl, .replayed ⟨hget, hdigest, hvalid⟩ hheld hsame⟩))
    · exact Spec.bind (Spec.rollback (Spec.throw rfl))
  · refine Spec.bind (spec_checked (fun previous hprevious => ?_) fun _ => rfl)
    obtain rfl : e.state = previous := by
      rw [hvalid.reads.state, read_value, Except.ok.injEq] at hprevious
      exact hprevious
    split
    · exact Spec.bind (Spec.rollback (Spec.throw rfl))
    · next hpre =>
      have hpre : e.state ∈ PRE_RESULT_STATES := not_not.mp hpre
      obtain ⟨read, hload, halike⟩ := pd.validateDispatchJson_dump result
      have hnext := hvalid.finish hpre hallowed hload
        (halike.request_id.trans (hsame.1.trans hid.symm))
        (halike.request_digest.trans (hsame.2.trans hdigest.symm)) now
      have hmove := finish_allowed _ hpre _ hallowed
      refine Spec.bind (Spec.write rfl ?_)
      rw [updateRow_of_get hget]
      refine Spec.bind (spec_recordTransition hmove (fun _ => rfl) ?_)
      refine Spec.bind (spec_rowFor (fun _ => rfl) fun row' hrow' => ?_)
      obtain rfl : row.finish state (pd.dumpDispatch result.toOperationalDispatchResult)
          (nowText py now) = row' := by
        simpa [Database.addTransition, Database.setRow] using hrow'
      refine Spec.bind (Spec.commit rfl (spec_entry hnext ?_))
      exact ⟨rfl, .stored ⟨hget, hdigest, hvalid⟩ hpre hallowed hload halike hsame.1 hsame.2⟩

theorem beginVerification_spec (hdb : db.Valid pd py) (now : Fin MAX_MICROS)
    (request : OperationalDispatchRequest) (resume_interrupted : Bool) :
    Spec (beginVerification pd py now request resume_interrupted) db db
      (fun r d w => d = w ∧ Began pd py now request db resume_interrupted r w)
      (fun _ d => d = db) := by
  refine Spec.bind (Spec.beginImmediate rfl (Spec.bind (spec_rowFor (fun _ => rfl) ?_)))
  intro row hget
  obtain ⟨e, hvalid⟩ := hdb.get hget
  refine Spec.bind (spec_checkDigest (fun _ => rfl) fun hdigest => ?_)
  refine Spec.bind (spec_checked (fun state hstate => ?_) fun _ => rfl)
  obtain rfl : e.state = state := by
    rw [hvalid.reads.state, read_value, Except.ok.injEq] at hstate
    exact hstate
  split
  · refine Spec.bind (Spec.commit rfl (Spec.bind (spec_entry hvalid ?_)))
    exact Spec.pure ⟨rfl, .kept ⟨hget, hdigest, hvalid⟩ false (by simp)⟩
  · next hunverified =>
    have hverification : e.verification_result = none :=
      (readColumn_eq_none hvalid.reads.verification).mpr (not_not.mp hunverified)
    split
    · next hmem =>
      have hmove : (some e.state, .verifying) ∈ ALLOWED_LEDGER_TRANSITIONS := by
        generalize e.state = state at hmem
        cases state <;> simp [ALLOWED_LEDGER_TRANSITIONS] at hmem ⊢
      have hnext := hvalid.beginVerification hmem hverification now
      refine Spec.bind (Spec.write rfl ?_)
      rw [updateRow_of_get hget]
      refine Spec.bind (spec_recordTransition hmove (fun _ => rfl) ?_)
      refine Spec.bind (spec_rowFor (fun _ => rfl) fun row' hrow' => ?_)
      obtain rfl : row.beginVerification (nowText py now) = row' := by
        simpa [Database.addTransition, Database.setRow] using hrow'
      refine Spec.bind (Spec.commit rfl (Spec.bind (spec_entry hnext ?_)))
      exact Spec.pure ⟨rfl, .moved ⟨hget, hdigest, hvalid⟩ hverification hmem⟩
    · refine Spec.bind (Spec.commit rfl (Spec.bind (spec_entry hvalid ?_)))
      refine Spec.pure ⟨rfl, .kept ⟨hget, hdigest, hvalid⟩ _ fun howner => ?_⟩
      rw [Bool.and_eq_true, decide_eq_true_eq] at howner
      exact ⟨hverification, howner.1, howner.2⟩

theorem persistVerificationResult_spec (hdb : db.Valid pd py) (now : Fin MAX_MICROS)
    (request : OperationalDispatchRequest) (result : VerificationResult) :
    Spec (persistVerificationResult pd py now request result.toOperationalVerificationResult) db db
      (fun e d w => d = w ∧
        Verified pd py now request db result.toOperationalVerificationResult e w)
      (fun _ d => d = db) := by
  refine Spec.bind (spec_checked (fun _ hrequired => ?_) fun _ => rfl)
  have hsame_id : result.request_id = request.request_id :=
    of_decide_eq_true (require_eq_ok.mp hrequired)
  refine Spec.bind (Spec.beginImmediate rfl (Spec.bind (spec_rowFor (fun _ => rfl) ?_)))
  intro row hget
  obtain ⟨e, hvalid⟩ := hdb.get hget
  refine Spec.bind (spec_checkDigest (fun _ => rfl) fun hdigest => ?_)
  split
  · refine Spec.bind (spec_entry hvalid ?_)
    split
    · next hreplay =>
      obtain ⟨existing, hheld, hsame⟩ := Option.any_eq_true _ _ |>.mp hreplay
      exact Spec.bind (Spec.commit rfl
        (Spec.pure ⟨rfl, .replayed ⟨hget, hdigest, hvalid⟩ hheld hsame⟩))
    · exact Spec.bind (Spec.rollback (Spec.throw rfl))
  · next hunverified =>
    have hverification : e.verification_result = none :=
      (readColumn_eq_none hvalid.reads.verification).mpr (not_not.mp hunverified)
    refine Spec.bind (spec_checked (fun state hstate => ?_) fun _ => rfl)
    obtain rfl : e.state = state := by
      rw [hvalid.reads.state, read_value, Except.ok.injEq] at hstate
      exact hstate
    split
    · exact Spec.bind (Spec.rollback (Spec.throw rfl))
    · next hverifying =>
      have hverifying : e.state = .verifying := not_not.mp hverifying
      obtain ⟨read, hload, halike⟩ := pd.validateVerificationJson_dump result
      have hmove : (some .verifying, verifiedState result.status) ∈ ALLOWED_LEDGER_TRANSITIONS := by
        cases result.status <;> simp [verifiedState, ALLOWED_LEDGER_TRANSITIONS]
      have hnext := hvalid.verify hverifying hload result.status now
      have hmoved : Verified pd py now request db result.toOperationalVerificationResult
          (e.verify (verifiedState result.status) read now)
          (db.moved py request (row.verify (verifiedState result.status)
            (pd.dumpVerification result.toOperationalVerificationResult) (nowText py now))
            e.state (verifiedState result.status) now) :=
        .stored ⟨hget, hdigest, hvalid⟩ hverifying hverification hload halike hsame_id
      rw [Database.moved, hverifying] at hmoved
      refine Spec.bind (Spec.write rfl ?_)
      rw [updateRow_of_get hget]
      refine Spec.bind (spec_recordTransition hmove (fun _ => rfl) ?_)
      refine Spec.bind (spec_rowFor (fun _ => rfl) fun row' hrow' => ?_)
      obtain rfl : row.verify (verifiedState result.status)
          (pd.dumpVerification result.toOperationalVerificationResult) (nowText py now) = row' := by
        simpa [Database.addTransition, Database.setRow] using hrow'
      exact Spec.bind (Spec.commit rfl (spec_entry hnext ⟨rfl, hmoved⟩))

theorem readColumn_started {row : Row} {e : OperationalLedgerEntry} (h : row.Valid pd py e)
    (hstate : e.state = .dispatching) : row.dispatch_started_at ≠ none := by
  intro hnone
  exact h.running hstate ((readColumn_eq_none h.reads.started).mpr hnone)

/-- The loop of `reconcile_startup` ends the dispatches of its rows. -/
theorem spec_reconcileRows (now : Fin MAX_MICROS) (rows : List Row)
    {Q : Unit → Database → Database → Prop}
    (hrows : ∀ row ∈ rows, working.rows.get row.request_id = some row ∧
      ∃ e, row.Valid pd py e ∧ e.state = .dispatching)
    (hnodup : (rows.map (·.request_id)).Nodup) (herror : ∀ e, E e committed)
    (hok : ∀ w, Interrupted pd py now rows working w → Q () committed w) :
    Spec (reconcileRows pd py now rows) committed working Q E := by
  induction rows generalizing working with
  | nil => exact Spec.pure (hok working .nil)
  | cons row rows ih =>
    obtain ⟨hget, e, hvalid, hstate⟩ := hrows row (by simp)
    rw [List.map_cons, List.nodup_cons] at hnodup
    refine Spec.bind (spec_checked (fun request hrequest => ?_) herror)
    obtain rfl : e.request = request := Except.ok.inj (hvalid.reads.request.symm.trans hrequest)
    refine Spec.bind (spec_checked (fun started hstarted => ?_) herror)
    refine Spec.bind (spec_checked (fun started_at hread => ?_) herror)
    refine Spec.bind (spec_checked (fun _ hresult => ?_) herror)
    obtain ⟨read, hload, halike⟩ := pd.validateDispatchJson_dump
      ⟨interruptedResult now row e.request started_at, hresult⟩
    have hupdate (update : Row → Row) : updateIn row.request_id .dispatching update working =
        working.setRow row.request_id (update row) := by
      simp [updateIn, hget, hvalid.reads.state, hstate]
    refine Spec.bind (Spec.write (herror _) ?_)
    rw [hupdate, ← hvalid.reads.stored_id]
    refine Spec.bind (spec_recordTransition (by simp [ALLOWED_LEDGER_TRANSITIONS]) herror ?_)
    refine ih (fun other hother => ?_) hnodup.2 fun w hw => hok w ?_
    · obtain ⟨hgetOther, hvalidOther⟩ := hrows other (by simp [hother])
      refine ⟨?_, hvalidOther⟩
      rw [get_rows_change, if_neg, hgetOther]
      rw [hvalid.reads.stored_id]
      exact fun hsame => hnodup.1 (hsame ▸ List.mem_map_of_mem hother)
    · refine .cons ⟨?_, hvalid.reads.stored_digest.symm, hvalid⟩ hstate hload halike ?_
      · rwa [hvalid.reads.stored_id]
      · rw [Database.moved, hstate]
        exact hw

/-- The rows in a state are the valid ones whose entry is in it. -/
theorem mem_rowsIn (hdb : db.Valid pd py) {states : List OperationalLedgerState} {row : Row} :
    row ∈ db.rowsIn states ↔
      db.rows.get row.request_id = some row ∧ ∃ e, row.Valid pd py e ∧ e.state ∈ states := by
  simp only [Database.rowsIn, List.mem_filter, List.mem_map, Prod.exists, decide_eq_true_eq]
  constructor
  · rintro ⟨⟨id, stored, hmem, rfl⟩, state, hstate, hvalue⟩
    have hget := Dict.mem_items.mp hmem
    obtain ⟨hid, e, hvalid, -⟩ := hdb.stored id stored hget
    refine ⟨hid ▸ hget, e, hvalid, ?_⟩
    rw [hvalid.reads.state] at hvalue
    exact StrEnum.value_injective hvalue ▸ hstate
  · rintro ⟨hget, e, hvalid, hstate⟩
    exact ⟨⟨row.request_id, row, Dict.mem_items.mpr hget, rfl⟩, e.state, hstate,
      hvalid.reads.state.symm⟩

theorem nodup_rowsIn (hdb : db.Valid pd py) (states : List OperationalLedgerState) :
    ((db.rowsIn states).map (·.request_id)).Nodup := by
  have hkeys : db.rows.items.map (·.2.request_id) = db.rows.items.map Prod.fst :=
    List.map_congr_left fun entry hentry => (hdb.stored _ _ (Dict.mem_items.mp hentry)).1
  have hnodup := db.rows.nodup_keys_items
  rw [← hkeys] at hnodup
  have hsplit : db.rows.items.map (·.2.request_id) =
      (db.rows.items.map Prod.snd).map (·.request_id) := List.map_map.symm
  rw [hsplit] at hnodup
  exact hnodup.sublist (List.filter_sublist.map _)

theorem reconcileStartup_spec (hdb : db.Valid pd py) (now : Fin MAX_MICROS) :
    Spec (reconcileStartup pd py now) db db
      (fun _ d w => d = w ∧ Interrupted pd py now (db.rowsIn [.dispatching]) db w)
      (fun _ d => d = db) := by
  refine Spec.bind (Spec.beginImmediate rfl (Spec.bind (Spec.select rfl ?_)))
  refine Spec.bind (spec_reconcileRows now _ (fun row hrow => ?_) (nodup_rowsIn hdb _)
    (fun _ => rfl) fun w hw => ?_)
  · obtain ⟨hget, e, hvalid, hstate⟩ := (mem_rowsIn hdb).mp hrow
    exact ⟨hget, e, hvalid, List.mem_singleton.mp hstate⟩
  · refine Spec.bind (Spec.select rfl (Spec.bind (Spec.select rfl ?_)))
    exact Spec.bind (Spec.commit rfl (Spec.pure ⟨rfl, hw⟩))

end Specifications

/-! ## Methods that return

Without a database failure a method that finds what it needs returns.
-/

section Returns

variable {db : Database} {request : OperationalDispatchRequest} {row : Row}
  {e : OperationalLedgerEntry} {now : Fin MAX_MICROS}

/-- `claim` of a request that the ledger does not have. -/
theorem claim_new (request : Request py) (h : db.rows.get request.request_id = none) :
    ∃ db', withConnection db [] (claim pd py now request.toOperationalDispatchRequest) =
        (.ok (.new request.toOperationalDispatchRequest now), db') ∧
      Stored pd py db' request.toOperationalDispatchRequest
        (claimedRow pd request.toOperationalDispatchRequest (nowText py now))
        (.new request.toOperationalDispatchRequest now) := by
  have hvalid := @claimedRow_valid pd py request now
  have hentry := entry_eq_ok.mpr hvalid.reads
  have hchecked : checked (request.toOperationalDispatchRequest.modelValidate py) =
      (pure request.toOperationalDispatchRequest : Ledger OperationalDispatchRequest) := by
    rw [request.valid]
    rfl
  have hallowed : ((none : Option OperationalLedgerState), OperationalLedgerState.claimed) ∈
      ALLOWED_LEDGER_TRANSITIONS := by
    simp [ALLOWED_LEDGER_TRANSITIONS]
  refine ⟨(db.setRow request.request_id (claimedRow pd request.toOperationalDispatchRequest
    (nowText py now))).addTransition request.toOperationalDispatchRequest none .claimed
    (nowText py now), ?_, get_rows_change.trans (if_pos rfl), rfl, hvalid⟩
  rw [withConnection, claim, hchecked]
  simp [bind_apply, h, recordTransition, hallowed, rowFor, Database.addTransition,
    Database.setRow, hentry, Transaction.lift]

/-- `claim` of a request that the ledger has. -/
theorem claim_found (request : Request py)
    (h : Stored pd py db request.toOperationalDispatchRequest row e) :
    withConnection db [] (claim pd py now request.toOperationalDispatchRequest) = (.ok e, db) := by
  have hentry := entry_eq_ok.mpr h.valid.reads
  have hchecked : checked (request.toOperationalDispatchRequest.modelValidate py) =
      (pure request.toOperationalDispatchRequest : Ledger OperationalDispatchRequest) := by
    rw [request.valid]
    rfl
  rw [withConnection, claim, hchecked]
  simp [bind_apply, h.found, h.same_digest, hentry, Transaction.lift]

/-- A row that moved is stored in its new version. -/
theorem Stored.moved (h : Stored pd py db request row e) {row' : Row} {e' : OperationalLedgerEntry}
    (hvalid : row'.Valid pd py e') (hdigest : row'.request_digest = row.request_digest)
    (previous_state state : OperationalLedgerState) (now : Fin MAX_MICROS) :
    Stored pd py (db.moved py request row' previous_state state now) request row' e' where
  found := by rw [Database.moved, get_rows_change, if_pos rfl]
  same_digest := hdigest.trans h.same_digest
  valid := hvalid

/-- `_transition` of a row in the expected state. -/
theorem transition_moved {expected target : OperationalLedgerState} {started : Bool}
    (hadvance : Advance expected target started) (h : Stored pd py db request row e)
    (hstate : e.state = expected) :
    ∃ db', withConnection db [] (transition pd py now request expected target started) =
        (.ok (e.advance target started now, true), db') ∧
      Stored pd py db' request (row.advance target started (nowText py now))
        (e.advance target started now) := by
  subst hstate
  have hvalid := h.valid.advance hadvance now
  have hentry := entry_eq_ok.mpr hvalid.reads
  have hallowed := hadvance.allowed
  refine ⟨_, ?_, h.moved hvalid rfl e.state target now⟩
  rw [withConnection, transition]
  simp [bind_apply, h.found, rowFor, checkDigest, h.same_digest, checked, h.valid.reads.state,
    Transaction.lift, Except.mapError, changesIn, updateIn, recordTransition, hallowed,
    Database.addTransition, Database.setRow, hentry, Database.moved]

/-- `mark_revalidated` of a claimed row. -/
theorem markRevalidated_moved (h : Stored pd py db request row e) (hstate : e.state = .claimed) :
    ∃ db', withConnection db [] (markRevalidated pd py now request) =
        (.ok (e.advance .revalidated false now), db') ∧
      Stored pd py db' request (row.advance .revalidated false (nowText py now))
        (e.advance .revalidated false now) := by
  obtain ⟨db', hmoved, hstored⟩ := @transition_moved pd py db _ row e now _ _ _ .revalidated h hstate
  refine ⟨db', ?_, hstored⟩
  rw [withConnection] at hmoved ⊢
  rw [markRevalidated, bind_apply]
  revert hmoved
  rcases transition pd py now request .claimed .revalidated false ⟨db, db, []⟩ with
    ⟨_ | ⟨entry, owner⟩, c⟩
  · simp
  · intro hmoved
    simp only [Prod.mk.injEq, Except.ok.injEq] at hmoved
    obtain ⟨⟨rfl, -⟩, rfl⟩ := hmoved
    rfl

/-- `persist_dispatch_result` of a row without a result. -/
theorem persistDispatchResult_stored {result read : OperationalDispatchResult}
    {state : OperationalLedgerState} (h : Stored pd py db request row e)
    (hrow : row.request_id = request.request_id) (hpending : e.state ∈ PRE_RESULT_STATES)
    (hstate : state ∈ DISPATCH_RESULT_STATES)
    (hloaded : pd.validateDispatchJson (pd.dumpDispatch result) = .ok read)
    (halike : read.Alike result) (hid : result.request_id = request.request_id)
    (hdigest : result.request_digest = request.request_digest) :
    ∃ db', withConnection db [] (persistDispatchResult pd py now request result state) =
        (.ok (e.finish state read now), db') ∧
      Stored pd py db' request (row.finish state (pd.dumpDispatch result) (nowText py now))
        (e.finish state read now) := by
  have hvalid := h.valid.finish hpending hstate hloaded
    (halike.request_id.trans (hid.trans hrow.symm))
    (halike.request_digest.trans (hdigest.trans h.same_digest.symm)) now
  have hentry := entry_eq_ok.mpr hvalid.reads
  have hallowed := finish_allowed _ hpending _ hstate
  have hnone := (readColumn_eq_none h.valid.reads.dispatch).mp (h.valid.pending.mpr hpending)
  refine ⟨_, ?_, h.moved hvalid rfl e.state state now⟩
  rw [withConnection, persistDispatchResult]
  simp [bind_apply, h.found, rowFor, checkDigest, h.same_digest, checked, h.valid.reads.state,
    Transaction.lift, Except.mapError, updateRow, recordTransition, hallowed,
    Database.addTransition, Database.setRow, hentry, Database.moved, hstate, hid, hdigest, require,
    hnone, hpending]

end Returns

end AtlasOS.Core
