import AtlasOS.Core.Dispatch.Models
import AtlasOS.Lib.Sqlite

/-!
# The operational dispatch ledger

`OperationalDispatchLedger` keeps one row for each request and a list of the
transitions that the rows made. The methods are translated statement by
statement from `operational_dispatch/ledger.py`; every statement may raise a
database error. The audit events of `operational_dispatch_events`, which no
method reads back into a decision, are left out.
-/

namespace AtlasOS.Core

open Sqlite Sqlite.Transaction

/-- `OperationalLedgerState` -/
inductive OperationalLedgerState where
  | claimed | revalidated | dispatching | succeeded | failed | outcomeUnknown | verifying
  | verified | verificationFailed | targetReplaced
  deriving DecidableEq

instance : StrEnum OperationalLedgerState where
  value
    | .claimed => "claimed"
    | .revalidated => "revalidated"
    | .dispatching => "dispatching"
    | .succeeded => "succeeded"
    | .failed => "failed"
    | .outcomeUnknown => "outcome_unknown"
    | .verifying => "verifying"
    | .verified => "verified"
    | .verificationFailed => "verification_failed"
    | .targetReplaced => "target_replaced"
  members := [.claimed, .revalidated, .dispatching, .succeeded, .failed, .outcomeUnknown,
    .verifying, .verified, .verificationFailed, .targetReplaced]
  find_value s := by cases s <;> simp

namespace OperationalLedgerState

/-- The stored text of a state. -/
abbrev value (s : OperationalLedgerState) : String := StrEnum.value s

/-- The state with a given text. -/
abbrev ofValue? (text : String) : Option OperationalLedgerState := StrEnum.ofValue? text

/-- `OperationalLedgerState(text)` -/
def read (text : String) : Except PyError OperationalLedgerState :=
  expect (ofValue? text) (.valueError ("'" ++ text ++ "' is not a valid OperationalLedgerState"))

end OperationalLedgerState

/-- `DISPATCH_RESULT_STATES` -/
def DISPATCH_RESULT_STATES : List OperationalLedgerState :=
  [.succeeded, .failed, .outcomeUnknown, .targetReplaced]

/-- `FINAL_STATES` -/
def FINAL_STATES : List OperationalLedgerState := [.verified, .verificationFailed, .targetReplaced]

/-- `ALLOWED_LEDGER_TRANSITIONS` -/
def ALLOWED_LEDGER_TRANSITIONS : List (Option OperationalLedgerState × OperationalLedgerState) :=
  [(none, .claimed),
    (some .claimed, .revalidated),
    (some .revalidated, .dispatching),
    (some .claimed, .succeeded),
    (some .claimed, .failed),
    (some .claimed, .outcomeUnknown),
    (some .claimed, .targetReplaced),
    (some .revalidated, .succeeded),
    (some .revalidated, .failed),
    (some .revalidated, .outcomeUnknown),
    (some .revalidated, .targetReplaced),
    (some .dispatching, .succeeded),
    (some .dispatching, .failed),
    (some .dispatching, .outcomeUnknown),
    (some .dispatching, .targetReplaced),
    (some .succeeded, .verifying),
    (some .outcomeUnknown, .verifying),
    (some .verifying, .verified),
    (some .verifying, .verificationFailed),
    (some .verifying, .outcomeUnknown),
    (some .verifying, .targetReplaced)]

/-! ## Tables -/

/-- One row of the table `operational_dispatch`. -/
structure Row where
  request_id : String
  request_digest : String
  state : String
  request_json : String
  created_at : String
  updated_at : String
  dispatch_started_at : Option String
  dispatch_result_json : Option String
  verification_result_json : Option String
  deriving DecidableEq

/-- One row of the table `operational_dispatch_transitions`. -/
structure TransitionRow where
  sequence : ℤ
  request_id : String
  request_digest : String
  previous_state : Option String
  state : String
  occurred_at : String
  deriving DecidableEq

/-- The tables of the ledger. -/
structure Database where
  /-- `operational_dispatch`, by primary key. -/
  rows : Dict Row
  /-- `operational_dispatch_transitions`, in the order of the sequence. -/
  transitions : List TransitionRow
  /-- The next value of the automatic sequence. -/
  next_sequence : ℤ

/-- The tables that `_initialize` creates. -/
def Database.empty : Database := ⟨∅, [], 1⟩

/-- `OperationalLedgerEntry` -/
structure OperationalLedgerEntry where
  request_id : String
  request_digest : String
  state : OperationalLedgerState
  request : OperationalDispatchRequest
  created_at : DateTime
  updated_at : DateTime
  dispatch_started_at : Option DateTime
  dispatch_result : Option OperationalDispatchResult
  verification_result : Option OperationalVerificationResult
  deriving DecidableEq

/-- `OperationalLedgerTransition` -/
structure OperationalLedgerTransition where
  sequence : ℤ
  request_id : String
  request_digest : String
  previous_state : Option OperationalLedgerState
  state : OperationalLedgerState
  occurred_at : DateTime
  deriving DecidableEq

/-- What a ledger method raises. -/
inductive LedgerError where
  /-- An error of a check that is not about stored data. -/
  | check (error : PyError)
  /-- `OperationalLedgerConflictError` -/
  | conflict
  /-- `OperationalLedgerCorruptionError` -/
  | corruption
  /-- `OperationalLedgerError` -/
  | ledger (message : String)
  /-- `KeyError(request_id)` -/
  | missing (request_id : String)
  /-- `sqlite3.Error` -/
  | database

instance : DatabaseError LedgerError := ⟨.database⟩

/-- A ledger method's block of statements. -/
abbrev Ledger (α : Type) := Transaction LedgerError Database α

/-! ## Reading -/

/-- The loop of `validate_ledger_transition_sequence`, which returns the last state. -/
def walkTransitions (request_id request_digest : String) :
    Option ℤ → Option OperationalLedgerState → List OperationalLedgerTransition →
      Option (Option OperationalLedgerState)
  | _, previous_state, [] => some previous_state
  | previous_sequence, previous_state, transition :: transitions =>
      if transition.request_id ≠ request_id ∨ transition.request_digest ≠ request_digest ∨
          transition.previous_state ≠ previous_state ∨
          (transition.previous_state, transition.state) ∉ ALLOWED_LEDGER_TRANSITIONS ∨
          previous_sequence.any (fun sequence => transition.sequence ≤ sequence) then none
      else walkTransitions request_id request_digest (some transition.sequence)
        (some transition.state) transitions

/-- `validate_ledger_transition_sequence` -/
def validateLedgerTransitionSequence (transitions : List OperationalLedgerTransition)
    (request_id request_digest : String) (current_state : OperationalLedgerState) : Bool :=
  match transitions with
  | [] => false
  | _ => walkTransitions request_id request_digest none none transitions ==
      some (some current_state)

section

variable (pd : Pydantic) (py : Python)

/-- One transition as `list_transitions` reads it. -/
def readTransition (row : TransitionRow) : Except PyError OperationalLedgerTransition := do
  let previous_state ← match row.previous_state with
    | none => .ok none
    | some text => (OperationalLedgerState.read text).map some
  let state ← OperationalLedgerState.read row.state
  let occurred_at ← expect (py.fromisoformat row.occurred_at)
    (.valueError "Invalid isoformat string")
  return { sequence := row.sequence, request_id := row.request_id,
           request_digest := row.request_digest, previous_state, state, occurred_at }

/-- `list_transitions` of a request identifier that is exact and not blank. -/
def listTransitions (db : Database) (request_id : String) :
    Except PyError (List OperationalLedgerTransition) :=
  (db.transitions.filter (·.request_id = request_id)).mapM (readTransition py)

/-- `model_validate_json` of a column that may be NULL. -/
def readColumn {α : Type} (load : String → Except PyError α) : Option String →
    Except PyError (Option α)
  | none => .ok none
  | some text => (load text).map some

/-- `datetime.fromisoformat` -/
def readTime (text : String) : Except PyError DateTime :=
  expect (py.fromisoformat text) (.valueError "Invalid isoformat string")

/-- The body of `_entry`. -/
def readEntry (row : Row) : Except PyError OperationalLedgerEntry := do
  let request ← pd.validateRequestJson py row.request_json
  let dispatch ← readColumn pd.validateDispatchJson row.dispatch_result_json
  let verification ← readColumn pd.validateVerificationJson row.verification_result_json
  let state ← OperationalLedgerState.read row.state
  require (decide (request.request_id = row.request_id) &&
      decide (request.request_digest = row.request_digest))
    (.valueError "stored request identity does not match ledger row")
  require (dispatch.all fun dispatch => decide (dispatch.request_id = request.request_id) &&
      decide (dispatch.request_digest = request.request_digest))
    (.valueError "stored dispatch result does not match ledger row")
  require (!(decide (state ∈ DISPATCH_RESULT_STATES) && dispatch.isNone))
    (.valueError "dispatch result state is missing durable result")
  require (!(decide (state ∈ FINAL_STATES) && decide (state ≠ .targetReplaced) &&
      verification.isNone))
    (.valueError "verification terminal state is missing durable result")
  require (!(verification.isSome && decide (state ∉ [OperationalLedgerState.verified,
      .verificationFailed, .targetReplaced, .outcomeUnknown])))
    (.valueError "verification result does not match ledger state")
  let created_at ← readTime py row.created_at
  let updated_at ← readTime py row.updated_at
  let dispatch_started_at ← readColumn (readTime py) row.dispatch_started_at
  return { request_id := row.request_id, request_digest := row.request_digest, state, request,
           created_at, updated_at, dispatch_started_at, dispatch_result := dispatch,
           verification_result := verification }

/-- `_entry`, which turns type and value errors into a corruption error. -/
def entry (row : Row) : Except LedgerError OperationalLedgerEntry :=
  match readEntry pd py row with
  | .ok entry => .ok entry
  | .error (.typeError _) | .error (.valueError _) => .error .corruption
  | .error error => .error (.check error)

end

/-! ## The methods -/

/-- A check made by a ledger method that is not about a stored row. -/
def checked {α : Type} (result : Except PyError α) : Ledger α :=
  Transaction.lift (result.mapError .check)

/-- `_row_for` -/
def rowFor (request_id : String) : Ledger Row := do
  match ← select (·.rows.get request_id) with
  | none => throw (.missing request_id)
  | some row => return row

/-- `_check_digest` -/
def checkDigest (row : Row) (request : OperationalDispatchRequest) : Ledger Unit :=
  if row.request_digest ≠ request.request_digest then throw .conflict else pure ()

/-- The insertion of a transition. -/
def Database.addTransition (db : Database) (request : OperationalDispatchRequest)
    (previous_state : Option OperationalLedgerState) (state : OperationalLedgerState)
    (occurred_at : String) : Database :=
  { db with
    transitions := db.transitions ++
      [{ sequence := db.next_sequence, request_id := request.request_id,
         request_digest := request.request_digest,
         previous_state := previous_state.map (·.value), state := state.value, occurred_at }]
    next_sequence := db.next_sequence + 1 }

/-- `_record_transition` -/
def recordTransition (request : OperationalDispatchRequest)
    (previous_state : Option OperationalLedgerState) (state : OperationalLedgerState)
    (occurred_at : String) : Ledger Unit :=
  if (previous_state, state) ∉ ALLOWED_LEDGER_TRANSITIONS then
    throw (.ledger "invalid operational ledger transition")
  else write fun db => db.addTransition request previous_state state occurred_at

/-- The database with one row replaced. -/
def Database.setRow (db : Database) (request_id : String) (row : Row) : Database :=
  { db with rows := db.rows.set request_id row }

/-- `UPDATE ... WHERE request_id = ?` -/
def updateRow (request_id : String) (update : Row → Row) (db : Database) : Database :=
  match db.rows.get request_id with
  | some row => db.setRow request_id (update row)
  | none => db

/-- `UPDATE ... WHERE request_id = ? AND state = ?` -/
def updateIn (request_id : String) (state : OperationalLedgerState) (update : Row → Row)
    (db : Database) : Database :=
  match db.rows.get request_id with
  | some row => if row.state = state.value then db.setRow request_id (update row) else db
  | none => db

/-- The rows that such an update changes, `connection.total_changes` after it. -/
def changesIn (request_id : String) (state : OperationalLedgerState) (db : Database) : ℕ :=
  match db.rows.get request_id with
  | some row => if row.state = state.value then 1 else 0
  | none => 0

/-- The row that `claim` inserts. -/
def claimedRow (pd : Pydantic) (request : OperationalDispatchRequest) (now : String) : Row where
  request_id := request.request_id
  request_digest := request.request_digest
  state := OperationalLedgerState.claimed.value
  request_json := pd.dumpRequest request
  created_at := now
  updated_at := now
  dispatch_started_at := none
  dispatch_result_json := none
  verification_result_json := none

/-- `_now`, at a given reading of the UTC clock, as the text that is stored. -/
def nowText (py : Python) (now : Fin MAX_MICROS) : String := py.isoformat (.utc now)

section

variable (pd : Pydantic) (py : Python) (now : Fin MAX_MICROS)

/-- `claim` -/
def claim (request : OperationalDispatchRequest) : Ledger OperationalLedgerEntry := do
  let request ← checked (request.modelValidate py)
  let now := nowText py now
  beginImmediate
  match ← select (·.rows.get request.request_id) with
  | none =>
      write (·.setRow request.request_id (claimedRow pd request now))
      recordTransition request none .claimed now
      let row ← rowFor request.request_id
      commit
      Transaction.lift (entry pd py row)
  | some row =>
      if row.request_digest ≠ request.request_digest then
        rollback
        throw .conflict
      else
        commit
        Transaction.lift (entry pd py row)

/-- The update that `_transition` makes. -/
def Row.advance (row : Row) (target : OperationalLedgerState) (set_dispatch_started : Bool)
    (now : String) : Row :=
  { row with
    state := target.value
    dispatch_started_at := if set_dispatch_started then some now else row.dispatch_started_at
    updated_at := now }

/-- `_transition` -/
def transition (request : OperationalDispatchRequest) (expected target : OperationalLedgerState)
    (set_dispatch_started : Bool) : Ledger (OperationalLedgerEntry × Bool) := do
  let now := nowText py now
  beginImmediate
  let row ← rowFor request.request_id
  checkDigest row request
  let state ← checked (OperationalLedgerState.read row.state)
  if state = expected then
    let total_changes ← select (changesIn request.request_id expected)
    write (updateIn request.request_id expected (·.advance target set_dispatch_started now))
    let owner := decide (total_changes = 1)
    if owner then recordTransition request expected target now
    let row ← rowFor request.request_id
    commit
    let entry ← Transaction.lift (entry pd py row)
    return (entry, owner)
  else
    commit
    let entry ← Transaction.lift (entry pd py row)
    return (entry, false)

/-- `mark_revalidated` -/
def markRevalidated (request : OperationalDispatchRequest) : Ledger OperationalLedgerEntry := do
  let (entry, _) ← transition pd py now request .claimed .revalidated false
  return entry

/-- Cross the at-most-once dispatch barrier for one claimant. -/
def markDispatching (request : OperationalDispatchRequest) :
    Ledger (OperationalLedgerEntry × Bool) :=
  transition pd py now request .revalidated .dispatching true

/-- The update that `persist_dispatch_result` makes. -/
def Row.finish (row : Row) (state : OperationalLedgerState) (encoded now : String) : Row :=
  { row with state := state.value, dispatch_result_json := some encoded, updated_at := now }

/-- The states from which a dispatch result can be persisted. -/
def PRE_RESULT_STATES : List OperationalLedgerState := [.claimed, .revalidated, .dispatching]

/-- `persist_dispatch_result` -/
def persistDispatchResult (request : OperationalDispatchRequest)
    (result : OperationalDispatchResult) (state : OperationalLedgerState) :
    Ledger OperationalLedgerEntry := do
  checked <| require (decide (state ∈ DISPATCH_RESULT_STATES))
    (.valueError "invalid dispatch result ledger state")
  checked <| require (decide (result.request_id = request.request_id) &&
      decide (result.request_digest = request.request_digest))
    (.valueError "dispatch result does not match request")
  let encoded := pd.dumpDispatch result
  let now := nowText py now
  beginImmediate
  let row ← rowFor request.request_id
  checkDigest row request
  if row.dispatch_result_json ≠ none then
    let existing ← Transaction.lift (entry pd py row)
    if existing.dispatch_result.any (·.same result) then
      commit
      return existing
    else
      rollback
      throw (.ledger "dispatch result is immutable")
  else
    let previous_state ← checked (OperationalLedgerState.read row.state)
    if previous_state ∉ PRE_RESULT_STATES then
      rollback
      throw (.ledger "dispatch result cannot be persisted from state")
    else
      write (updateRow request.request_id (·.finish state encoded now))
      recordTransition request previous_state state now
      let row ← rowFor request.request_id
      commit
      Transaction.lift (entry pd py row)

/-- The update that `begin_verification` makes. -/
def Row.beginVerification (row : Row) (now : String) : Row :=
  { row with state := OperationalLedgerState.verifying.value, updated_at := now }

/-- `begin_verification` -/
def beginVerification (request : OperationalDispatchRequest) (resume_interrupted : Bool) :
    Ledger (OperationalLedgerEntry × Bool) := do
  beginImmediate
  let row ← rowFor request.request_id
  checkDigest row request
  let state ← checked (OperationalLedgerState.read row.state)
  if row.verification_result_json ≠ none then
    commit
    let entry ← Transaction.lift (entry pd py row)
    return (entry, false)
  else if state ∈ [OperationalLedgerState.succeeded, .outcomeUnknown] then
    let now := nowText py now
    write (updateRow request.request_id (·.beginVerification now))
    recordTransition request state .verifying now
    let row ← rowFor request.request_id
    commit
    let entry ← Transaction.lift (entry pd py row)
    return (entry, true)
  else
    commit
    let entry ← Transaction.lift (entry pd py row)
    return (entry, decide (state = .verifying) && resume_interrupted)

/-- The state that `persist_verification_result` stores a result under. -/
def verifiedState : OperationalVerificationStatus → OperationalLedgerState
  | .succeeded => .verified
  | .verificationFailed => .verificationFailed
  | .outcomeUnknown => .outcomeUnknown
  | .targetReplaced => .targetReplaced

/-- The update that `persist_verification_result` makes. -/
def Row.verify (row : Row) (state : OperationalLedgerState) (encoded now : String) : Row :=
  { row with state := state.value, verification_result_json := some encoded, updated_at := now }

/-- `persist_verification_result` -/
def persistVerificationResult (request : OperationalDispatchRequest)
    (result : OperationalVerificationResult) : Ledger OperationalLedgerEntry := do
  checked <| require (decide (result.request_id = request.request_id))
    (.valueError "verification result does not match request")
  let state := verifiedState result.status
  let encoded := pd.dumpVerification result
  beginImmediate
  let row ← rowFor request.request_id
  checkDigest row request
  if row.verification_result_json ≠ none then
    let existing ← Transaction.lift (entry pd py row)
    if existing.verification_result.any (·.same result) then
      commit
      return existing
    else
      rollback
      throw (.ledger "verification result is immutable")
  else
    let stored_state ← checked (OperationalLedgerState.read row.state)
    if stored_state ≠ .verifying then
      rollback
      throw (.ledger "verification result requires verifying state")
    else
      let now := nowText py now
      write (updateRow request.request_id (·.verify state encoded now))
      recordTransition request OperationalLedgerState.verifying state now
      let row ← rowFor request.request_id
      commit
      Transaction.lift (entry pd py row)

/-- The result that a restart stores for a dispatch that was running. -/
def interruptedResult (row : Row) (request : OperationalDispatchRequest) (started_at : DateTime) :
    OperationalDispatchResult where
  status := .outcomeUnknown
  request_id := row.request_id
  request_digest := row.request_digest
  target_fingerprint := request.target_fingerprint
  started_at := started_at
  completed_at := some (.utc now)
  sanitized_message := some "Dispatch outcome is unknown after Core restart."

/-- The loop of `reconcile_startup`. -/
def reconcileRows : List Row → Ledger Unit
  | [] => pure ()
  | row :: rows => do
      let request ← checked (pd.validateRequestJson py row.request_json)
      let started ← checked (expect row.dispatch_started_at
        (.typeError "fromisoformat: argument must be str"))
      let started_at ← checked (readTime py started)
      let result := interruptedResult now row request started_at
      checked result.validate
      write (updateIn row.request_id .dispatching
        (·.finish .outcomeUnknown (pd.dumpDispatch result) (nowText py now)))
      recordTransition request (some .dispatching) .outcomeUnknown (nowText py now)
      reconcileRows rows

/-- The counts that `reconcile_startup` returns. -/
structure Reconciled where
  retryable_pre_dispatch : ℕ
  outcome_unknown : ℕ
  verification_resumable : ℕ
  deriving DecidableEq

/-- The rows in one of some states. -/
def Database.rowsIn (db : Database) (states : List OperationalLedgerState) : List Row :=
  (db.rows.items.map Prod.snd).filter fun row => row.state ∈ states.map (·.value)

/-- Classify ambiguous dispatch without replaying mutation. -/
def reconcileStartup : Ledger Reconciled := do
  beginImmediate
  let rows ← select (·.rowsIn [.dispatching])
  reconcileRows pd py now rows
  let claimed ← select (·.rowsIn [.claimed, .revalidated])
  let verifying ← select (·.rowsIn [.verifying])
  commit
  return ⟨claimed.length, rows.length, verifying.length⟩

/-- `get` -/
def getEntry (request_id : String) : Ledger (Option OperationalLedgerEntry) := do
  match ← select (·.rows.get request_id) with
  | none => return none
  | some row =>
      let found ← Transaction.lift (entry pd py row)
      return some found

end

end AtlasOS.Core
