import AtlasOS.Lib.Sqlite
import AtlasOS.Worker.Contracts

/-!
# The durable worker ledger

`DurableRequestLedger` keeps one row for each execution request. The methods
are translated statement by statement from `durable_ledger.py`; every statement
may raise a database error. Each method has one specification lemma, which says
what the method changed when it returned and that it changed nothing when it
raised.
-/

namespace AtlasOS.Worker

open Sqlite Sqlite.Transaction

/-- The states of a ledger row. -/
inductive DurableState where
  | claimed | executing | completed | failedTerminal | unknownOutcome
  deriving DecidableEq

instance : StrEnum DurableState where
  value
    | .claimed => "claimed"
    | .executing => "executing"
    | .completed => "completed"
    | .failedTerminal => "failed_terminal"
    | .unknownOutcome => "unknown_outcome"
  members := [.claimed, .executing, .completed, .failedTerminal, .unknownOutcome]
  find_value s := by cases s <;> simp

namespace DurableState

/-- The stored text of a state. -/
abbrev value (s : DurableState) : String := StrEnum.value s

/-- The state with a given text. -/
abbrev ofValue? (text : String) : Option DurableState := StrEnum.ofValue? text

theorem ofValue_value (s : DurableState) : ofValue? s.value = some s := StrEnum.ofValue_value s

/-- `TERMINAL_STATES` -/
def terminal : DurableState → Bool
  | claimed | executing => false
  | completed | failedTerminal | unknownOutcome => true

end DurableState

/-- One row of the table `executions`. -/
structure Row where
  execution_request_id : String
  request_digest : String
  schema_version : Int
  state : String
  created_at : String
  updated_at : String
  attempt : Int
  execution_started_at : Option String
  workspace_token : Option String
  result_json : Option Json
  deriving DecidableEq

/-- `DurableLedgerEntry` -/
structure DurableLedgerEntry where
  execution_request_id : String
  request_digest : String
  schema_version : Int
  state : DurableState
  created_at : String
  updated_at : String
  attempt : Int
  execution_started_at : Option String
  workspace_token : Option String
  result : Option WorkerExecutionResult
  deriving DecidableEq

/-- What a ledger method raises. -/
inductive LedgerError where
  /-- An error of a contract check. -/
  | contract (error : PyError)
  /-- `DurableLedgerConflictError` -/
  | conflict
  /-- `DurableLedgerCorruptionError` -/
  | corruption
  /-- `DurableLedgerStartConflict` -/
  | startConflict (entry : DurableLedgerEntry)
  /-- `DurableLedgerError` -/
  | ledger (message : String)
  /-- `KeyError(request_id)` -/
  | missing (request_id : String)
  /-- `sqlite3.Error` -/
  | database

instance : DatabaseError LedgerError := ⟨.database⟩

/-- The table `executions`, by primary key. -/
abbrev Table := Dict Row

/-- A ledger method's block of statements. -/
abbrev Ledger (α : Type) := Transaction LedgerError Table α

/-! ## The validator of stored rows -/

/-- `_timestamp` -/
def timestamp (py : Python) (value : String) : Except PyError Unit := do
  require (decide (value.length ≤ 128)) (.valueError "invalid ledger timestamp")
  let parsed ← expect (py.fromisoformat value) (.valueError "invalid ledger timestamp")
  require parsed.offset.isSome (.valueError "ambiguous ledger timestamp")

/-- `decode_worker_json`: the text must hold an object with finite numbers. -/
def decodeWorkerJson (raw : Json) : Except PyError Json := do
  require raw.finite (.valueError "nonfinite JSON number")
  let _ ← raw.requireObject (.typeError "worker JSON payload must be an object")
  return raw

/-- The error that replaces a type or value error; others pass through. -/
def replaceError {α : Type} (result : Except PyError α) (error : PyError) : Except PyError α :=
  match result with
  | .error (.typeError _) | .error (.valueError _) => .error error
  | other => other

/-- The state that a result of the given status is stored under. -/
def expectedState : WorkerExecutionStatus → DurableState
  | .succeeded => .completed
  | .unknown => .unknownOutcome
  | .failed | .blocked => .failedTerminal

/-- The start marker of a row, when it is set, must be a timestamp. -/
def startMarker (py : Python) : Option String → Except PyError Unit
  | none => .ok ()
  | some started => timestamp py started

/-- The part of `validate_worker_ledger_row` that reads the stored result. -/
def storedResult (py : Python) (row : Row) (state : DurableState) :
    Except PyError (Option WorkerExecutionResult) :=
  if state.terminal then do
    let bound := PyError.valueError "terminal worker row has no bounded result"
    let raw ← expect row.result_json bound
    require (decide (raw.dumpsLength py ≤ 24 * 1024 * 1024)) bound
    let result ← replaceError (decodeWorkerJson raw >>= WorkerExecutionResult.fromDict py)
      (.valueError "invalid stored worker result")
    require (decide (result.execution_request_id = row.execution_request_id))
      (.valueError "worker result identity mismatch")
    require (decide (state = expectedState result.status))
      (.valueError "worker result and ledger state mismatch")
    return some result
  else do
    require row.result_json.isNone (.valueError "nonterminal worker row has a result")
    return none

/-- `validate_worker_ledger_row` -/
def validateWorkerLedgerRow (py : Python) (row : Row) :
    Except PyError (Option WorkerExecutionResult) := do
  require (matchesId row.execution_request_id) (.valueError "invalid worker ledger identity")
  require (matchesDigest DIGEST_PREFIX row.request_digest)
    (.valueError "invalid worker ledger digest")
  require (decide (row.schema_version = 1) && decide (row.attempt = 1))
    (.valueError "unsupported worker ledger version or attempt")
  let state ← expect (DurableState.ofValue? row.state) (.valueError "invalid worker ledger state")
  timestamp py row.created_at
  timestamp py row.updated_at
  startMarker py row.execution_started_at
  require (!(decide (state = .claimed) && row.execution_started_at.isSome) &&
      !(decide (state ∈ [.executing, .unknownOutcome]) && row.execution_started_at.isNone))
    (.valueError "worker start marker mismatch")
  require (row.workspace_token.all fun token =>
      token ≠ "" && decide (token.length ≤ 1024) && !token.toList.contains '\x00')
    (.valueError "invalid worker workspace reference")
  storedResult py row state

/-- `_entry`, on the row that a query returned. -/
def entry (py : Python) (row : Option Row) : Except LedgerError DurableLedgerEntry :=
  match row with
  | none => .error .corruption
  | some row =>
    match validateWorkerLedgerRow py row, DurableState.ofValue? row.state with
    | .ok result, some state =>
        .ok { execution_request_id := row.execution_request_id
              request_digest := row.request_digest
              schema_version := row.schema_version
              state
              created_at := row.created_at
              updated_at := row.updated_at
              attempt := row.attempt
              execution_started_at := row.execution_started_at
              workspace_token := row.workspace_token
              result }
    | .error (.typeError _), _ | .error (.valueError _), _ | .ok _, none => .error .corruption
    | .error error, _ => .error (.contract error)

/-! ## The methods -/

/-- A contract check made by a ledger method. -/
def contract {α : Type} (result : Except PyError α) : Ledger α :=
  Transaction.lift (result.mapError .contract)

/-- `_row_for` -/
def rowFor (request_id : String) : Ledger Row := do
  match ← select (·.get request_id) with
  | none => throw (.missing request_id)
  | some row => return row

/-- `_check_digest` -/
def checkDigest (py : Python) (row : Row) (request : WorkerExecutionRequest) : Ledger Unit := do
  let _ ← Transaction.lift (entry py (some row))
  if row.request_digest ≠ request.request_digest then throw .conflict

/-- `_now`, at a given reading of the UTC clock. -/
def nowText (py : Python) (now : Fin MAX_MICROS) : String := py.isoformat (.utc now)

/-- The row that `claim` inserts. -/
def claimedRow (request : WorkerExecutionRequest) (now : String) : Row where
  execution_request_id := request.execution_request_id
  request_digest := request.request_digest
  schema_version := request.schema_version
  state := DurableState.claimed.value
  created_at := now
  updated_at := now
  attempt := 1
  execution_started_at := none
  workspace_token := some request.execution_request_id
  result_json := none

/-- `claim` -/
def claim (py : Python) (now : Fin MAX_MICROS) (request : WorkerExecutionRequest) :
    Ledger DurableLedgerEntry := do
  contract (request.validate py)
  let now := nowText py now
  beginImmediate
  match ← select (·.get request.execution_request_id) with
  | none =>
      write (·.set request.execution_request_id (claimedRow request now))
      let row ← select (·.get request.execution_request_id)
      commit
      Transaction.lift (entry py row)
  | some row =>
      let _ ← Transaction.lift (entry py (some row))
      if row.request_digest ≠ request.request_digest then
        rollback
        throw .conflict
      else
        commit
        Transaction.lift (entry py (some row))

/-- The update that `mark_executing` makes. -/
def Row.start (row : Row) (now : String) : Row :=
  { row with
    state := DurableState.executing.value, execution_started_at := some now, updated_at := now }

/-- The update that ends an execution. -/
def Row.finish (row : Row) (state : DurableState) (result : Json) (now : String) : Row :=
  { row with state := state.value, result_json := some result, updated_at := now }

/-- `UPDATE ... WHERE execution_request_id = ? AND state = ?` -/
def updateIn (request_id : String) (state : DurableState) (update : Row → Row) (t : Table) :
    Table :=
  match t.get request_id with
  | some row => if row.state = state.value then t.set request_id (update row) else t
  | none => t

/-- `UPDATE ... WHERE execution_request_id = ?` -/
def updateRow (request_id : String) (update : Row → Row) (t : Table) : Table :=
  match t.get request_id with
  | some row => t.set request_id (update row)
  | none => t

/-- `mark_executing` -/
def markExecuting (py : Python) (now : Fin MAX_MICROS) (request : WorkerExecutionRequest) :
    Ledger DurableLedgerEntry := do
  contract (request.validate py)
  let now := nowText py now
  beginImmediate
  let row ← rowFor request.execution_request_id
  checkDigest py row request
  if row.state ≠ DurableState.claimed.value then
    let owner ← Transaction.lift (entry py (some row))
    throw (.startConflict owner)
  else
    write (updateIn request.execution_request_id .claimed (·.start now))
    let row ← rowFor request.execution_request_id
    commit
    Transaction.lift (entry py (some row))

/-- The state that `persist_result` stores a result under. -/
def persistedState (result : WorkerExecutionResult) : DurableState :=
  if result.status = .succeeded then .completed
  else if result.failure_code = some .workerCrash then .unknownOutcome
  else .failedTerminal

/-- Equality of the dictionaries of two results, in which a number equals the
number of the other type with the same value. -/
def sameDict (a b : WorkerExecutionResult) : Bool :=
  decide ({ a with duration_seconds := .int 0 } = { b with duration_seconds := .int 0 }) &&
    decide (a.duration_seconds.value = b.duration_seconds.value)

/-- `persist_result` -/
def persistResult (py : Python) (now : Fin MAX_MICROS) (request : WorkerExecutionRequest)
    (result : WorkerExecutionResult) : Ledger DurableLedgerEntry := do
  contract (result.validate py request)
  let state := persistedState result
  let encoded ← contract (result.toDict py)
  let now := nowText py now
  beginImmediate
  let row ← rowFor request.execution_request_id
  checkDigest py row request
  if (DurableState.ofValue? row.state).any (·.terminal) then
    let existing ← Transaction.lift (entry py (some row))
    if existing.result.any (sameDict · result) then
      commit
      return existing
    else
      rollback
      throw (.ledger "terminal result is immutable")
  else if result.status = .succeeded ∧ row.state ≠ DurableState.executing.value then
    throw (.ledger "successful result requires the execution start barrier")
  else
    let _ ← Transaction.lift (entry py (some (row.finish state encoded now)))
    write (updateRow request.execution_request_id (·.finish state encoded now))
    let row ← rowFor request.execution_request_id
    commit
    Transaction.lift (entry py (some row))

/-- The result that `_unknown_result` builds. -/
def unknownResult (request_id : String) : WorkerExecutionResult where
  schema_version := 1
  execution_request_id := request_id
  status := .unknown
  return_code := none
  stdout := ⟨"", false, none⟩
  stderr := ⟨"", false, none⟩
  changed_files := []
  patch_digest := none
  patch_size_bytes := none
  patch_truncated := false
  duration_seconds := .int 0
  failure_code := some .workerCrash
  workspace_head := none
  worker_attestation := ⟨10001, true, true, "0000000000000000", "unknown-outcome"⟩

/-- `mark_unknown_outcome` -/
def markUnknownOutcome (py : Python) (now : Fin MAX_MICROS) (request_id : String) :
    Ledger DurableLedgerEntry := do
  let now := nowText py now
  let encoded ← contract ((unknownResult request_id).toDict py)
  beginImmediate
  let row ← rowFor request_id
  let _ ← Transaction.lift (entry py (some row))
  if row.state = DurableState.executing.value then
    write (updateRow request_id (·.finish .unknownOutcome encoded now))
    let row ← rowFor request_id
    commit
    Transaction.lift (entry py (some row))
  else
    commit
    Transaction.lift (entry py (some row))

/-- The updates of `reconcile_startup`, one for each executing row. -/
def reconcileRows (py : Python) (now : String) : List String → Ledger Unit
  | [] => pure ()
  | request_id :: rest => do
      let encoded ← contract ((unknownResult request_id).toDict py)
      write (updateIn request_id .executing (·.finish .unknownOutcome encoded now))
      reconcileRows py now rest

/-- The counts that `reconcile_startup` returns. -/
structure Reconciled where
  claimed : ℕ
  unknown_outcome : ℕ
  deriving DecidableEq

/-- `reconcile_startup` -/
def reconcileStartup (py : Python) (now : Fin MAX_MICROS) : Ledger Reconciled := do
  beginImmediate
  let rows ← select (·.items.map Prod.snd)
  let entries ← Transaction.lift (rows.mapM fun row => entry py (some row))
  let executing := (entries.filter (·.state = .executing)).map (·.execution_request_id)
  reconcileRows py (nowText py now) executing
  commit
  return ⟨(entries.filter (·.state = .claimed)).length, executing.length⟩

/-- `get` -/
def getEntry (py : Python) (request_id : String) : Ledger (Option DurableLedgerEntry) := do
  match ← select (·.get request_id) with
  | none => return none
  | some row =>
      let found ← Transaction.lift (entry py (some row))
      return some found

end AtlasOS.Worker
