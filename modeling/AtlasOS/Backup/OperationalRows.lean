import AtlasOS.Core.Dispatch.Events

/-!
# The backup tool's check of the dispatch ledger

`_validate_operational_rows` of `atlas-data-tool.py` reads the three tables of a
copied ledger without the domain models: it parses the stored JSON itself and
walks the transitions over a table of its own. It is translated here over raw
column values, so that it applies to any content the tables can have.
-/

namespace AtlasOS.Backup

open Core

/-! ## Raw tables -/

/-- A value in a column of type TEXT, whose affinity turns numbers into text. A column that may
be NULL holds an optional value. -/
inductive Value where
  | text (value : String)
  | blob (bytes : List UInt8)
  deriving DecidableEq

namespace Value

/-- The text of a value. -/
def text? : Value → Option String
  | .text value => some value
  | .blob _ => none

/-- `value == column` in Python. -/
def equals (value : Json) (column : Option Value) : Bool :=
  match value with
  | .str value => decide (column = some (.text value))
  | .null => decide (column = none)
  | _ => false

/-- `column in texts` -/
def isIn (column : Value) (texts : List String) : Bool :=
  texts.any fun value => decide (column = .text value)

end Value

/-- One row of `operational_dispatch_events`. -/
structure EventColumns where
  event_id : Option Value
  status : Value
  occurred_at : Value
  event_json : Value

/-- One row of `operational_dispatch`. The primary key is no integer, so SQLite lets it be NULL. -/
structure RequestColumns where
  request_id : Option Value
  request_digest : Value
  state : Value
  request_json : Value
  created_at : Value
  updated_at : Value
  dispatch_started_at : Option Value
  dispatch_result_json : Option Value
  verification_result_json : Option Value

/-- One row of `operational_dispatch_transitions`. -/
structure TransitionColumns where
  sequence : ℤ
  request_id : Value
  request_digest : Value
  previous_state : Option Value
  state : Value
  occurred_at : Value

/-- The tables of the file, with the integer primary key of the transitions. -/
structure Tables where
  requests : List RequestColumns
  transitions : List TransitionColumns
  events : List EventColumns
  primary_key : (transitions.map (·.sequence)).Nodup

/-- `SELECT * FROM operational_dispatch_transitions WHERE request_id=? ORDER BY sequence`, which
finds nothing for NULL. -/
def Tables.history (t : Tables) (request_id : Option Value) : List TransitionColumns :=
  (t.transitions.filter fun row => decide (some row.request_id = request_id)).insertionSort
    (fun a b => a.sequence ≤ b.sequence)

/-! ## The check -/

/-- What the check raises. -/
inductive BackupError where
  | runtimeError (message : String)
  | python (error : PyError)

/-- Raise a `RuntimeError` unless the condition holds. -/
def demand (condition : Bool) (message : String) : Except BackupError Unit :=
  if condition then .ok () else .error (.runtimeError message)

/-- `_LEDGER_TRANSITIONS` -/
def LEDGER_TRANSITIONS : List (Option String × String) :=
  [(none, "claimed"), (some "claimed", "revalidated"), (some "revalidated", "dispatching")] ++
    (["claimed", "revalidated", "dispatching"].product
      ["succeeded", "failed", "outcome_unknown", "target_replaced"]).map
      (fun pair => (some pair.1, pair.2)) ++
    [(some "succeeded", "verifying"), (some "outcome_unknown", "verifying")] ++
    ["verified", "verification_failed", "outcome_unknown", "target_replaced"].map
      (fun state => (some "verifying", state))

/-- `(previous, state) in _LEDGER_TRANSITIONS` -/
def inLedgerTransitions (previous : Option Value) (state : Value) : Bool :=
  LEDGER_TRANSITIONS.any fun pair =>
    decide (previous = pair.1.map .text) && decide (state = .text pair.2)

/-- `dispatch_result_states` -/
def DISPATCH_RESULT_TEXTS : List String := ["succeeded", "failed", "outcome_unknown", "target_replaced"]

/-- `final_states` -/
def FINAL_TEXTS : List String := ["verified", "verification_failed", "target_replaced"]

/-- `verification_result_states` -/
def VERIFICATION_RESULT_TEXTS : List String :=
  ["verified", "verification_failed", "target_replaced", "outcome_unknown"]

/-- The fields that the JSON of a request must have. -/
def REQUEST_KEYS : List String :=
  ["schema_version", "idempotency_key", "effect_kind", "execution_intent", "provider_id",
    "resource_id", "resource_type", "provider_action_id", "target_fingerprint", "verification",
    "approval"]

/-- `value in texts`, which is refused for a value that has no hash. -/
def jsonIn (value : Json) (texts : List String) : Except BackupError Bool :=
  match value with
  | .str value => .ok (decide (value ∈ texts))
  | .arr _ => .error (.python (.typeError "unhashable type: 'list'"))
  | .obj _ => .error (.python (.typeError "unhashable type: 'dict'"))
  | _ => .ok false

/-- `texts.issubset(fields)` -/
def hasKeys (texts : List String) (fields : Fields) : Bool :=
  texts.all fun key => decide (key ∈ fields.keys)

section

variable {pd : Pydantic} {py : Python} (json : JsonText pd py)

/-- `json.loads(column)` -/
def loadColumn (column : Value) : Except BackupError Json :=
  match column with
  | .text value => (json.loads value).mapError .python
  | .blob bytes => (json.loadsBytes bytes).mapError .python

/-- `timestamp.astimezone(timezone.utc)` of an aware timestamp, as a reading of the UTC clock. -/
def astimezoneUtc (t : DateTime) : Except BackupError (Fin MAX_MICROS) :=
  let reading := t.instant + 86400000000
  if h : 0 ≤ reading ∧ reading.toNat < MAX_MICROS then .ok ⟨reading.toNat, h.2⟩
  else .error (.python .overflowError)

/-- `_parse_operational_timestamp` of a value that is a string, or is not. -/
def parseOperationalTimestamp (py : Python) (value : Option String) :
    Except BackupError (Fin MAX_MICROS) :=
  match value.bind py.fromisoformat with
  | none => .error (.runtimeError "operational event evidence is inconsistent")
  | some timestamp =>
      if timestamp.offset.isNone then
        .error (.runtimeError "operational event evidence is inconsistent")
      else astimezoneUtc timestamp

/-- One event of the first loop. -/
def validateEvent (row : EventColumns) : Except BackupError Unit := do
  match ← loadColumn json row.event_json with
  | .obj event =>
      demand (Value.equals (Fields.get event "event_id") row.event_id &&
          Value.equals (Fields.get event "status") (some row.status))
        "operational event evidence is inconsistent"
      let occurred_at ← parseOperationalTimestamp py (asStr? (Fields.get event "occurred_at"))
      let stored ← parseOperationalTimestamp py row.occurred_at.text?
      demand (decide (occurred_at = stored)) "operational event evidence is inconsistent"
  | _ => demand false "operational event evidence is inconsistent"

/-- A result column, which is NULL or a JSON object. -/
def loadResult : Option Value → Except BackupError (Option Fields)
  | none => .ok none
  | some column => do
      match ← loadColumn json column with
      | .obj fields => return some fields
      | _ => .error (.runtimeError "operational result evidence is invalid")

/-- The identity of a request in its JSON. -/
def validateRequestIdentity (row : RequestColumns) : Except BackupError Unit := do
  match ← loadColumn json row.request_json with
  | .obj request =>
      demand (Value.equals (Fields.get request "request_id") row.request_id &&
          Value.equals (Fields.get request "request_digest") (some row.request_digest) &&
          hasKeys REQUEST_KEYS request)
        "operational request identity is inconsistent"
  | _ => demand false "operational request identity is inconsistent"

/-- The identity of a dispatch result. -/
def validateDispatchIdentity (row : RequestColumns) (result : Fields) : Except BackupError Unit := do
  demand (Value.equals (Fields.get result "request_id") row.request_id &&
      Value.equals (Fields.get result "request_digest") (some row.request_digest))
    "operational dispatch result identity is inconsistent"
  let known ← jsonIn (Fields.get result "status") ["succeeded", "failed", "outcome_unknown"]
  demand (known && hasKeys ["target_fingerprint", "started_at"] result)
    "operational dispatch result identity is inconsistent"

/-- The identity of a verification result. -/
def validateVerificationIdentity (row : RequestColumns) (result : Fields) :
    Except BackupError Unit := do
  demand (Value.equals (Fields.get result "request_id") row.request_id)
    "operational verification identity is inconsistent"
  let known ← jsonIn (Fields.get result "status")
    ["succeeded", "verification_failed", "outcome_unknown", "target_replaced"]
  demand (known && hasKeys ["started_at", "completed_at", "deadline"] result)
    "operational verification identity is inconsistent"

/-- The loop over the transitions of a request, which returns the last state. -/
def walkHistory (request_digest : Value) :
    Option Value → List TransitionColumns → Except BackupError (Option Value)
  | previous, [] => .ok previous
  | previous, transition :: transitions => do
      demand (decide (transition.request_digest = request_digest) &&
          decide (transition.previous_state = previous) &&
          inLedgerTransitions previous transition.state)
        "operational transition history is invalid"
      walkHistory request_digest (some transition.state) transitions

/-- One request of the second loop. -/
def validateRequest (t : Tables) (row : RequestColumns) : Except BackupError Unit := do
  validateRequestIdentity json row
  let dispatch_result ← loadResult json row.dispatch_result_json
  let verification_result ← loadResult json row.verification_result_json
  dispatch_result.toList.forM (validateDispatchIdentity row)
  verification_result.toList.forM (validateVerificationIdentity row)
  demand (!(row.state.isIn DISPATCH_RESULT_TEXTS && dispatch_result.isNone))
    "operational dispatch result is missing"
  demand (!(row.state.isIn (FINAL_TEXTS.filter (· ≠ "target_replaced")) &&
      verification_result.isNone)) "operational verification result is missing"
  demand (!(verification_result.isSome && !row.state.isIn VERIFICATION_RESULT_TEXTS))
    "operational verification state is inconsistent"
  let transitions := t.history row.request_id
  let previous ← walkHistory row.request_digest none transitions
  demand (!transitions.isEmpty && decide (previous = some row.state))
    "operational current state is inconsistent"

/-- The transitions that no request has. -/
def Tables.orphans (t : Tables) : List TransitionColumns :=
  t.transitions.filter fun transition =>
    !t.requests.any fun request => decide (request.request_id = some transition.request_id)

/-- `_validate_operational_rows` -/
def validateOperationalRows (t : Tables) : Except BackupError Unit := do
  demand (decide (t.orphans.length = 0)) "operational transition history contains an orphan"
  t.events.forM (validateEvent json)
  t.requests.forM (validateRequest json t)

end

end AtlasOS.Backup
