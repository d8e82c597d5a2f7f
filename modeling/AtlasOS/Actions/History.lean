import AtlasOS.Lib.Recent
import AtlasOS.Lib.Rows
import AtlasOS.Lib.Text
import AtlasOS.Lib.Timestamp
import Mathlib.Data.String.Basic

/-!
# The history of provider actions

The table is the list of its rows in the order of their rowids, which is the order
in which they were inserted. Timestamps are stored as the texts that `utc_iso`
writes, and retention, order and filters compare these texts. Every method takes
the lock once and reads the clock while it runs; `page` takes the lock twice.
-/

namespace AtlasOS.Actions

/-- The exceptions that the methods raise. -/
inductive HistoryError where
  /-- A date outside the calendar, or an integer that the database cannot hold. -/
  | overflowError
  /-- An identifier that is already stored. -/
  | integrityError
  /-- A record that its model refuses. -/
  | validationError
  | valueError (message : String)
  deriving DecidableEq

/-- A value that is there, or an exception. -/
def orRaise {α : Type} (value : Option α) (error : HistoryError) : Except HistoryError α :=
  match value with
  | some a => .ok a
  | none => .error error

/-- `Literal["succeeded", "failed"]` -/
inductive ActionStatus where
  | succeeded
  | failed
  deriving DecidableEq

instance : StrEnum ActionStatus where
  value
    | .succeeded => "succeeded"
    | .failed => "failed"
  members := [.succeeded, .failed]
  find_value a := by cases a <;> rfl

/-- `value >= 0` -/
def nonnegative : PyFloat → Bool
  | .finite value => 0 ≤ value
  | .infinite negative => !negative
  | .nan => false

/-- `Field(ge=0)`, which is also a check of the table. -/
abbrev Duration := {value : PyFloat // nonnegative value = true}

/-- Sanitized record of a provider action execution. -/
structure ProviderActionAuditEntry where
  id : String
  provider_id : String
  provider_name : String
  action_id : String
  action_label : String
  status : ActionStatus
  success : Bool
  message : String
  confirmed : Bool
  destructive : Bool
  parameter_names : List String
  request_id : Option String
  started_at : DateTime
  completed_at : DateTime
  duration_ms : Duration
  deriving DecidableEq

/-- A row of `provider_action_history`; the text of `parameter_names` is kept as its value. -/
structure Row where
  id : String
  provider_id : String
  provider_name : String
  action_id : String
  action_label : String
  status : ActionStatus
  success : ℤ
  message : String
  confirmed : ℤ
  destructive : ℤ
  parameter_names : Json
  request_id : Option String
  started_at : String
  completed_at : String
  duration_ms : Duration
  deriving DecidableEq

/-- `utc_iso` -/
def utcIso (timestamp : DateTime) : Except HistoryError String :=
  match timestamp.toUtc with
  | some micros => .ok (Timestamp.isoformat micros)
  | none => .error .overflowError

/-- `int(value)` -/
def ofBool (value : Bool) : ℤ := if value then 1 else 0

/-- The values that `append` inserts. -/
def ProviderActionAuditEntry.values (entry : ProviderActionAuditEntry) : Except HistoryError Row := do
  let started_at ← utcIso entry.started_at
  let completed_at ← utcIso entry.completed_at
  .ok {
    id := entry.id
    provider_id := entry.provider_id
    provider_name := entry.provider_name
    action_id := entry.action_id
    action_label := entry.action_label
    status := entry.status
    success := ofBool entry.success
    message := entry.message
    confirmed := ofBool entry.confirmed
    destructive := ofBool entry.destructive
    parameter_names := .arr (entry.parameter_names.map .str)
    request_id := entry.request_id
    started_at
    completed_at
    duration_ms := entry.duration_ms }

/-- A list of texts, or the error of the model. -/
def readNames : Json → Except HistoryError (List String)
  | .arr items => items.mapM fun item => orRaise (asStr? item) .validationError
  | _ => .error .validationError

/-- `datetime.fromisoformat` for a stored text. -/
def readTimestamp (text : String) : Except HistoryError DateTime := do
  let micros ← orRaise (Timestamp.fromisoformat text) (.valueError "Invalid isoformat string")
  .ok (.utc micros)

/-- `_entry_from_row` -/
def entryFromRow (row : Row) : Except HistoryError ProviderActionAuditEntry := do
  let parameter_names ← readNames row.parameter_names
  let started_at ← readTimestamp row.started_at
  let completed_at ← readTimestamp row.completed_at
  .ok {
    id := row.id
    provider_id := row.provider_id
    provider_name := row.provider_name
    action_id := row.action_id
    action_label := row.action_label
    status := row.status
    success := row.success != 0
    message := row.message
    confirmed := row.confirmed != 0
    destructive := row.destructive != 0
    parameter_names
    request_id := row.request_id
    started_at
    completed_at
    duration_ms := row.duration_ms }

/-! ## Statements -/

/-- An integer that is bound to a statement. -/
def bindInt (value : ℤ) : Except HistoryError ℤ :=
  if -2 ^ 63 ≤ value ∧ value < 2 ^ 63 then .ok value else .error .overflowError

/-- `LIMIT ? OFFSET ?`, where a negative limit is none and a negative offset is zero. -/
def limited {α : Type} (limit offset : ℤ) (rows : List α) : List α :=
  if limit < 0 then rows.drop offset.toNat else (rows.drop offset.toNat).take limit.toNat

/-- Letters that `LIKE` takes for the same. -/
def sameLetter (a b : Char) : Bool := a.toLower = b.toLower

/-- `text LIKE pattern ESCAPE '\'` -/
def like : List Char → List Char → Bool
  | [], text => text = []
  | '%' :: pattern, [] => like pattern []
  | '%' :: pattern, c :: text => like pattern (c :: text) || like ('%' :: pattern) text
  | ['\\'], _ :: _ => false
  | '\\' :: a :: pattern, c :: text => sameLetter a c && like pattern text
  | '_' :: pattern, _ :: text => like pattern text
  | a :: pattern, c :: text => sameLetter a c && like pattern text
  | _ :: _, [] => false
  termination_by pattern text => pattern.length + text.length

/-- The search text with the characters escaped that mean something to `LIKE`. -/
def escaped (search : List Char) : List Char :=
  search.flatMap fun c => if c = '\\' ∨ c = '%' ∨ c = '_' then ['\\', c] else [c]

/-- The condition on the columns that are searched, if the search text is not blank. -/
def searches (search : Option String) (action_id action_label : String) (request_id : Option String) :
    Bool :=
  let normalized_search := (strip (search.getD "")).toList
  let matching (text : String) := like ('%' :: escaped normalized_search ++ ['%']) text.toList
  normalized_search = [] || matching action_id || matching action_label || request_id.any matching

/-- The arguments that select entries. -/
structure Filters where
  provider_id : Option String
  status : Option String
  completed_from : Option DateTime
  completed_to : Option DateTime
  search : Option String
  deriving DecidableEq

/-- The conditions of the `WHERE` clause, the bounds being texts. -/
def Filters.condition (filters : Filters) (completed_from completed_to : Option String) (row : Row) :
    Bool :=
  filters.provider_id.all (row.provider_id = ·) &&
  filters.status.all (StrEnum.value row.status = ·) &&
  completed_from.all (· ≤ row.completed_at) &&
  completed_to.all (row.completed_at ≤ ·) &&
  searches filters.search row.action_id row.action_label row.request_id

/-- `_query_parts` -/
def Filters.queryParts (filters : Filters) : Except HistoryError (Row → Bool) := do
  let completed_from ← filters.completed_from.mapM utcIso
  let completed_to ← filters.completed_to.mapM utcIso
  .ok (filters.condition completed_from completed_to)

/-- The rows that satisfy a condition, the most recent one first. -/
def select (condition : Row → Bool) (rows : List Row) : List Row :=
  Recent.listing Row.completed_at (rows.filter condition)

/-- A block under the lock in one transaction, which is rolled back when it raises. -/
def transact {α : Type} (rows : List Row) (block : Except HistoryError (α × List Row)) :
    Except HistoryError α × List Row :=
  match block with
  | .ok (result, rows') => (.ok result, rows')
  | .error error => (.error error, rows)

/-! ## Methods -/

structure ProviderActionPruneResult where
  deleted_entries : ℕ
  remaining_entries : ℕ
  cutoff : DateTime
  deriving DecidableEq

structure ProviderActionHistorySummary where
  entry_count : ℕ
  max_entries : ℕ
  retention_days : ℕ
  oldest_entry_at : Option DateTime
  newest_entry_at : Option DateTime
  deriving DecidableEq

structure ProviderActionHistoryPage where
  items : List ProviderActionAuditEntry
  total : ℕ
  offset : ℤ
  limit : ℤ
  has_more : Bool
  /-- `Field(ge=0)` -/
  offset_nonneg : 0 ≤ offset
  /-- `Field(ge=1)` -/
  limit_pos : 1 ≤ limit

instance : DecidableEq ProviderActionHistoryPage := fun a b =>
  decidable_of_iff (a.items = b.items ∧ a.total = b.total ∧ a.offset = b.offset ∧
      a.limit = b.limit ∧ a.has_more = b.has_more)
    (by cases a; cases b; simp)

/-- SQLite-backed history of provider action executions. -/
structure ProviderActionHistory where
  max_entries : ℕ
  retention_days : ℕ
  max_entries_pos : 1 ≤ max_entries
  retention_days_pos : 1 ≤ retention_days

/-- A reading of the UTC clock. -/
abbrev Now := Fin MAX_MICROS

namespace ProviderActionHistory

variable (history : ProviderActionHistory)

/-- `_retention_cutoff` -/
def retentionCutoff (now : Now) : Except HistoryError Now :=
  if 86400000000 * history.retention_days ≤ now.val then
    .ok ⟨now.val - 86400000000 * history.retention_days, (Nat.sub_le _ _).trans_lt now.isLt⟩
  else .error .overflowError

/-- `_prune_expired` -/
def deleteExpired (cutoff : Now) (rows : List Row) : List Row :=
  rows.filter fun row => ¬row.completed_at < Timestamp.isoformat cutoff

/-- `_prune_excess` -/
def deleteExcess (rows : List Row) : Except HistoryError (List Row) := do
  let limit ← bindInt history.max_entries
  let kept := limited limit 0 (select (fun _ => true) rows)
  .ok (rows.filter fun row => row.id ∈ kept.map Row.id)

/-- `_prune` -/
def prune (now : Now) (rows : List Row) : Except HistoryError (List Row) := do
  let cutoff ← history.retentionCutoff now
  history.deleteExcess (deleteExpired cutoff rows)

/-- `append` -/
def append (now : Now) (entry : ProviderActionAuditEntry) (rows : List Row) :
    Except HistoryError Unit × List Row :=
  match entry.values with
  | .error error => (.error error, rows)
  | .ok row => transact rows do
    let inserted ← orRaise (Rows.insert (fun a b => a.id = b.id) row rows) .integrityError
    let pruned ← history.prune now inserted
    .ok ((), pruned)

/-- `prune_expired` -/
def pruneExpired (now : Now) (rows : List Row) :
    Except HistoryError ProviderActionPruneResult × List Row :=
  match history.retentionCutoff now with
  | .error error => (.error error, rows)
  | .ok cutoff =>
    let pruned := deleteExpired cutoff rows
    (.ok ⟨rows.length - pruned.length, pruned.length, .utc cutoff⟩, pruned)

/-- The summary of the rows that are left. -/
def summarized (pruned : List Row) : Except HistoryError ProviderActionHistorySummary := do
  let oldest_entry_at ← (pruned.map Row.completed_at).min?.mapM readTimestamp
  let newest_entry_at ← (pruned.map Row.completed_at).max?.mapM readTimestamp
  .ok ⟨pruned.length, history.max_entries, history.retention_days, oldest_entry_at, newest_entry_at⟩

/-- `summary` -/
def summary (now : Now) (rows : List Row) : Except HistoryError ProviderActionHistorySummary × List Row :=
  match history.prune now rows with
  | .error error => (.error error, rows)
  | .ok pruned => (history.summarized pruned, pruned)

/-- `list` -/
def list (now : Now) (filters : Filters) (limit offset : ℤ) (rows : List Row) :
    Except HistoryError (List ProviderActionAuditEntry) × List Row :=
  match filters.queryParts with
  | .error error => (.error error, rows)
  | .ok condition =>
    let (selected, pruned) := transact rows do
      let pruned ← history.prune now rows
      let limit ← bindInt limit
      let offset ← bindInt offset
      .ok (limited limit offset (select condition pruned), pruned)
    (selected.bind (·.mapM entryFromRow), pruned)

/-- `export_entries` -/
def exportEntries (now : Now) (filters : Filters) (rows : List Row) :
    Except HistoryError (List ProviderActionAuditEntry) × List Row :=
  history.list now filters history.max_entries 0 rows

/-- `get` -/
def get (now : Now) (entry_id : String) (rows : List Row) :
    Except HistoryError (Option ProviderActionAuditEntry) × List Row :=
  let (found, pruned) := transact rows do
    let pruned ← history.prune now rows
    .ok (pruned.find? fun row => row.id = entry_id, pruned)
  (found.bind (·.mapM entryFromRow), pruned)

/-- `count` -/
def count (now : Now) (filters : Filters) (rows : List Row) : Except HistoryError ℕ × List Row :=
  match filters.queryParts with
  | .error error => (.error error, rows)
  | .ok condition => transact rows do
    let pruned ← history.prune now rows
    .ok (pruned.countP condition, pruned)

/-- `clear` -/
def clear : Except HistoryError Unit × List Row := (.ok (), [])

/-- `page`, from what its calls of `list` and `count` answer. -/
def page (limit offset : ℤ) (items : Except HistoryError (List ProviderActionAuditEntry))
    (total : Except HistoryError ℕ) : Except HistoryError ProviderActionHistoryPage := do
  let items ← items
  let total ← total
  if h : 0 ≤ offset ∧ 1 ≤ limit then
    .ok {
      items, total, offset, limit
      has_more := offset + items.length < total
      offset_nonneg := h.1
      limit_pos := h.2 }
  else .error .validationError

end ProviderActionHistory

end AtlasOS.Actions
