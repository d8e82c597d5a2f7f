import AtlasOS.Lib.Sqlite
import AtlasOS.ProviderIntents.Models

/-!
# The provider-intent store

`ProviderIntentStore` keeps seven tables. Its methods are translated statement by
statement from `provider_intents/store.py`; every statement may raise a database
error and every stage of `mutate_coordinate` the exception of an injector. A block
of queries together with the checks on its rows is one step, since it writes
nothing.
-/

namespace AtlasOS.ProviderIntents

open Sqlite Sqlite.Transaction

/-! ## Errors -/

/-- What a store method raises. -/
inductive StoreError where
  /-- `ProviderIntentStoreSchemaError` -/
  | schema (message : String)
  /-- `ProviderIntentStoreConflictError` -/
  | conflict (message : String)
  /-- `ProviderIntentStoreCorruptionError` -/
  | corruption (message : String)
  /-- `sqlite3.IntegrityError` -/
  | integrity
  /-- Another `sqlite3.DatabaseError`. -/
  | database
  /-- An exception of a contract; a pydantic `ValidationError` is a `ValueError`. -/
  | python (error : PyError)
  /-- `AssertionError` -/
  | assertion
  /-- Another exception, which an injector raised. -/
  | other
  deriving DecidableEq

instance : DatabaseError StoreError := ⟨.database⟩

/-- The handlers of a method: a database error or a value error becomes a corruption error. -/
def failClosed (message : String) : StoreError → StoreError
  | .integrity | .database | .python (.valueError _) => .corruption message
  | error => error

/-- Raise an error of the store unless a condition holds. -/
def demand (condition : Bool) (error : StoreError) : Except StoreError Unit :=
  if condition then .ok () else .error error

@[simp] theorem demand_eq_ok {condition : Bool} {error : StoreError} :
    demand condition error = .ok () ↔ condition = true := by
  cases condition <;> simp [demand]

@[simp] theorem demand_bind_eq_ok {α : Type} {condition : Bool} {error : StoreError}
    {next : Unit → Except StoreError α} {a : α} :
    (demand condition error >>= next) = .ok a ↔ condition = true ∧ next () = .ok a := by
  rw [check_bind_eq_ok, demand_eq_ok]

/-- A contract check made by a store method. -/
def checked {α : Type} (result : Except PyError α) : Except StoreError α := result.mapError .python

@[simp] theorem checked_eq_ok {α : Type} {result : Except PyError α} {a : α} :
    checked result = .ok a ↔ result = .ok a := by
  cases result <;> simp [checked, Except.mapError]

/-- `set(a) == set(b)` -/
def sameSet {α : Type} [DecidableEq α] (a b : List α) : Bool := a.all (· ∈ b) && b.all (· ∈ a)

theorem sameSet_iff {α : Type} [DecidableEq α] {a b : List α} :
    sameSet a b = true ↔ ∀ x, x ∈ a ↔ x ∈ b := by
  simp only [sameSet, Bool.and_eq_true, List.all_eq_true, decide_eq_true_eq]
  exact ⟨fun h x => ⟨h.1 x, h.2 x⟩, fun h => ⟨fun x => (h x).mp, fun x => (h x).mpr⟩⟩

/-! ## The catalogue -/

/-- One row of `PRAGMA foreign_key_list`. -/
structure ForeignKey where
  id : Int
  seq : Int
  table : String
  source : String
  target : String
  on_update : String := "NO ACTION"
  on_delete : String := "NO ACTION"
  rule : String := "NONE"
  deriving DecidableEq

/-- What the pragmas say about a table. -/
structure TableInfo where
  columns : List String
  unique : List (List String) := []
  foreign_keys : List ForeignKey := []
  deriving DecidableEq

/-- The reference of a table to a record row. -/
def recordForeignKey : List ForeignKey :=
  [{ id := 0, seq := 0, table := "provider_intent_records"
     source := "intent_id", target := "intent_id" },
   { id := 0, seq := 1, table := "provider_intent_records"
     source := "record_version", target := "record_version" }]

/-- The tables of a P2c store. -/
def P2C_TABLES : List (String × TableInfo) :=
  [("provider_intent_store_meta", { columns := ["singleton", "schema_version"] }),
   ("provider_intent_records",
     { columns := ["intent_id", "record_version", "lifecycle", "record_json", "created_at",
         "updated_at", "schema_version"]
       unique := [["intent_id", "record_version"]] }),
   ("provider_intent_requests",
     { columns := ["request_id", "request_digest", "result_json", "created_at"]
       unique := [["request_id"]] }),
   ("provider_intent_audit",
     { columns := ["sequence", "occurred_at", "intent_id", "record_version", "request_id",
         "request_digest", "event"]
       unique := [["intent_id", "record_version"], ["request_id"]]
       foreign_keys := recordForeignKey })]

/-- `provider_intent_active_coordinates` -/
def ACTIVE_TABLE : String × TableInfo :=
  ("provider_intent_active_coordinates",
    { columns := ["coordinate_key", "provider_id", "resource_type", "resource_id", "intent_kind",
        "intent_id", "management_fingerprint", "record_version"]
      unique := [["coordinate_key"], ["intent_id"],
        ["provider_id", "resource_type", "resource_id", "intent_kind"]]
      foreign_keys := recordForeignKey })

/-- `provider_intent_operations` -/
def OPERATIONS_TABLE : String × TableInfo :=
  ("provider_intent_operations",
    { columns := ["request_id", "request_digest", "operator_id", "result_json", "created_at"]
      unique := [["request_id"]] })

/-- `provider_intent_operation_audit` -/
def OPERATION_AUDIT_TABLE : String × TableInfo :=
  ("provider_intent_operation_audit",
    { columns := ["sequence", "event_id", "occurred_at", "operation_id", "request_id",
        "operator_id", "intent_id", "record_version", "event", "lifecycle", "resulting_value"]
      unique := [["event_id"], ["intent_id", "record_version"]]
      foreign_keys := recordForeignKey })

/-- The tables of a P3 store, `_TABLE_COLUMNS` with their constraints. -/
def P3_TABLES : List (String × TableInfo) :=
  P2C_TABLES ++ [ACTIVE_TABLE, OPERATIONS_TABLE, OPERATION_AUDIT_TABLE]

/-- The schema of a database file, and the rows `(singleton, schema_version)` of its metadata. -/
structure Catalog where
  metaRows : List (Int × Int)
  tables : List (String × TableInfo)
  deriving DecidableEq

namespace Catalog

variable (catalog : Catalog)

/-- The names in `sqlite_master`. -/
def names : List String := catalog.tables.map Prod.fst

/-- What the pragmas say about a table; nothing about an absent one. -/
def info (table : String) : TableInfo := (catalog.tables.lookup table).getD { columns := [] }

/-- Whether every listed table has the columns it should have. -/
def columnsCheck (message : String → StoreError) (tables : List (String × TableInfo)) :
    Except StoreError Unit :=
  tables.forM fun expected =>
    demand (decide ((catalog.info expected.1).columns = expected.2.columns)) (message expected.1)

/-- Whether every listed table has the uniqueness constraints it should have. -/
def uniqueCheck (message : String → StoreError) (tables : List (String × TableInfo)) :
    Except StoreError Unit :=
  tables.forM fun expected =>
    demand (sameSet (catalog.info expected.1).unique expected.2.unique) (message expected.1)

end Catalog

/-- `_validate_schema` -/
def validateSchema (catalog : Catalog) : Except StoreError Unit := do
  demand (decide ("provider_intent_store_meta" ∈ catalog.names))
    (.schema "provider intent database table set is invalid")
  let version ← match catalog.metaRows with
    | [(1, version)] => .ok version
    | _ => .error (.schema "provider intent store metadata is invalid")
  if version ≠ PROVIDER_INTENT_STORE_SCHEMA_VERSION then
    if version = 1 then
      throw (.schema "provider intent store schema migration is required")
    throw (.schema "provider intent store schema version is unsupported")
  demand (sameSet catalog.names (P3_TABLES.map Prod.fst))
    (.schema "provider intent database table set is invalid")
  catalog.columnsCheck
    (fun table => .schema ("provider intent store table '" ++ table ++ "' is invalid")) P3_TABLES
  catalog.uniqueCheck
    (fun table => .schema ("provider intent store table '" ++ table ++ "' uniqueness is invalid"))
    P3_TABLES
  ["provider_intent_audit", "provider_intent_active_coordinates",
      "provider_intent_operation_audit"].forM fun table =>
    demand (decide ((catalog.info table).foreign_keys = recordForeignKey))
      (.schema ("provider intent table '" ++ table ++ "' foreign keys are invalid"))

/-! ## Tables -/

/-- A row of `provider_intent_records`. -/
structure RecordRow where
  intent_id : String
  record_version : Int
  lifecycle : String
  record_json : String
  created_at : String
  updated_at : String
  schema_version : Int
  deriving DecidableEq

/-- `PRIMARY KEY (intent_id, record_version)` -/
def RecordRow.clash (a b : RecordRow) : Bool :=
  decide (a.intent_id = b.intent_id ∧ a.record_version = b.record_version)

/-- A row of `provider_intent_requests`. -/
structure RequestRow where
  request_id : String
  request_digest : String
  result_json : String
  created_at : String
  deriving DecidableEq

/-- `request_id TEXT PRIMARY KEY` -/
def RequestRow.clash (a b : RequestRow) : Bool := decide (a.request_id = b.request_id)

/-- A row of `provider_intent_audit`. -/
structure AuditRow where
  sequence : Int
  occurred_at : String
  intent_id : String
  record_version : Int
  request_id : String
  request_digest : String
  event : String
  deriving DecidableEq

/-- The three uniqueness constraints of the audit. -/
def AuditRow.clash (a b : AuditRow) : Bool :=
  decide (a.sequence = b.sequence ∨ a.request_id = b.request_id ∨
    a.intent_id = b.intent_id ∧ a.record_version = b.record_version)

/-- A row of `provider_intent_active_coordinates`. -/
structure ActiveRow where
  coordinate_key : String
  provider_id : String
  resource_type : String
  resource_id : String
  intent_kind : String
  intent_id : String
  management_fingerprint : String
  record_version : Int
  deriving DecidableEq

/-- The three uniqueness constraints of the active coordinates. -/
def ActiveRow.clash (a b : ActiveRow) : Bool :=
  decide (a.coordinate_key = b.coordinate_key ∨ a.intent_id = b.intent_id ∨
    a.provider_id = b.provider_id ∧ a.resource_type = b.resource_type ∧
      a.resource_id = b.resource_id ∧ a.intent_kind = b.intent_kind)

/-- A row of `provider_intent_operations`. -/
structure OperationRow where
  request_id : String
  request_digest : String
  operator_id : String
  result_json : String
  created_at : String
  deriving DecidableEq

/-- `request_id TEXT PRIMARY KEY` -/
def OperationRow.clash (a b : OperationRow) : Bool := decide (a.request_id = b.request_id)

/-- A row of `provider_intent_operation_audit`. -/
structure OperationAuditRow where
  sequence : Int
  event_id : String
  occurred_at : String
  operation_id : String
  request_id : String
  operator_id : String
  intent_id : String
  record_version : Int
  event : String
  lifecycle : String
  resulting_value : String
  deriving DecidableEq

/-- The three uniqueness constraints of the operation audit. -/
def OperationAuditRow.clash (a b : OperationAuditRow) : Bool :=
  decide (a.sequence = b.sequence ∨ a.event_id = b.event_id ∨
    a.intent_id = b.intent_id ∧ a.record_version = b.record_version)

/-- The contents of the database file. -/
structure Database where
  catalog : Catalog
  records : List RecordRow
  requests : List RequestRow
  audit : List AuditRow
  active : List ActiveRow
  operations : List OperationRow
  operation_audit : List OperationAuditRow
  deriving DecidableEq

/-- The database that `_create_schema` makes. -/
def Database.created : Database where
  catalog := ⟨[(1, PROVIDER_INTENT_STORE_SCHEMA_VERSION)], P3_TABLES⟩
  records := []
  requests := []
  audit := []
  active := []
  operations := []
  operation_audit := []

/-- A block of statements of the store. -/
abbrev Store (α : Type) := Transaction StoreError Database α

namespace Database

variable (db : Database)

/-- The uniqueness constraints of all tables hold. -/
structure Unique : Prop where
  records : Rows.Separated RecordRow.clash db.records
  requests : Rows.Separated RequestRow.clash db.requests
  audit : Rows.Separated AuditRow.clash db.audit
  active : Rows.Separated ActiveRow.clash db.active
  operations : Rows.Separated OperationRow.clash db.operations
  operation_audit : Rows.Separated OperationAuditRow.clash db.operation_audit

/-- `PRAGMA integrity_check`, of which the model sees the uniqueness constraints. -/
def integrityCheck : Bool :=
  decide (Rows.Separated RecordRow.clash db.records) &&
    decide (Rows.Separated RequestRow.clash db.requests) &&
    decide (Rows.Separated AuditRow.clash db.audit) &&
    decide (Rows.Separated ActiveRow.clash db.active) &&
    decide (Rows.Separated OperationRow.clash db.operations) &&
    decide (Rows.Separated OperationAuditRow.clash db.operation_audit)

theorem integrityCheck_iff : db.integrityCheck = true ↔ db.Unique := by
  simp only [integrityCheck, Bool.and_eq_true, decide_eq_true_eq]
  exact ⟨fun ⟨⟨⟨⟨⟨h₁, h₂⟩, h₃⟩, h₄⟩, h₅⟩, h₆⟩ => ⟨h₁, h₂, h₃, h₄, h₅, h₆⟩,
    fun ⟨h₁, h₂, h₃, h₄, h₅, h₆⟩ => ⟨⟨⟨⟨⟨h₁, h₂⟩, h₃⟩, h₄⟩, h₅⟩, h₆⟩⟩

/-! ### Queries -/

/-- The record rows of a series, by version. -/
def seriesRows (intent_id : String) : List RecordRow :=
  Rows.orderBy (·.record_version) (db.records.filter fun row => decide (row.intent_id = intent_id))

/-- The audit rows of a series, by version. -/
def evidenceRows (intent_id : String) : List AuditRow :=
  Rows.orderBy (·.record_version) (db.audit.filter fun row => decide (row.intent_id = intent_id))

/-- The request row of a request. -/
def request (request_id : String) : Option RequestRow :=
  db.requests.find? fun row => decide (row.request_id = request_id)

/-- The audit row of a request. -/
def auditRow (request_id : String) : Option AuditRow :=
  db.audit.find? fun row => decide (row.request_id = request_id)

/-- The record row of a version. -/
def recordRow (intent_id : String) (record_version : Int) : Option RecordRow :=
  db.records.find? fun row =>
    decide ((row.intent_id, row.record_version) = (intent_id, record_version))

/-- The operation row of a request. -/
def operation (request_id : String) : Option OperationRow :=
  db.operations.find? fun row => decide (row.request_id = request_id)

/-- The audit rows of an operation, in their order. -/
def operationAudits (request_id : String) : List OperationAuditRow :=
  Rows.orderBy (·.sequence)
    (db.operation_audit.filter fun row => decide (row.request_id = request_id))

/-! ### Insertions -/

/-- The number that `AUTOINCREMENT` gives the next row, up to the largest one. -/
def nextSequence (sequences : List Int) : Except StoreError Int :=
  if sequences.foldl max 0 < 2 ^ 63 - 1 then .ok (sequences.foldl max 0 + 1) else .error .database

/-- Whether a row refers to a stored record. -/
def references (intent_id : String) (record_version : Int) : Bool :=
  (db.recordRow intent_id record_version).isSome

/-- Insert a record row. -/
def insertRecord (row : RecordRow) : Except StoreError Database := do
  demand (decide (1 ≤ row.record_version)) .integrity
  match Rows.insert RecordRow.clash row db.records with
  | none => .error .integrity
  | some records => return { db with records }

/-- Insert a request row. -/
def insertRequest (row : RequestRow) : Except StoreError Database :=
  match Rows.insert RequestRow.clash row db.requests with
  | none => .error .integrity
  | some requests => .ok { db with requests }

/-- Insert an audit row, which is given its number. -/
def insertAudit (row : Int → AuditRow) : Except StoreError Database := do
  let sequence ← nextSequence (db.audit.map (·.sequence))
  demand (db.references (row sequence).intent_id (row sequence).record_version) .integrity
  match Rows.insert AuditRow.clash (row sequence) db.audit with
  | none => .error .integrity
  | some audit => return { db with audit }

/-- Insert an active coordinate. -/
def insertActive (row : ActiveRow) : Except StoreError Database := do
  demand (db.references row.intent_id row.record_version) .integrity
  match Rows.insert ActiveRow.clash row db.active with
  | none => .error .integrity
  | some active => return { db with active }

/-- Insert an operation row. -/
def insertOperation (row : OperationRow) : Except StoreError Database :=
  match Rows.insert OperationRow.clash row db.operations with
  | none => .error .integrity
  | some operations => .ok { db with operations }

/-- Insert an operation audit row, which is given its number. -/
def insertOperationAudit (row : Int → OperationAuditRow) : Except StoreError Database := do
  let sequence ← nextSequence (db.operation_audit.map (·.sequence))
  demand (db.references (row sequence).intent_id (row sequence).record_version) .integrity
  match Rows.insert OperationAuditRow.clash (row sequence) db.operation_audit with
  | none => .error .integrity
  | some operation_audit => return { db with operation_audit }

end Database

/-! ## Stored evidence -/

section Validation

variable (py : Python) (pd : Pydantic) (db : Database)

/-- `_decode_record` -/
def decodeRecord (row : RecordRow) : Except StoreError ProviderIntentRecord := do
  let record ← checked (pd.validateRecordJson py row.record_json)
  demand (decide (record.intent_id = row.intent_id ∧
      record.record_version = row.record_version ∧
      StrEnum.value record.lifecycle = row.lifecycle ∧
      py.isoformat record.created_at = row.created_at ∧
      py.isoformat record.updated_at = row.updated_at ∧
      record.schema_version = row.schema_version))
    (.corruption "provider intent record columns do not match payload")
  return record

/-- The audit event that a record of a series should have. -/
def expectedEvent (record : ProviderIntentRecord) : ProviderIntentAuditEventKind :=
  if record.record_version = 1 then .created
  else if record.lifecycle = .superseded then .superseded
  else .updated

/-- The check of `_validated_history` on one record and its audit row. -/
def validatedEvidence (record : ProviderIntentRecord) (audit_row : AuditRow) :
    Except StoreError Unit :=
  match db.request audit_row.request_id with
  | none => .error (.corruption "provider intent history request evidence is incomplete")
  | some request_row => do
    let result ← checked (pd.validateResultJson py request_row.result_json)
    demand (decide (audit_row.record_version = record.record_version ∧
        audit_row.request_digest = request_row.request_digest ∧
        audit_row.event = StrEnum.value (expectedEvent record) ∧
        result.record = record ∧
        result.outcome.event = expectedEvent record))
      (.corruption "provider intent history evidence is inconsistent")

/-- `1, ..., n` -/
def versions (n : ℕ) : List Int := (List.range n).map fun i : ℕ => (i : Int) + 1

/-- `_validated_history` -/
def validatedHistory (intent_id : String) : Except StoreError (List ProviderIntentRecord) := do
  let records ← (db.seriesRows intent_id).mapM (decodeRecord py pd)
  demand (decide (records.map (·.record_version) = versions records.length))
    (.corruption "provider intent history version chain is invalid")
  let evidence := db.evidenceRows intent_id
  demand (decide (evidence.length = records.length))
    (.corruption "provider intent history audit evidence is incomplete")
  (records.zip evidence).forM fun pair => validatedEvidence py pd db pair.1 pair.2
  return records

/-- An active record that no resource type supports. -/
def unsupportedActive (record : ProviderIntentRecord) : Bool :=
  decide (record.lifecycle = .active ∧
    (record.provider_id ≠ "proxmox" ∨ record.resource_type ≠ some "qemu" ∨
      record.intent_kind ≠ .monitoringExpectation))

/-- The check on a request without an audit row, which must complete an import. -/
def validatedMarker (row : RequestRow) (message : String) : Except StoreError Unit := do
  let result ← checked (pd.validateImportResultJson row.result_json)
  demand (decide (result.import_id = row.request_id) &&
      matchesVersioned "provider-intent-legacy-policy-import-request-v1" row.request_digest)
    (.corruption message)

/-- `_coordinate_key` -/
def coordinateKey (provider_id resource_type resource_id : String)
    (intent_kind : ProviderIntentKind) : String :=
  canonicalDigest py "provider-intent-coordinate-v1"
    [("intent_kind", .str (StrEnum.value intent_kind)),
     ("provider_id", .str provider_id),
     ("resource_id", .str resource_id),
     ("resource_type", .str resource_type),
     ("version", .str "provider-intent-coordinate-v1")]

/-- The active-coordinate row of a record. -/
def activeRow (record : ProviderIntentRecord) : ActiveRow where
  coordinate_key := coordinateKey py record.provider_id (record.resource_type.getD "")
    record.resource_id record.intent_kind
  provider_id := record.provider_id
  resource_type := record.resource_type.getD ""
  resource_id := record.resource_id
  intent_kind := StrEnum.value record.intent_kind
  intent_id := record.intent_id
  management_fingerprint := record.incarnation_fingerprint.getD ""
  record_version := record.record_version

/-- `_audit_event_id` -/
def auditEventId (request_id intent_id : String) (record_version : Int)
    (event : ProviderIntentAuditEventKind) : String :=
  canonicalDigest py "provider-intent-audit-v1"
    [("event", .str (StrEnum.value event)),
     ("intent_id", .str intent_id),
     ("record_version", .int record_version),
     ("request_id", .str request_id),
     ("version", .str "provider-intent-audit-v1")]

/-- The latest records of the series that are active and bound to an incarnation. -/
def activeRecords (histories : List (List ProviderIntentRecord)) : List ProviderIntentRecord :=
  (histories.filterMap List.getLast?).filter fun record =>
    decide (record.lifecycle = .active) && record.resource_type.isSome &&
      record.incarnation_fingerprint.isSome

/-- The coordinate of a record. -/
def coordinate (record : ProviderIntentRecord) :
    String × Option String × String × ProviderIntentKind :=
  (record.provider_id, record.resource_type, record.resource_id, record.intent_kind)

/-- The audit event that a stored operation audit row describes. -/
def domainAuditEvent (row : OperationAuditRow) :
    Except StoreError ProviderIntentDomainAuditEvent := do
  let occurred_at ← checked (expect (py.fromisoformat row.occurred_at)
    (.valueError "invalid isoformat string"))
  let event ← checked (expect (StrEnum.ofValue? row.event) (.valueError "event"))
  let lifecycle ← checked (expect (StrEnum.ofValue? row.lifecycle) (.valueError "lifecycle"))
  let resulting_value ← checked (expect (StrEnum.ofValue? row.resulting_value)
    (.valueError "resulting_value"))
  checked (ProviderIntentDomainAuditEvent.modelValidate
    { sequence := row.sequence, event_id := row.event_id, occurred_at
      operation_id := row.operation_id, request_id := row.request_id
      operator_id := row.operator_id, intent_id := row.intent_id
      record_version := row.record_version, event, lifecycle, resulting_value })

/-- The check of `_validate_p3_evidence` on one operation audit row. -/
def validatedDomainAudit (operation : OperationRow) (row : OperationAuditRow)
    (expected_event : ProviderIntentAuditEventKind) : Except StoreError Unit := do
  let event ← domainAuditEvent py row
  let invalid := StoreError.corruption "provider intent operation audit evidence is invalid"
  demand (decide (event.event = expected_event ∧
      event.event_id = auditEventId py event.request_id event.intent_id event.record_version
        event.event ∧
      event.operation_id = operation.request_id ∧
      event.request_id = operation.request_id ∧
      event.operator_id = operation.operator_id)) invalid
  match db.recordRow event.intent_id event.record_version with
  | none => .error invalid
  | some record_row => do
    let record ← decodeRecord py pd record_row
    demand (decide (event.lifecycle = record.lifecycle ∧
        event.resulting_value = record.intent_value))
      (.corruption "provider intent operation audit result is inconsistent")

/-- The audit events that an operation should have. -/
def expectedEvents : CoordinateOutcome → List ProviderIntentAuditEventKind
  | .rebound => [.superseded, .rebound]
  | .created => [.created]
  | .updated => [.updated]

/-- The check of `_validate_p3_evidence` on one operation. -/
def validatedOperation (operation : OperationRow) : Except StoreError Unit := do
  let result ← checked (pd.validateCoordinateResultJson operation.result_json)
  demand (decide (result.request_id = operation.request_id) &&
      matchesVersioned "provider-intent-coordinate-mutation-v1" operation.request_digest)
    (.corruption "provider intent operation result identity is inconsistent")
  let rows := db.operationAudits operation.request_id
  demand (decide (rows.length = (expectedEvents result.outcome).length))
    (.corruption "provider intent operation audit count is inconsistent")
  (rows.zip (expectedEvents result.outcome)).forM fun pair =>
    validatedDomainAudit py pd db operation pair.1 pair.2
  match db.recordRow
      (buildProviderIntentId py result.provider_id (some result.resource_type) result.resource_id
        (some result.management_fingerprint) .monitoringExpectation) result.record_version with
  | none => .error (.corruption "provider intent operation result record is missing")
  | some record_row => do
    let record ← decodeRecord py pd record_row
    demand (decide (record.intent_value = result.expectation))
      (.corruption "provider intent operation result record is inconsistent")

/-- `_validate_p3_evidence` -/
def validateP3Evidence (histories : List (List ProviderIntentRecord)) :
    Except StoreError Unit := do
  let active := activeRecords histories
  demand (decide (active.map coordinate).Nodup)
    (.corruption "provider intent coordinate has multiple active incarnations")
  demand (sameSet db.active (active.map (activeRow py)))
    (.corruption "provider intent active coordinate evidence is inconsistent")
  demand (sameSet (db.operations.map (·.request_id)) (db.operation_audit.map (·.request_id)))
    (.corruption "provider intent operation audit set is inconsistent")
  (Rows.orderBy (·.request_id) db.operations).forM (validatedOperation py pd db)

/-- The part of the validators about the series and their requests, which the stores of both
generations share. -/
def validatedSeries (series orphaned : String) (supported : ProviderIntentRecord → Bool) :
    Except StoreError (List (List ProviderIntentRecord)) := do
  let intent_ids := Rows.distinct (·.intent_id) db.records
  let histories ← intent_ids.mapM (validatedHistory py pd db)
  demand (histories.all fun history => history.all supported)
    (.corruption "unsupported active provider intent is stored")
  demand (sameSet (db.audit.map (·.intent_id)) intent_ids) (.corruption series)
  (Rows.orderBy (·.request_id) db.requests).forM fun row =>
    if db.audit.any fun audit_row => decide (audit_row.request_id = row.request_id) then .ok ()
    else validatedMarker pd row orphaned
  return histories

/-- `_validated_store_records` -/
def validatedStoreRecords : Except StoreError (List (List ProviderIntentRecord)) := do
  demand db.integrityCheck (.corruption "provider intent database integrity check failed")
  validateSchema db.catalog
  let histories ← validatedSeries py pd db "provider intent audit series set is inconsistent"
    "provider intent request evidence is orphaned" fun record => !unsupportedActive record
  validateP3Evidence py pd db histories
  return histories

/-- `validate_all` -/
def validateAll : Except StoreError Unit := do
  let _ ← (validatedStoreRecords py pd db).mapError
    (failClosed "provider intent full-store validation failed")

/-- `_replay` -/
def replay (request_id request_digest : String) :
    Except StoreError (Option ProviderIntentMutationResult) :=
  let inconsistent := StoreError.corruption "provider intent replay evidence is inconsistent"
  match db.request request_id with
  | none => .ok none
  | some row => do
    demand (decide (row.request_digest = request_digest))
      (.conflict "provider intent request ID has a different digest")
    let result ← checked (pd.validateResultJson py row.result_json)
    match db.recordRow result.record.intent_id result.record.record_version with
    | none => .error inconsistent
    | some record_row => do
      let record ← decodeRecord py pd record_row
      demand (decide (record = result.record)) inconsistent
      match db.auditRow request_id with
      | none => .error inconsistent
      | some audit_row => do
        demand (decide (audit_row.intent_id = result.record.intent_id ∧
          audit_row.record_version = result.record.record_version ∧
          audit_row.request_digest = request_digest ∧
          audit_row.event = StrEnum.value result.outcome.event)) inconsistent
        return some result

/-- `_replay_coordinate_operation` -/
def replayCoordinateOperation (c : ProviderIntentCoordinateMutationCommand) :
    Except StoreError (Option ProviderIntentCoordinateMutationResult) :=
  match db.operation c.request_id with
  | none => .ok none
  | some row => do
    demand (decide (row.request_digest = c.request_digest py ∧ row.operator_id = c.operator_id))
      (.conflict "provider intent mutation request ID has different input")
    let result ← checked (pd.validateCoordinateResultJson row.result_json)
    let audits := db.operationAudits c.request_id
    demand (decide (audits.length = if result.outcome = .rebound then 2 else 1) &&
        audits.all fun audit => decide (audit.operator_id = c.operator_id))
      (.corruption "provider intent operation replay evidence is inconsistent")
    return some result

end Validation

end AtlasOS.ProviderIntents
