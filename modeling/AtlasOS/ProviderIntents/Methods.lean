import AtlasOS.ProviderIntents.Store

/-!
# The methods that write the provider-intent store

`mutate_coordinate`, `put`, `supersede` and `import_legacy_policy`. The active
state that `mutate_coordinate` observes before its transaction is read from
contents of its own, since other connections may commit in between.
-/

namespace AtlasOS.ProviderIntents

open Sqlite Sqlite.Transaction

/-- `_canonical_now` -/
def canonicalNow (now : DateTime) : Except StoreError DateTime :=
  checked (canonicalTimestamp "provider intent store timestamp must be timezone-aware" now)

/-- `_failure`: the injector may raise at a stage. -/
def failure (injector : String → Option StoreError) (stage : String) : Store Unit :=
  Transaction.lift <|
    match injector stage with
    | none => .ok ()
    | some error => .error error

/-- The handlers of a method, which roll back. -/
def guarded {α : Type} (message : String) (block : Store α) : Store α :=
  tryCatch block fun error => do
    rollback
    throw (failClosed message error)

/-! ## Rows of a mutation -/

section Rows

variable (py : Python) (pd : Pydantic)

/-- The row that a record is stored in. -/
def storedRecord (record : ProviderIntentRecord) : RecordRow where
  intent_id := record.intent_id
  record_version := record.record_version
  lifecycle := StrEnum.value record.lifecycle
  record_json := pd.dumpRecord record
  created_at := py.isoformat record.created_at
  updated_at := py.isoformat record.updated_at
  schema_version := record.schema_version

/-- The audit row of a mutation. -/
def storedAudit (record : ProviderIntentRecord) (request_id request_digest : String)
    (event : ProviderIntentAuditEventKind) (occurred_at : DateTime) (sequence : Int) :
    AuditRow where
  sequence
  occurred_at := py.isoformat occurred_at
  intent_id := record.intent_id
  record_version := record.record_version
  request_id
  request_digest
  event := StrEnum.value event

/-- The request row of a mutation. -/
def storedRequest (result : ProviderIntentMutationResult) (request_id request_digest : String)
    (occurred_at : DateTime) : RequestRow where
  request_id
  request_digest
  result_json := pd.dumpResult result
  created_at := py.isoformat occurred_at

/-- `_persist_mutation` -/
def persistMutation (record : ProviderIntentRecord) (result : ProviderIntentMutationResult)
    (request_id request_digest : String) (event : ProviderIntentAuditEventKind)
    (occurred_at : DateTime) : Store Unit := do
  execute (·.insertRecord (storedRecord py pd record))
  execute (·.insertAudit (storedAudit py record request_id request_digest event occurred_at))
  execute (·.insertRequest (storedRequest py pd result request_id request_digest occurred_at))

/-- `_persist_internal_record` -/
def persistInternalRecord (record : ProviderIntentRecord) (request_id request_digest : String)
    (event : ProviderIntentAuditEventKind) (occurred_at : DateTime) : Store Unit :=
  let outcome : MutationOutcome :=
    match event with
    | .superseded => .superseded
    | .updated => .updated
    | .created | .rebound => .created
  persistMutation py pd record { outcome, record } request_id request_digest
    (if event = .rebound then .created else event) occurred_at

/-- `_insert_active_coordinate` -/
def insertActiveCoordinate (record : ProviderIntentRecord) : Store Unit :=
  match record.resource_type, record.incarnation_fingerprint with
  | some _, some _ =>
    tryCatch (execute (·.insertActive (activeRow py record))) fun
      | .integrity =>
        throw (.conflict "provider intent coordinate already has an active incarnation")
      | error => throw error
  | _, _ => throw .assertion

end Rows

/-- The update of the active coordinates when a series gets a new version. -/
def Database.updateActive (record : ProviderIntentRecord) (db : Database) :
    Except StoreError Database := do
  demand (db.references record.intent_id record.record_version) .integrity
  demand (decide ((db.active.filter fun row => decide (row.intent_id = record.intent_id)).length = 1))
    (.corruption "provider intent active coordinate evidence is missing")
  return { db with
    active := db.active.map fun row =>
      if row.intent_id = record.intent_id then { row with record_version := record.record_version }
      else row }

/-- `_update_active_coordinate` -/
def updateActiveCoordinate (record : ProviderIntentRecord) : Store Unit :=
  execute (·.updateActive record)

/-- The deletion of the active coordinate of a series. -/
def Database.deleteActive (intent_id : String) (db : Database) : Except StoreError Database := do
  demand (decide ((db.active.filter fun row => decide (row.intent_id = intent_id)).length = 1))
    (.corruption "provider intent active coordinate evidence is missing")
  return { db with active := db.active.filter fun row => decide (row.intent_id ≠ intent_id) }

/-- `_delete_active_coordinate` -/
def deleteActiveCoordinate (intent_id : String) : Store Unit := execute (·.deleteActive intent_id)

namespace ProviderIntentRecord

/-- The next version of a record, with a new value. -/
def updatedTo (previous : ProviderIntentRecord) (intent_value : ProviderIntentValue)
    (updated_at : DateTime) : ProviderIntentRecord :=
  { previous with
    record_version := previous.record_version + 1, intent_value, updated_at
    previous_record_version := some previous.record_version }

/-- The version of a record that ends its series. -/
def supersededAt (previous : ProviderIntentRecord) (updated_at : DateTime) :
    ProviderIntentRecord :=
  { previous with
    record_version := previous.record_version + 1, lifecycle := .superseded, updated_at
    previous_record_version := some previous.record_version }

end ProviderIntentRecord

section Methods

variable (py : Python) (pd : Pydantic)

/-- The constructor of a record, and `model_validate`. -/
def newRecord (record : ProviderIntentRecord) : Store ProviderIntentRecord :=
  Transaction.lift (checked (record.modelValidate py))

/-! ## `mutate_coordinate` -/

/-- `_new_coordinate_record`, before its validators. -/
def newCoordinateRecord (c : ProviderIntentCoordinateMutationCommand) (occurred_at : DateTime) :
    ProviderIntentRecord where
  intent_id := c.intent_id py
  record_version := 1
  provider_id := c.provider_id
  resource_type := some c.resource_type
  resource_id := c.resource_id
  incarnation_fingerprint := some c.management_fingerprint
  intent_kind := c.intent_kind
  intent_value := c.desired_value
  lifecycle := .active
  provenance := .operator
  created_at := occurred_at
  updated_at := occurred_at

/-- What a branch of `mutate_coordinate` did: the new record, the records to audit with their
events, and the outcome. -/
abbrev Mutated :=
  ProviderIntentRecord × List (ProviderIntentRecord × ProviderIntentAuditEventKind) ×
    CoordinateOutcome

variable (injector : String → Option StoreError) (c : ProviderIntentCoordinateMutationCommand)
  (occurred_at : DateTime)

/-- The branch that creates a series. -/
def createCoordinate (target_history : List ProviderIntentRecord) : Store Mutated := do
  Transaction.lift <| demand (decide (c.expected_record_version = 0))
    (.conflict "provider intent expected version does not exist")
  Transaction.lift <| demand target_history.isEmpty
    (.conflict "superseded provider intent incarnation cannot be reactivated")
  let record ← newRecord py (newCoordinateRecord py c occurred_at)
  persistInternalRecord py pd record c.request_id (c.request_digest py) .created occurred_at
  insertActiveCoordinate py record
  failure injector "after_new_record_append"
  return (record, [(record, .created)], .created)

/-- The branch that updates the active series. -/
def updateCoordinate (previous : ProviderIntentRecord) : Store Mutated := do
  Transaction.lift <| demand (decide (previous.record_version = c.expected_record_version))
    (.conflict "provider intent expected version is stale")
  let record ← newRecord py (previous.updatedTo c.desired_value occurred_at)
  persistInternalRecord py pd record c.request_id (c.request_digest py) .updated occurred_at
  updateActiveCoordinate record
  failure injector "after_new_record_append"
  return (record, [(record, .updated)], .updated)

/-- The branch that replaces the active incarnation by another one. -/
def rebindCoordinate (previous : ProviderIntentRecord)
    (target_history : List ProviderIntentRecord) : Store Mutated := do
  Transaction.lift <| demand (decide (c.expected_record_version = 0))
    (.conflict "replacement binding requires expected version zero")
  Transaction.lift <| demand target_history.isEmpty
    (.conflict "replacement incarnation already has stored history")
  let superseded ← newRecord py (previous.supersededAt occurred_at)
  persistInternalRecord py pd superseded (c.request_id ++ "-supersede") (c.request_digest py)
    .superseded occurred_at
  failure injector "after_old_superseded_record_append"
  let record ← newRecord py (newCoordinateRecord py c occurred_at)
  persistInternalRecord py pd record (c.request_id ++ "-activate") (c.request_digest py)
    .created occurred_at
  deleteActiveCoordinate previous.intent_id
  insertActiveCoordinate py record
  failure injector "after_new_record_append"
  return (record, [(superseded, .superseded), (record, .rebound)], .rebound)

/-- The branches of `mutate_coordinate`. -/
def applyCoordinate (previous : Option ProviderIntentRecord)
    (target_history : List ProviderIntentRecord) : Store Mutated :=
  match previous with
  | none => createCoordinate py pd injector c occurred_at target_history
  | some previous =>
    if previous.intent_id = c.intent_id py then
      updateCoordinate py pd injector c occurred_at previous
    else rebindCoordinate py pd injector c occurred_at previous target_history

/-- The row that `_persist_domain_audit` inserts. -/
def storedDomainAudit (record : ProviderIntentRecord) (event : ProviderIntentAuditEventKind)
    (sequence : Int) : OperationAuditRow where
  sequence
  event_id := auditEventId py c.request_id record.intent_id record.record_version event
  occurred_at := py.isoformat occurred_at
  operation_id := c.request_id
  request_id := c.request_id
  operator_id := c.operator_id
  intent_id := record.intent_id
  record_version := record.record_version
  event := StrEnum.value event
  lifecycle := StrEnum.value record.lifecycle
  resulting_value := StrEnum.value record.intent_value

/-- The audit events of a mutation, numbered from the given index. -/
def persistDomainAudits :
    List (ProviderIntentRecord × ProviderIntentAuditEventKind) → ℕ → Store Unit
  | [], _ => pure ()
  | (record, event) :: rest, index => do
    execute (·.insertOperationAudit (storedDomainAudit py c occurred_at record event))
    failure injector ("after_audit_event_" ++ toString index)
    persistDomainAudits rest (index + 1)

/-- The result of `mutate_coordinate`. -/
def coordinateResult (record : ProviderIntentRecord) (outcome : CoordinateOutcome) :
    ProviderIntentCoordinateMutationResult where
  outcome
  request_id := c.request_id
  provider_id := c.provider_id
  resource_type := c.resource_type
  resource_id := c.resource_id
  management_fingerprint := c.management_fingerprint
  expectation := c.desired_value
  record_version := record.record_version
  superseded_previous_incarnation := decide (outcome = .rebound)

/-- The row that records the result of an operation. -/
def storedOperation (result : ProviderIntentCoordinateMutationResult) : OperationRow where
  request_id := c.request_id
  request_digest := c.request_digest py
  operator_id := c.operator_id
  result_json := pd.dumpCoordinateResult result
  created_at := py.isoformat occurred_at

/-- The generation of the active row under a coordinate key. -/
def observedGeneration (db : Database) (key : String) : Option (String × Int) :=
  (db.active.find? fun row => decide (row.coordinate_key = key)).map fun row =>
    (row.intent_id, row.record_version)

/-- The latest records that are active at the coordinate of a command. -/
def activeAt (histories : List (List ProviderIntentRecord)) : List ProviderIntentRecord :=
  (histories.filterMap List.getLast?).filter fun record =>
    decide (record.lifecycle = .active ∧ record.provider_id = c.provider_id ∧
      record.resource_type = some c.resource_type ∧ record.resource_id = c.resource_id ∧
      record.intent_kind = c.intent_kind)

/-- The part of `mutate_coordinate` after the replay check. -/
def mutateFresh (observed_generation : Option (String × Int)) :
    Store ProviderIntentCoordinateMutationResult := do
  let histories ← inspect (validatedStoreRecords py pd)
  let active := activeAt c histories
  Transaction.lift <| demand (decide (active.length ≤ 1))
    (.corruption "provider intent coordinate has multiple active incarnations")
  Transaction.lift <| demand
    (decide (active.head?.map (fun r => (r.intent_id, r.record_version)) = observed_generation))
    (.conflict "provider intent coordinate changed concurrently")
  failure injector "after_active_state_validation"
  let target_history ← inspect (validatedHistory py pd · (c.intent_id py))
  let (record, audit_records, outcome) ←
    applyCoordinate py pd injector c occurred_at active.head? target_history
  let result := coordinateResult c record outcome
  Transaction.lift (checked result.modelValidate)
  persistDomainAudits py injector c occurred_at audit_records 1
  failure injector "before_idempotency_result"
  execute (·.insertOperation (storedOperation py pd c occurred_at result))
  failure injector "after_idempotency_result_before_commit"
  commit
  return result

/-- `mutate_coordinate`, when the active state is observed in the given contents. -/
def mutateCoordinate (observed : Database) (now : DateTime) :
    Store ProviderIntentCoordinateMutationResult := do
  let occurred_at ← Transaction.lift (canonicalNow now)
  guarded "provider intent coordinate mutation failed closed" do
    let observed_generation ← select fun _ =>
      observedGeneration observed
        (coordinateKey py c.provider_id c.resource_type c.resource_id c.intent_kind)
    failure injector "after_active_state_observation"
    beginImmediate
    match ← inspect (replayCoordinateOperation py pd · c) with
    | some result => do
      commit
      return result
    | none => mutateFresh py pd injector c occurred_at observed_generation

end Methods

section Methods

variable (py : Python) (pd : Pydantic) (now : DateTime)

/-! ## `put` and `supersede` -/

/-- The first record of a series that `put` creates, before its validators. -/
def putRecord (c : ProviderIntentMutationCommand) (occurred_at : DateTime) :
    ProviderIntentRecord where
  intent_id := c.intent_id py
  record_version := 1
  provider_id := c.provider_id
  resource_type := some c.resource_type
  resource_id := c.resource_id
  incarnation_fingerprint := some c.incarnation_fingerprint
  intent_kind := c.intent_kind
  intent_value := c.desired_value
  lifecycle := .active
  provenance := c.provenance
  created_at := occurred_at
  updated_at := occurred_at

/-- The part of `put` that writes. -/
def putFresh (c : ProviderIntentMutationCommand) (occurred_at : DateTime)
    (history : List ProviderIntentRecord) : Store ProviderIntentMutationResult := do
  match history.getLast? with
  | none =>
    Transaction.lift <| demand (decide (c.expected_record_version = 0))
      (.conflict "provider intent expected version does not exist")
    let record ← newRecord py (putRecord py c occurred_at)
    let result : ProviderIntentMutationResult := { outcome := .created, record }
    persistMutation py pd record result c.request_id c.request_digest .created occurred_at
    insertActiveCoordinate py record
    commit
    return result
  | some current_record =>
    Transaction.lift <| demand (decide (current_record.lifecycle = .active))
      (.conflict "superseded provider intent cannot be updated")
    Transaction.lift <| demand
      (decide (current_record.record_version = c.expected_record_version))
      (.conflict "provider intent expected version is stale")
    let record ← newRecord py (current_record.updatedTo c.desired_value occurred_at)
    let result : ProviderIntentMutationResult := { outcome := .updated, record }
    persistMutation py pd record result c.request_id c.request_digest .updated occurred_at
    updateActiveCoordinate record
    commit
    return result

/-- `put` -/
def put (c : ProviderIntentMutationCommand) : Store ProviderIntentMutationResult := do
  let occurred_at ← Transaction.lift (canonicalNow now)
  guarded "provider intent mutation encountered invalid stored state" do
    beginImmediate
    match ← inspect (replay py pd · c.request_id c.request_digest) with
    | some result => do
      commit
      return result
    | none => do
      let history ← inspect (validatedHistory py pd · (c.intent_id py))
      putFresh py pd c occurred_at history

/-- The part of `supersede` that writes. -/
def supersedeFresh (c : ProviderIntentSupersedeCommand) (occurred_at : DateTime)
    (history : List ProviderIntentRecord) : Store ProviderIntentMutationResult := do
  match history.getLast? with
  | none => throw (.conflict "provider intent series does not exist")
  | some current_record =>
    Transaction.lift <| demand (decide (current_record.lifecycle = .active))
      (.conflict "provider intent series is already superseded")
    Transaction.lift <| demand
      (decide (current_record.record_version = c.expected_record_version))
      (.conflict "provider intent expected version is stale")
    let record ← newRecord py (current_record.supersededAt occurred_at)
    let result : ProviderIntentMutationResult := { outcome := .superseded, record }
    persistMutation py pd record result c.request_id c.request_digest .superseded occurred_at
    deleteActiveCoordinate record.intent_id
    commit
    return result

/-- `supersede` -/
def supersede (c : ProviderIntentSupersedeCommand) : Store ProviderIntentMutationResult := do
  let occurred_at ← Transaction.lift (canonicalNow now)
  guarded "provider intent supersession encountered invalid stored state" do
    beginImmediate
    match ← inspect (replay py pd · c.request_id c.request_digest) with
    | some result => do
      commit
      return result
    | none => do
      let history ← inspect (validatedHistory py pd · c.intent_id)
      supersedeFresh py pd c occurred_at history

/-! ## `import_legacy_policy` -/

/-- The record of an imported entry, before its validators. -/
def legacyRecord (entry : LegacyPolicyImportEntry) (previous : Option ProviderIntentRecord)
    (occurred_at : DateTime) : ProviderIntentRecord where
  intent_id := entry.intent_id py
  record_version := (previous.map fun r => r.record_version + 1).getD 1
  provider_id := entry.provider_id
  resource_type := none
  resource_id := entry.resource_id
  incarnation_fingerprint := none
  intent_kind := entry.intent_kind
  intent_value := entry.intent_value
  lifecycle := .legacyUnbound
  provenance := .legacyPolicyImport
  source_reference := some entry.source_reference
  created_at := (previous.map (·.created_at)).getD occurred_at
  updated_at := occurred_at
  previous_record_version := previous.map (·.record_version)

/-- The outcome of an imported entry. -/
def legacyOutcome : Option ProviderIntentRecord → MutationOutcome
  | none => .created
  | some _ => .updated

/-- The import of one entry. -/
def importEntry (occurred_at : DateTime) (entry : LegacyPolicyImportEntry) : Store Unit := do
  let history ← inspect (validatedHistory py pd · (entry.intent_id py))
  let outcome := legacyOutcome history.getLast?
  let record ← newRecord py (legacyRecord py entry history.getLast? occurred_at)
  persistMutation py pd record { outcome, record } entry.source_reference entry.source_reference
    outcome.event occurred_at

/-- The loop over the entries. -/
def importEntries (occurred_at : DateTime) : List LegacyPolicyImportEntry → Store Unit
  | [] => pure ()
  | entry :: rest => do
    importEntry py pd occurred_at entry
    importEntries occurred_at rest

/-- `_legacy_records_digest` -/
def legacyRecordsDigest (source_references : List String) : String :=
  versioned "provider-intent-legacy-policy-records-v1"
    (py.sha256 (py.dumps (.arr ((Rows.orderBy id source_references).map .str))))

/-- The result of an import. -/
def importResult (c : LegacyPolicyImportCommand) : LegacyPolicyImportResult where
  outcome := "imported"
  import_id := c.import_id
  source_policy_digest := c.source_policy_digest
  record_count := c.entries.length
  records_digest := legacyRecordsDigest py (c.entries.map (·.source_reference))

/-- `_validate_legacy_import_replay` -/
def validateLegacyImportReplay (db : Database) (c : LegacyPolicyImportCommand)
    (stored : LegacyPolicyImportResult) : Except StoreError Unit := do
  demand (decide (stored.outcome = "imported" ∧ stored.import_id = c.import_id ∧
      stored.source_policy_digest = c.source_policy_digest ∧
      stored.record_count = c.entries.length))
    (.corruption "legacy import completion evidence is inconsistent")
  c.entries.forM fun entry => do
    let result ← replay py pd db entry.source_reference entry.source_reference
    demand (result.any fun result =>
        decide (result.record.source_reference = some entry.source_reference))
      (.corruption "legacy import record evidence is incomplete")
  demand (decide (stored.records_digest =
      legacyRecordsDigest py (c.entries.map (·.source_reference))))
    (.corruption "legacy import record digest is inconsistent")

/-- The replay of an import: its stored result, when its marker exists. -/
def replayImport (c : LegacyPolicyImportCommand) (db : Database) :
    Except StoreError (Option LegacyPolicyImportResult) :=
  match db.request c.import_id with
  | none => .ok none
  | some marker => do
    demand (decide (marker.request_digest = c.import_digest))
      (.conflict "legacy import ID has a different digest")
    let stored ← checked (pd.validateImportResultJson marker.result_json)
    validateLegacyImportReplay py pd db c stored
    return some stored

/-- The row that completes an import. -/
def storedMarker (c : LegacyPolicyImportCommand) (occurred_at : DateTime) : RequestRow where
  request_id := c.import_id
  request_digest := c.import_digest
  result_json := pd.dumpImportResult (importResult py c)
  created_at := py.isoformat occurred_at

/-- `import_legacy_policy` -/
def importLegacyPolicy (c : LegacyPolicyImportCommand) : Store LegacyPolicyImportResult := do
  let occurred_at ← Transaction.lift (canonicalNow now)
  guarded "legacy provider intent import encountered invalid stored state" do
    beginImmediate
    match ← inspect (replayImport py pd c) with
    | some stored => do
      commit
      return stored
    | none => do
      importEntries py pd occurred_at c.entries
      Transaction.lift (checked (importResult py c).modelValidate)
      execute (·.insertRequest (storedMarker py pd c occurred_at))
      commit
      return importResult py c

end Methods

/-! ## Runs -/

/-- A call of a writing method, with its clock reading and what its injector raises. -/
inductive Command (py : Python) where
  /-- `mutate_coordinate`, which observes the active state in the given contents. -/
  | mutate (command : CoordinateCommand) (injector : String → Option StoreError)
      (observed : Database) (now : DateTime)
  | put (command : PutCommand py) (now : DateTime)
  | supersede (command : SupersedeCommand py) (now : DateTime)
  | importLegacy (command : ImportCommand py) (now : DateTime)

/-- What a call returns. -/
inductive Answer where
  | coordinate (result : ProviderIntentCoordinateMutationResult)
  | mutation (result : ProviderIntentMutationResult)
  | imported (result : LegacyPolicyImportResult)
  deriving DecidableEq

section Run

variable {py : Python} (pd : Pydantic)

/-- The statements of a call. -/
def Command.block : Command py → Store Answer
  | .mutate c injector observed now => do
    return .coordinate (← mutateCoordinate py pd injector
      c.toProviderIntentCoordinateMutationCommand observed now)
  | .put c now => do
    return .mutation (← ProviderIntents.put py pd now c.toProviderIntentMutationCommand)
  | .supersede c now => do
    return .mutation (← ProviderIntents.supersede py pd now c.toProviderIntentSupersedeCommand)
  | .importLegacy c now => do
    return .imported (← importLegacyPolicy py pd now c.toLegacyPolicyImportCommand)

/-- A call, under the database errors that its statements meet. -/
def Command.perform (command : Command py) (faults : List Bool) (db : Database) :
    Except StoreError Answer × Database :=
  Transaction.withConnection db faults (command.block pd)

/-- The contents after a history of calls. -/
def runHistory (db : Database) : List (Command py × List Bool) → Database
  | [] => db
  | (command, faults) :: rest => runHistory (command.perform pd faults db).2 rest

end Run

end AtlasOS.ProviderIntents
