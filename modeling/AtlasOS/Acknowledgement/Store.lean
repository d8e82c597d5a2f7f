import Mathlib.Data.Prod.Lex
import AtlasOS.Acknowledgement.Receipt
import AtlasOS.Lib.Rows
import AtlasOS.Lib.Sqlite

/-!
# The queue receipt store

`ControlledWorkerQueueClaimLeaseAcknowledgementStore` keeps permanent
reservations, receipts, and marks of indeterminate attempts in three tables.
Every connection validates the whole journal before its block runs. The schema
with its marker is written once and no statement of the store changes it; the
bound of the database file is kept by SQLite, which raises when it is reached.
-/

namespace AtlasOS.Acknowledgement

open Sqlite Sqlite.Transaction

/-! ## Errors -/

/-- The codes of store errors and of failed results. -/
inductive ErrorCode where
  | unauthenticated
  | forbidden
  | installationCapabilityUnsupported
  | invalidRequest
  | internalError
  | unavailable
  | storeCorrupt
  | recordTooLarge
  | notFound
  | conflict
  | quotaExceeded
  | permanentSubjectReserved
  | idempotencyConflict
  | appendIndeterminate
  | reservationBeforeEffectFailed
  | v051AdmissionNotActive
  | v051AdmissionNotRecorded
  | evidenceStale
  | evidenceExpired
  | ambiguousState
  | callerSuppliedQueueSelector
  | callerSuppliedClaimToken
  | callerSuppliedLeaseToken
  | callerSuppliedAcknowledgementHandle
  | callerSuppliedCredential
  | callerSuppliedEndpoint
  | callerSuppliedCommand
  | unsupportedAuthority
  | inheritedLimitsMismatch
  | fingerprintMismatch
  | linkageMismatch
  | reservationBeforeEffectMissing
  | claimReceiptMismatch
  | leaseReceiptMismatch
  | acknowledgementReceiptMismatch
  | replayDetected
  | corruptAdapterEvidence
  deriving DecidableEq

/-- What a statement, a validator or a callback raises. -/
inductive Raised where
  /-- `ControlledWorkerQueueClaimLeaseAcknowledgementStoreError` -/
  | store (code : ErrorCode)
  /-- `sqlite3.OperationalError` -/
  | operational
  /-- Another `sqlite3.DatabaseError`. -/
  | integrity
  /-- Another `Exception`. -/
  | other
  /-- An exception that is no `Exception`. -/
  | base
  deriving DecidableEq

instance : DatabaseError Raised := ⟨.operational⟩

/-- Raise a store error unless a condition holds. -/
def demand (condition : Bool) (code : ErrorCode) : Except Raised Unit :=
  if condition then .ok () else .error (.store code)

@[simp] theorem demand_eq_ok {condition : Bool} {code : ErrorCode} :
    demand condition code = .ok () ↔ condition = true := by
  cases condition <;> simp [demand]

/-- A block whose exceptions are all reported as corruption. -/
def corruptUnless {ε α : Type} (result : Except ε α) : Except Raised α :=
  result.mapError fun _ => .store .storeCorrupt

@[simp] theorem corruptUnless_eq_ok {ε α : Type} {result : Except ε α} {a : α} :
    corruptUnless result = .ok a ↔ result = .ok a := by
  cases result <;> simp [corruptUnless, Except.mapError]

/-- A model validation made by the store. -/
def checked {α : Type} (result : Except PyError α) : Except Raised α := result.mapError fun _ => .other

@[simp] theorem checked_eq_ok {α : Type} {result : Except PyError α} {a : α} :
    checked result = .ok a ↔ result = .ok a := by
  cases result <;> simp [checked, Except.mapError]

/-! ## Tables -/

/-- A row of `cwqcla_receipt_reservations`. -/
structure ReservationRow where
  operator_id : String
  candidate_record_id : String
  admission_id : String
  idempotency_key_fingerprint : String
  request_fingerprint : String
  subject_fingerprint : String
  receipt_record_fingerprint : String
  admission_valid_until : String
  reserved_at : String
  idempotency_json : String
  reservation_json : String
  attempt_started : String
  deriving DecidableEq

/-- A row of `cwqcla_receipt_attempts`. -/
structure AttemptRow where
  operator_id : String
  admission_id : String
  audit_fingerprint : String
  audit_json : String
  deriving DecidableEq

/-- A row of `cwqcla_receipts`. -/
structure ReceiptRow where
  operator_id : String
  admission_id : String
  candidate_record_id : String
  idempotency_key_fingerprint : String
  request_fingerprint : String
  subject_fingerprint : String
  receipt_record_fingerprint : String
  v051_admission_record_fingerprint : String
  v051_admission_status_fingerprint : String
  v050_prerequisite_record_fingerprint : String
  v050_prerequisite_status_fingerprint : String
  v049_admission_record_fingerprint : String
  v049_admission_status_fingerprint : String
  binding_subject_fingerprint : String
  worker_subject_fingerprint : String
  queue_item_reference_fingerprint : String
  inherited_limits_fingerprint : String
  adapter_identity_fingerprint : String
  queue_subject_fingerprint : String
  claim_receipt_fingerprint : String
  lease_receipt_fingerprint : String
  acknowledgement_receipt_fingerprint : String
  recorded_at : String
  valid_until : String
  record_json : String
  audit_json : String
  deriving DecidableEq

/-- `(row["operator_id"], row["admission_id"])` -/
def ReservationRow.key (row : ReservationRow) : String × String :=
  (row.operator_id, row.admission_id)

/-- `(row["operator_id"], row["admission_id"])` -/
def ReceiptRow.key (row : ReceiptRow) : String × String := (row.operator_id, row.admission_id)

/-- `(row["operator_id"], row["admission_id"])` -/
def AttemptRow.key (row : AttemptRow) : String × String := (row.operator_id, row.admission_id)

/-- The primary key and the uniqueness constraints of the reservations. -/
def ReservationRow.clash (a b : ReservationRow) : Bool :=
  decide (a.operator_id = b.operator_id ∧ (a.admission_id = b.admission_id ∨
    a.idempotency_key_fingerprint = b.idempotency_key_fingerprint ∨
    a.subject_fingerprint = b.subject_fingerprint ∨
    a.receipt_record_fingerprint = b.receipt_record_fingerprint))

/-- The primary key and the uniqueness constraints of the receipts. -/
def ReceiptRow.clash (a b : ReceiptRow) : Bool :=
  decide (a.operator_id = b.operator_id ∧ (a.admission_id = b.admission_id ∨
    a.idempotency_key_fingerprint = b.idempotency_key_fingerprint ∨
    a.subject_fingerprint = b.subject_fingerprint ∨
    a.receipt_record_fingerprint = b.receipt_record_fingerprint))

/-- The primary key of the attempts. -/
def AttemptRow.clash (a b : AttemptRow) : Bool :=
  decide (a.key = b.key ∧ a.audit_fingerprint = b.audit_fingerprint)

/-- The contents of the store. -/
structure Database where
  reservations : List ReservationRow
  attempts : List AttemptRow
  receipts : List ReceiptRow
  deriving DecidableEq

namespace Database

/-- The contents after `_initialize` on a new file. -/
def created : Database := ⟨[], [], []⟩

/-- `SELECT * FROM cwqcla_receipt_reservations WHERE operator_id = ? AND admission_id = ?` -/
def reservation (db : Database) (key : String × String) : Option ReservationRow :=
  db.reservations.find? fun row => decide (row.key = key)

/-- `SELECT * FROM cwqcla_receipts WHERE operator_id = ? AND admission_id = ?` -/
def receipt (db : Database) (key : String × String) : Option ReceiptRow :=
  db.receipts.find? fun row => decide (row.key = key)

/-- `SELECT 1 FROM cwqcla_receipt_attempts WHERE operator_id = ? AND admission_id = ?` -/
def attempted (db : Database) (key : String × String) : Bool :=
  db.attempts.any fun row => decide (row.key = key)

/-- `INSERT INTO cwqcla_receipt_reservations` -/
def insertReservation (row : ReservationRow) (db : Database) : Except Raised Database :=
  match Rows.insert ReservationRow.clash row db.reservations with
  | some reservations => .ok { db with reservations }
  | none => .error .integrity

/-- `INSERT INTO cwqcla_receipts`, with its foreign key. -/
def insertReceipt (row : ReceiptRow) (db : Database) : Except Raised Database :=
  if db.reservations.any fun a => decide (a.key = row.key) then
    match Rows.insert ReceiptRow.clash row db.receipts with
    | some receipts => .ok { db with receipts }
    | none => .error .integrity
  else .error .integrity

/-- `INSERT OR IGNORE INTO cwqcla_receipt_attempts`, with its foreign key. -/
def insertAttempt (row : AttemptRow) (db : Database) : Except Raised Database :=
  if db.reservations.any fun a => decide (a.key = row.key) then
    .ok { db with attempts := (Rows.insert AttemptRow.clash row db.attempts).getD db.attempts }
  else .error .integrity

end Database

/-- The bounds of a store, which are fixed when it is constructed. -/
structure Bounds where
  max_records_per_operator : ℕ
  max_model_bytes : ℕ
  max_total_records : ℕ

/-! ## Checks of stored rows -/

section Checks

variable {pf : Platform} (pd : Pydantic pf) (bounds : Bounds)

/-- `_is_row_reservation_exact` -/
def isRowReservationExact (row : ReservationRow) (idempotency : IdempotencyReservationV1)
    (reservation : SubjectReservationV1) : Bool :=
  decide (row.operator_id = idempotency.operator_id ∧
    idempotency.operator_id = reservation.operator_id ∧
    row.candidate_record_id = idempotency.candidate_record_id ∧
    idempotency.candidate_record_id = reservation.candidate_record_id ∧
    row.admission_id = idempotency.admission_id ∧
    idempotency.admission_id = reservation.admission_id ∧
    row.idempotency_key_fingerprint = idempotency.idempotency_key_fingerprint.value ∧
    idempotency.idempotency_key_fingerprint.value = reservation.idempotency_key_fingerprint.value ∧
    row.request_fingerprint = idempotency.request_fingerprint.value ∧
    idempotency.request_fingerprint.value = reservation.request_fingerprint.value ∧
    row.subject_fingerprint = idempotency.subject_fingerprint.value ∧
    idempotency.subject_fingerprint.value = reservation.subject_fingerprint.value ∧
    row.receipt_record_fingerprint = idempotency.receipt_record_fingerprint.value ∧
    idempotency.receipt_record_fingerprint.value = reservation.receipt_record_fingerprint.value ∧
    row.reserved_at = idempotency.reserved_at.text ∧
    idempotency.reserved_at.text = reservation.reserved_at.text ∧
    row.reserved_at < row.admission_valid_until ∧
    row.idempotency_json = pd.dumpIdempotency idempotency ∧
    row.reservation_json = pd.dumpSubject reservation)

/-- The checks of `_validate_reservation`. -/
def reservationChecks (operator_id : String) (row : ReservationRow) : Except PyError Unit := do
  require (decide (operator_id = row.operator_id)) (.valueError "reservation missing")
  let _ ← expect (CivilSecond.parse row.admission_valid_until) (.valueError "invalid UtcSecond")
  require (decide (row.idempotency_json.utf8ByteSize ≤ bounds.max_model_bytes ∧
      row.reservation_json.utf8ByteSize ≤ bounds.max_model_bytes))
    (.valueError "persisted reservation exceeds bound")
  let idempotency ← pd.loadIdempotency row.idempotency_json
  let reservation ← pd.loadSubject row.reservation_json
  require (reservation.reservation_fingerprint == (← reservationFingerprint pf reservation))
    (.valueError "persisted reservation mismatch")
  require (decide (row.attempt_started = "true") &&
      isRowReservationExact pd row idempotency reservation)
    (.valueError "persisted reservation mismatch")

/-- `_validate_reservation` -/
def validateReservation (operator_id : String) (row : Option ReservationRow) :
    Except Raised ReservationRow :=
  match row with
  | none => .error (.store .storeCorrupt)
  | some row => do
    corruptUnless (reservationChecks pd bounds operator_id row)
    return row

/-- `_validate_terminal_audit` -/
def validateTerminalAudit (audit : AuditEvidenceV1) (row : ReservationRow) : Except Raised Unit :=
  demand (decide (audit.event = .indeterminate ∧ audit.outcome = .indeterminate ∧
    audit.recorded = false ∧ audit.operator_id = row.operator_id ∧
    audit.candidate_record_id = row.candidate_record_id ∧
    audit.admission_id = some row.admission_id ∧
    audit.subject_fingerprint.map (·.value) = some row.subject_fingerprint ∧
    audit.receipt_record_fingerprint.map (·.value) = some row.receipt_record_fingerprint ∧
    row.reserved_at ≤ audit.occurred_at.text)) .storeCorrupt

/-- `_validate_record_audit` -/
def validateRecordAudit (record : AcknowledgementV1) (audit : AuditEvidenceV1) :
    Except Raised Unit :=
  demand (decide (audit.event = .recorded ∧ audit.outcome = .recorded ∧ audit.recorded = true ∧
    audit.operator_id = record.operator_id ∧
    audit.candidate_record_id = record.candidate_record_id ∧
    audit.admission_id = some record.admission_id ∧
    audit.subject_fingerprint = some record.subject_fingerprint ∧
    audit.receipt_record_fingerprint = some record.receipt_record_fingerprint ∧
    audit.occurred_at = record.recorded_at)) .storeCorrupt

/-- `_validate_request` -/
def validateRequest (pf : Platform) (record : AcknowledgementV1) (row : ReservationRow) : Except Raised Unit := do
  let create ← checked
    (buildCreate pf record.admission record.admission_status record.adapter_receipt)
  let expected ← checked (requestFingerprint pf record.operator_id record.candidate_record_id create
    record.recorded_at record.idempotency_key_fingerprint)
  demand (decide (row.request_fingerprint = expected.value)) .storeCorrupt

/-- The comparisons of `_decode_record` between the columns and the record. -/
def isRowRecordExact (row : ReceiptRow) (reservation : ReservationRow)
    (record : AcknowledgementV1) : Bool :=
  decide (row.operator_id = record.operator_id ∧
    row.candidate_record_id = record.candidate_record_id ∧
    row.admission_id = record.admission_id ∧
    row.idempotency_key_fingerprint = reservation.idempotency_key_fingerprint ∧
    row.request_fingerprint = reservation.request_fingerprint ∧
    row.subject_fingerprint = reservation.subject_fingerprint ∧
    row.receipt_record_fingerprint = reservation.receipt_record_fingerprint ∧
    row.recorded_at = reservation.reserved_at ∧
    row.idempotency_key_fingerprint = record.idempotency_key_fingerprint.value ∧
    row.subject_fingerprint = record.subject_fingerprint.value ∧
    row.receipt_record_fingerprint = record.receipt_record_fingerprint.value ∧
    row.v051_admission_record_fingerprint = record.v051_admission_record_fingerprint.value ∧
    row.v051_admission_status_fingerprint = record.v051_admission_status_fingerprint.value ∧
    reservation.admission_valid_until = record.admission.valid_until.text ∧
    row.v050_prerequisite_record_fingerprint =
      record.v050_prerequisite_record_fingerprint.value ∧
    row.v050_prerequisite_status_fingerprint =
      record.v050_prerequisite_status_fingerprint.value ∧
    row.v049_admission_record_fingerprint = record.v049_admission_record_fingerprint.value ∧
    row.v049_admission_status_fingerprint = record.v049_admission_status_fingerprint.value ∧
    row.binding_subject_fingerprint = record.binding_subject_fingerprint.value ∧
    row.worker_subject_fingerprint = record.worker_subject_fingerprint.value ∧
    row.queue_item_reference_fingerprint = record.queue_item_reference_fingerprint.value ∧
    row.inherited_limits_fingerprint = record.inherited_limits_fingerprint.value ∧
    row.adapter_identity_fingerprint = record.adapter_identity_fingerprint.value ∧
    row.queue_subject_fingerprint = record.queue_subject_fingerprint.value ∧
    row.claim_receipt_fingerprint = record.claim_receipt_fingerprint.value ∧
    row.lease_receipt_fingerprint = record.lease_receipt_fingerprint.value ∧
    row.acknowledgement_receipt_fingerprint = record.acknowledgement_receipt_fingerprint.value ∧
    row.recorded_at = record.recorded_at.text ∧ row.valid_until = record.valid_until.text)

/-- `_decode_record` -/
def decodeRecord (operator_id : String) (row : ReceiptRow) (reservation : Option ReservationRow) :
    Except Raised AcknowledgementV1 := corruptUnless do
  let reservation ← validateReservation pd bounds operator_id reservation
  demand (decide (row.record_json.utf8ByteSize ≤ bounds.max_model_bytes ∧
    row.audit_json.utf8ByteSize ≤ bounds.max_model_bytes)) .storeCorrupt
  let record ← checked (pd.loadRecord row.record_json)
  let audit ← checked (pd.loadAudit row.audit_json)
  demand (decide (operator_id = row.operator_id)) .storeCorrupt
  demand (record.receipt_record_fingerprint == (← checked (receiptRecordFingerprint pf record)))
    .storeCorrupt
  demand (audit.audit_fingerprint == (← checked (auditFingerprint pf audit))) .storeCorrupt
  demand (isRowRecordExact row reservation record) .storeCorrupt
  validateRecordAudit record audit
  validateRequest pf record reservation
  return record

/-- The check of one row of the attempts. -/
def checkAttempt (db : Database) (row : AttemptRow) : Except Raised Unit :=
  match db.reservation row.key with
  | none => .error (.store .storeCorrupt)
  | some reservation => do
    demand (!(db.receipts.any fun a => decide (a.key = row.key))) .storeCorrupt
    let audit ← checked (pd.loadAudit row.audit_json)
    validateTerminalAudit audit reservation
    demand (decide (row.audit_fingerprint = audit.audit_fingerprint.value)) .storeCorrupt

/-- `len(value.encode()) <= self.max_model_bytes` -/
def fits (text : String) : Bool := decide (text.utf8ByteSize ≤ bounds.max_model_bytes)

/-- `_check_integrity`. The foreign keys are covered by the lookups of the reservations. -/
def checkIntegrity (db : Database) : Except Raised Unit := corruptUnless do
  demand (decide (db.reservations.length ≤ bounds.max_total_records)) .storeCorrupt
  demand (db.reservations.all fun row =>
    fits bounds row.idempotency_json && fits bounds row.reservation_json) .storeCorrupt
  demand (decide (db.receipts.length ≤ bounds.max_total_records)) .storeCorrupt
  demand (db.receipts.all fun row =>
    fits bounds row.record_json && fits bounds row.audit_json) .storeCorrupt
  demand (decide (db.attempts.length ≤ bounds.max_total_records)) .storeCorrupt
  demand (db.attempts.all fun row => fits bounds row.audit_json) .storeCorrupt
  db.reservations.forM fun row => do
    let _ ← validateReservation pd bounds row.operator_id (some row)
    demand (decide ((db.reservations.filter fun a => a.operator_id = row.operator_id).length ≤
      bounds.max_records_per_operator)) .storeCorrupt
  db.receipts.forM fun row => do
    let _ ← decodeRecord pd bounds row.operator_id row (db.reservation row.key)
  demand (decide (db.attempts.map AttemptRow.key).Nodup) .storeCorrupt
  db.attempts.forM (checkAttempt pd db)

end Checks

/-! ## Connections -/

/-- A block of statements of the store. -/
abbrev Store (α : Type) := Transaction Raised Database α

section Methods

variable {pf : Platform} (pd : Pydantic pf) (bounds : Bounds)

/-- The handler of `_connect`. -/
def connectError : Raised → Raised
  | .operational => .store .unavailable
  | .integrity => .store .storeCorrupt
  | e => e

/-- `_connect`: the whole journal is validated before the block runs. -/
def connect {α : Type} (block : Store α) : Store α :=
  MonadExcept.tryCatch
    (do
      beginImmediate
      inspect (checkIntegrity pd bounds)
      let a ← block
      commit
      return a)
    fun e => MonadExcept.throw (connectError e)

/-! ## Methods -/

/-- What `resolve_idempotency` reads. -/
def resolveRows (operator_id idempotency_key_fingerprint request_fingerprint
    admission_valid_until : String) (db : Database) :
    Except Raised (Option (ReservationRow × Option ReceiptRow)) :=
  match db.reservations.find? fun row => decide (row.operator_id = operator_id ∧
      row.idempotency_key_fingerprint = idempotency_key_fingerprint) with
  | none => .ok none
  | some reservation => do
    demand (decide (reservation.request_fingerprint = request_fingerprint ∧
      reservation.admission_valid_until = admission_valid_until)) .idempotencyConflict
    return some (reservation, db.receipt (operator_id, reservation.admission_id))

/-- What `resolve_idempotency` makes of the rows it read. -/
def resolveAnswer (operator_id : String) :
    Option (ReservationRow × Option ReceiptRow) → Except Raised (Option AcknowledgementV1)
  | none => .ok none
  | some (reservation, row) => do
    let _ ← validateReservation pd bounds operator_id (some reservation)
    match row with
    | none => .error (.store .appendIndeterminate)
    | some row => return some (← decodeRecord pd bounds operator_id row (some reservation))

/-- `resolve_idempotency` -/
def resolveIdempotency (operator_id idempotency_key_fingerprint request_fingerprint
    admission_valid_until : String) : Store (Option AcknowledgementV1) := do
  let rows ← connect pd bounds (inspect (resolveRows operator_id idempotency_key_fingerprint
    request_fingerprint admission_valid_until))
  Transaction.lift (resolveAnswer pd bounds operator_id rows)

/-- The arguments of `append`: of the four models it reads nothing but their dumps. -/
structure AppendArgs where
  /-- `record.model_dump_json()` -/
  record_json : String
  /-- `idempotency_reservation.model_dump_json()` -/
  idempotency_json : String
  /-- `subject_reservation.model_dump_json()` -/
  reservation_json : String
  /-- `audit_evidence.model_dump_json()` -/
  audit_json : String
  admission_valid_until : String
  force_indeterminate : Bool := false
  /-- What `revalidate` raises when it is called before the reservation. -/
  revalidate_reservation : Option Raised := none
  /-- What `revalidate` raises when it is called before the receipt. -/
  revalidate_receipt : Option Raised := none

/-- The models of an `append`, parsed from their dumps. -/
structure Parsed where
  record : AcknowledgementV1
  idempotency : IdempotencyReservationV1
  reservation : SubjectReservationV1
  audit : AuditEvidenceV1
  deriving DecidableEq

/-- The row that `append` proposes, and inserts as its reservation. -/
def proposed (p : Parsed) (args : AppendArgs) : ReservationRow where
  operator_id := p.record.operator_id
  candidate_record_id := p.record.candidate_record_id
  admission_id := p.record.admission_id
  idempotency_key_fingerprint := p.record.idempotency_key_fingerprint.value
  request_fingerprint := p.idempotency.request_fingerprint.value
  subject_fingerprint := p.record.subject_fingerprint.value
  receipt_record_fingerprint := p.record.receipt_record_fingerprint.value
  admission_valid_until := args.admission_valid_until
  reserved_at := p.record.recorded_at.text
  idempotency_json := args.idempotency_json
  reservation_json := args.reservation_json
  attempt_started := "true"

/-- `_is_exact_reservation` -/
def isExactReservation (row : ReservationRow) (p : Parsed) (admission_valid_until : String) : Bool :=
  decide (row.operator_id = p.record.operator_id ∧
    p.record.operator_id = p.reservation.operator_id ∧
    row.operator_id = p.idempotency.operator_id ∧
    row.candidate_record_id = p.record.candidate_record_id ∧
    p.record.candidate_record_id = p.reservation.candidate_record_id ∧
    p.reservation.candidate_record_id = p.idempotency.candidate_record_id ∧
    row.admission_id = p.record.admission_id ∧
    p.record.admission_id = p.reservation.admission_id ∧
    p.reservation.admission_id = p.idempotency.admission_id ∧
    row.idempotency_key_fingerprint = p.idempotency.idempotency_key_fingerprint.value ∧
    p.idempotency.idempotency_key_fingerprint.value =
      p.reservation.idempotency_key_fingerprint.value ∧
    row.request_fingerprint = p.idempotency.request_fingerprint.value ∧
    p.idempotency.request_fingerprint.value = p.reservation.request_fingerprint.value ∧
    row.subject_fingerprint = p.record.subject_fingerprint.value ∧
    p.record.subject_fingerprint.value = p.idempotency.subject_fingerprint.value ∧
    p.idempotency.subject_fingerprint.value = p.reservation.subject_fingerprint.value ∧
    row.receipt_record_fingerprint = p.record.receipt_record_fingerprint.value ∧
    p.record.receipt_record_fingerprint.value = p.idempotency.receipt_record_fingerprint.value ∧
    p.idempotency.receipt_record_fingerprint.value =
      p.reservation.receipt_record_fingerprint.value ∧
    row.admission_valid_until = admission_valid_until ∧
    row.reserved_at = p.record.recorded_at.text ∧
    row.idempotency_json = pd.dumpIdempotency p.idempotency ∧
    row.reservation_json = pd.dumpSubject p.reservation ∧ row.attempt_started = "true")

/-- The parsing of `_append`, which refuses dumps that are too long. -/
def parseArgs (args : AppendArgs) : Except Raised Parsed := do
  demand (fits bounds args.record_json && fits bounds args.idempotency_json &&
    fits bounds args.reservation_json && fits bounds args.audit_json) .recordTooLarge
  -- Reparse even frozen models: `model_construct` and `model_copy` bypass validation.
  let record ← checked (pd.loadRecord args.record_json)
  let idempotency ← checked (pd.loadIdempotency args.idempotency_json)
  let reservation ← checked (pd.loadSubject args.reservation_json)
  let audit ← checked (pd.loadAudit args.audit_json)
  return { record, idempotency, reservation, audit }

/-- The checks of `_append` before it opens a connection. -/
def prepare (args : AppendArgs) : Except Raised Parsed := do
  let p ← parseArgs pd bounds args
  demand (isExactReservation pd (proposed p args) p args.admission_valid_until) .storeCorrupt
  validateRequest pf p.record (proposed p args)
  demand (decide (args.admission_valid_until = p.record.admission.valid_until.text)) .storeCorrupt
  if args.force_indeterminate then validateTerminalAudit p.audit (proposed p args)
  else validateRecordAudit p.record p.audit
  return p

/-- The rows that share a key with the proposed reservation. -/
def reservedRows (p : Parsed) (db : Database) : List ReservationRow :=
  db.reservations.filter fun row => decide (row.operator_id = p.record.operator_id ∧
    (row.idempotency_key_fingerprint = p.idempotency.idempotency_key_fingerprint.value ∨
      row.subject_fingerprint = p.record.subject_fingerprint.value ∨
      row.admission_id = p.record.admission_id ∨
      row.receipt_record_fingerprint = p.record.receipt_record_fingerprint.value))

/-- The answer of `_reserve_attempt` when a key is reserved. -/
def reservedAnswer (p : Parsed) (args : AppendArgs) (db : Database) :
    Except Raised (Option AcknowledgementV1) :=
  match reservedRows p db with
  | [] => .ok none
  | [row] => do
    demand (decide (row.idempotency_key_fingerprint =
      p.idempotency.idempotency_key_fingerprint.value)) .permanentSubjectReserved
    demand (decide (row.request_fingerprint = p.idempotency.request_fingerprint.value ∧
      row.admission_valid_until = args.admission_valid_until)) .idempotencyConflict
    match db.receipt (p.record.operator_id, row.admission_id) with
    | none => .error (.store .appendIndeterminate)
    | some existing => some <$> decodeRecord pd bounds p.record.operator_id existing (some row)
  | _ => .error (.store .conflict)

/-- `revalidate()`, when it is given. -/
def callback (raised : Option Raised) : Except Raised Unit :=
  match raised with
  | none => .ok ()
  | some e => .error e

/-- The quotas of `_reserve_attempt`. -/
def quota (p : Parsed) (db : Database) : Except Raised Unit := do
  demand (decide (db.reservations.length < bounds.max_total_records)) .quotaExceeded
  demand (decide ((db.reservations.filter fun a =>
    a.operator_id = p.record.operator_id).length < bounds.max_records_per_operator)) .quotaExceeded

/-- The block of `_reserve_attempt`. -/
def reserveBlock (p : Parsed) (args : AppendArgs) : Store (Option AcknowledgementV1) := do
  match ← inspect (reservedAnswer pd bounds p args) with
  | some existing => return some existing
  | none => do
    Transaction.lift (callback args.revalidate_reservation)
    inspect (quota bounds p)
    execute (·.insertReservation (proposed p args))
    return none

/-- `_reserve_attempt` -/
def reserveAttempt (p : Parsed) (args : AppendArgs) : Store (Option AcknowledgementV1) :=
  connect pd bounds (reserveBlock pd bounds p args)

/-- The row of a receipt. -/
def receiptRow (p : Parsed) : ReceiptRow where
  operator_id := p.record.operator_id
  admission_id := p.record.admission_id
  candidate_record_id := p.record.candidate_record_id
  idempotency_key_fingerprint := p.reservation.idempotency_key_fingerprint.value
  request_fingerprint := p.reservation.request_fingerprint.value
  subject_fingerprint := p.record.subject_fingerprint.value
  receipt_record_fingerprint := p.record.receipt_record_fingerprint.value
  v051_admission_record_fingerprint := p.record.v051_admission_record_fingerprint.value
  v051_admission_status_fingerprint := p.record.v051_admission_status_fingerprint.value
  v050_prerequisite_record_fingerprint := p.record.v050_prerequisite_record_fingerprint.value
  v050_prerequisite_status_fingerprint := p.record.v050_prerequisite_status_fingerprint.value
  v049_admission_record_fingerprint := p.record.v049_admission_record_fingerprint.value
  v049_admission_status_fingerprint := p.record.v049_admission_status_fingerprint.value
  binding_subject_fingerprint := p.record.binding_subject_fingerprint.value
  worker_subject_fingerprint := p.record.worker_subject_fingerprint.value
  queue_item_reference_fingerprint := p.record.queue_item_reference_fingerprint.value
  inherited_limits_fingerprint := p.record.inherited_limits_fingerprint.value
  adapter_identity_fingerprint := p.record.adapter_identity_fingerprint.value
  queue_subject_fingerprint := p.record.queue_subject_fingerprint.value
  claim_receipt_fingerprint := p.record.claim_receipt_fingerprint.value
  lease_receipt_fingerprint := p.record.lease_receipt_fingerprint.value
  acknowledgement_receipt_fingerprint := p.record.acknowledgement_receipt_fingerprint.value
  recorded_at := p.record.recorded_at.text
  valid_until := p.record.valid_until.text
  record_json := pd.dumpRecord p.record
  audit_json := pd.dumpAudit p.audit

/-- What `_append_record` finds: the existing receipt, if any. -/
def appendAnswer (p : Parsed) (db : Database) : Except Raised (Option AcknowledgementV1) := do
  let key := (p.record.operator_id, p.record.admission_id)
  match db.reservation key with
  | none => .error (.store .reservationBeforeEffectFailed)
  | some reservation => do
    demand (!db.attempted key) .appendIndeterminate
    match db.receipt key with
    | none => return none
    | some row => some <$> decodeRecord pd bounds p.record.operator_id row (some reservation)

/-- The block of `_append_record`. -/
def appendBlock (p : Parsed) (args : AppendArgs) : Store (AcknowledgementV1 × Bool) := do
  match ← inspect (appendAnswer pd bounds p) with
  | some existing => return (existing, false)
  | none => do
    Transaction.lift (callback args.revalidate_receipt)
    execute (·.insertReceipt (receiptRow pd p))
    return (p.record, true)

/-- `_append_record` -/
def appendRecord (p : Parsed) (args : AppendArgs) : Store (AcknowledgementV1 × Bool) :=
  connect pd bounds (appendBlock pd bounds p args)

/-- What `mark_indeterminate` finds: the mark to insert, unless there is one. -/
def markAnswer (operator_id admission_id audit_json : String) (db : Database) :
    Except Raised (Option AttemptRow) :=
  match db.reservation (operator_id, admission_id) with
  | none => .error (.store .notFound)
  | some row => do
    let _ ← validateReservation pd bounds operator_id (some row)
    let audit ← checked (pd.loadAudit audit_json)
    validateTerminalAudit audit row
    demand (db.receipt (operator_id, admission_id)).isNone .conflict
    if db.attempted (operator_id, admission_id) then return none
    return some { operator_id, admission_id, audit_fingerprint := audit.audit_fingerprint.value
                  audit_json }

/-- The block of `mark_indeterminate`. -/
def markBlock (operator_id admission_id audit_json : String) : Store Unit := do
  match ← inspect (markAnswer pd bounds operator_id admission_id audit_json) with
  | none => return ()
  | some row => execute (·.insertAttempt row)

/-- `mark_indeterminate`, given the dump of the audit evidence. -/
def markIndeterminate (operator_id admission_id audit_json : String) : Store Unit := do
  Transaction.lift (demand (fits bounds audit_json) .recordTooLarge)
  connect pd bounds (markBlock pd bounds operator_id admission_id audit_json)

/-- `get` -/
def getReceipt (operator_id admission_id : String) : Store AcknowledgementV1 := do
  let rows ← connect pd bounds (Transaction.select fun db =>
    (db.receipt (operator_id, admission_id), db.reservation (operator_id, admission_id)))
  Transaction.lift <|
    match rows with
    | (some row, some reservation) => decodeRecord pd bounds operator_id row (some reservation)
    | _ => .error (.store .notFound)

/-- The receipts that `list_owned` reads, in the order of `(recorded_at, admission_id)`. -/
def ownedRows (operator_id candidate_record_id : String) (db : Database) : List ReceiptRow :=
  let owned := db.receipts.filter fun row =>
    decide (row.operator_id = operator_id ∧ row.candidate_record_id = candidate_record_id)
  (Rows.orderBy (fun row : ReceiptRow => toLex (row.recorded_at, row.admission_id)) owned).take
    (bounds.max_records_per_operator + 1)

/-- `list_owned` -/
def listOwned (operator_id candidate_record_id : String) : Store (List AcknowledgementV1) := do
  let (rows, reservations) ← connect pd bounds (Transaction.select fun db =>
    (ownedRows bounds operator_id candidate_record_id db,
      db.reservations.filter fun row => decide (row.operator_id = operator_id)))
  Transaction.lift <| do
    demand (decide (rows.length ≤ bounds.max_records_per_operator)) .quotaExceeded
    rows.mapM fun row => decodeRecord pd bounds operator_id row
      (reservations.find? fun a => decide (a.admission_id = row.admission_id))

/-- The handler of `append`: another exception than a store error is reported as corruption. -/
def appendError : Raised → Raised
  | .operational | .integrity | .other => .store .storeCorrupt
  | e => e

/-- The handler around `_append_record`. -/
def appendRecordError : Raised → Raised
  | .base => .base
  | _ => .store .appendIndeterminate

/-- `append`, which opens one connection for the reservation and one for what follows it. Each
list of faults tells which statements of its connection raise. -/
def append (args : AppendArgs) (reserveFaults appendFaults : List Bool) (db : Database) :
    Except Raised (AcknowledgementV1 × Bool) × Database :=
  match prepare pd bounds args with
  | .error e => (.error (appendError e), db)
  | .ok p =>
    match withConnection db reserveFaults (reserveAttempt pd bounds p args) with
    | (.error e, reserved) => (.error (appendError e), reserved)
    | (.ok (some existing), reserved) => (.ok (existing, false), reserved)
    | (.ok none, reserved) =>
      if args.force_indeterminate then
        match withConnection reserved appendFaults (markIndeterminate pd bounds
          p.record.operator_id p.record.admission_id (pd.dumpAudit p.audit)) with
        | (.error e, marked) => (.error (appendError e), marked)
        | (.ok (), marked) => (.error (.store .appendIndeterminate), marked)
      else
        match withConnection reserved appendFaults (appendRecord pd bounds p args) with
        | (.error e, appended) => (.error (appendRecordError e), appended)
        | (.ok answer, appended) => (.ok answer, appended)

/-- The contents after an `append` whose process crashed between its two connections. -/
def appendCrashed (args : AppendArgs) (faults : List Bool) (db : Database) : Database :=
  match prepare pd bounds args with
  | .error _ => db
  | .ok p => (withConnection db faults (reserveAttempt pd bounds p args)).2

end Methods

end AtlasOS.Acknowledgement
