import AtlasOS.Acknowledgement.Contract

/-!
# Queue receipts

The receipt record with its validator, the two reservations and the audit
evidence that are stored with it, the status derived from it, and the builders
of the service.
-/

namespace AtlasOS.Acknowledgement

/-! ## The receipt record -/

/-- `ControlledWorkerQueueClaimLeaseAcknowledgementV1` -/
structure AcknowledgementV1 extends ClosedAuthorityV1 where
  admission_id : String
  operator_id : String
  candidate_record_id : String
  recorded_at : UtcSecond
  valid_until : UtcSecond
  blockers : List String := SUCCESS_BLOCKERS
  admission : AdmissionV1
  admission_status : AdmissionStatusV1
  adapter_receipt : AdapterReceiptFactsV1
  v051_admission_record_fingerprint : FingerprintV1
  v051_admission_status_fingerprint : FingerprintV1
  v050_prerequisite_record_fingerprint : FingerprintV1
  v050_prerequisite_status_fingerprint : FingerprintV1
  v049_admission_record_fingerprint : FingerprintV1
  v049_admission_status_fingerprint : FingerprintV1
  binding_subject_fingerprint : FingerprintV1
  worker_subject_fingerprint : FingerprintV1
  queue_item_reference_fingerprint : FingerprintV1
  inherited_limits_fingerprint : FingerprintV1
  adapter_identity_fingerprint : FingerprintV1
  queue_subject_fingerprint : FingerprintV1
  claim_receipt_fingerprint : FingerprintV1
  lease_receipt_fingerprint : FingerprintV1
  acknowledgement_receipt_fingerprint : FingerprintV1
  subject_fingerprint : FingerprintV1
  idempotency_key_fingerprint : FingerprintV1
  receipt_record_fingerprint : FingerprintV1
  deriving DecidableEq

/-- The dump of a receipt without its own fingerprint. -/
def AcknowledgementV1.unsigned (r : AcknowledgementV1) : Fields :=
  r.fields ++
    [("schema", .str "controlled-worker-queue-claim-lease-acknowledgement-v1"),
     ("admission_id", .str r.admission_id), ("operator_id", .str r.operator_id),
     ("candidate_record_id", .str r.candidate_record_id),
     ("recorded_at", .str r.recorded_at.text), ("valid_until", .str r.valid_until.text),
     ("lifecycle", .str "active"), ("receipt_state", .str "recorded"),
     ("eligibility", .str RECEIPT_RECORDED), ("blockers", .arr (r.blockers.map .str)),
     ("controlled_worker_queue_claim_lease_acknowledgement_admission", r.admission.payload),
     ("controlled_worker_queue_claim_lease_acknowledgement_admission_status",
       r.admission_status.payload),
     ("adapter_receipt", r.adapter_receipt.payload),
     ("v051_admission_record_fingerprint", r.v051_admission_record_fingerprint.payload),
     ("v051_admission_status_fingerprint", r.v051_admission_status_fingerprint.payload),
     ("v050_prerequisite_record_fingerprint", r.v050_prerequisite_record_fingerprint.payload),
     ("v050_prerequisite_status_fingerprint", r.v050_prerequisite_status_fingerprint.payload),
     ("v049_admission_record_fingerprint", r.v049_admission_record_fingerprint.payload),
     ("v049_admission_status_fingerprint", r.v049_admission_status_fingerprint.payload),
     ("binding_subject_fingerprint", r.binding_subject_fingerprint.payload),
     ("worker_subject_fingerprint", r.worker_subject_fingerprint.payload),
     ("queue_item_reference_fingerprint", r.queue_item_reference_fingerprint.payload),
     ("inherited_limits_fingerprint", r.inherited_limits_fingerprint.payload),
     ("adapter_identity_fingerprint", r.adapter_identity_fingerprint.payload),
     ("queue_subject_fingerprint", r.queue_subject_fingerprint.payload),
     ("claim_receipt_fingerprint", r.claim_receipt_fingerprint.payload),
     ("lease_receipt_fingerprint", r.lease_receipt_fingerprint.payload),
     ("acknowledgement_receipt_fingerprint", r.acknowledgement_receipt_fingerprint.payload),
     ("subject_fingerprint", r.subject_fingerprint.payload),
     ("idempotency_key_fingerprint", r.idempotency_key_fingerprint.payload),
     ("controlled_queue_claim_recorded", .bool true),
     ("controlled_queue_lease_recorded", .bool true),
     ("controlled_queue_acknowledgement_recorded", .bool true), (RECEIPT_RECORDED, .bool true)]

/-- The dump of a receipt. -/
def AcknowledgementV1.payload (r : AcknowledgementV1) : Json :=
  .obj (r.unsigned ++ [("receipt_record_fingerprint", r.receipt_record_fingerprint.payload)])

section Record

variable (pf : Platform)

/-- `receipt_subject_fingerprint` -/
def receiptSubjectFingerprint (r : AcknowledgementV1) : Except PyError FingerprintV1 :=
  fingerprint pf "atlas:controlled-worker-queue-claim-lease-acknowledgement-subject:v1"
    (.obj [("operator_id", .str r.operator_id),
      ("candidate_record_id", .str r.candidate_record_id),
      ("admission_id", .str r.admission.admission_id),
      ("v051_admission_record_fingerprint", r.admission.admission_record_fingerprint.payload),
      ("v051_admission_status_fingerprint", r.admission_status.status_fingerprint.payload),
      ("v050_prerequisite_record_fingerprint", r.admission.prerequisite_record_fingerprint.payload),
      ("v050_prerequisite_status_fingerprint", r.admission.prerequisite_status_fingerprint.payload),
      ("v049_admission_record_fingerprint", r.admission.v049_admission_record_fingerprint.payload),
      ("v049_admission_status_fingerprint", r.admission.v049_admission_status_fingerprint.payload),
      ("binding_subject_fingerprint", r.admission.binding_subject_fingerprint.payload),
      ("worker_subject_fingerprint", r.admission.worker_subject_fingerprint.payload),
      ("queue_item_reference_fingerprint", r.admission.queue_item_reference_fingerprint.payload),
      ("inherited_limits_fingerprint", r.admission.inherited_limits_fingerprint.payload),
      ("adapter_identity_fingerprint", r.adapter_receipt.adapter_identity_fingerprint.payload),
      ("queue_subject_fingerprint", r.adapter_receipt.queue_subject_fingerprint.payload),
      ("claim_receipt_fingerprint", r.adapter_receipt.claim_receipt_fingerprint.payload),
      ("lease_receipt_fingerprint", r.adapter_receipt.lease_receipt_fingerprint.payload),
      ("acknowledgement_receipt_fingerprint",
        r.adapter_receipt.acknowledgement_receipt_fingerprint.payload)])

/-- `receipt_record_fingerprint` -/
def receiptRecordFingerprint (r : AcknowledgementV1) : Except PyError FingerprintV1 :=
  fingerprint pf "atlas:controlled-worker-queue-claim-lease-acknowledgement-record:v1"
    (.obj r.unsigned)

/-- `recorded < expiry <= recorded + timedelta(seconds=30)` -/
def expiresSoon (recorded expiry : UtcSecond) : Except PyError Bool :=
  if recorded.instant < expiry.instant then do
    require (recorded.instant + MAX_FRESHNESS_SECONDS ≤ CivilSecond.maxInstant) .overflowError
    return decide (expiry.instant ≤ recorded.instant + MAX_FRESHNESS_SECONDS)
  else
    return false

/-- The facts of a receipt as they stood when it was written. -/
def AcknowledgementV1.facts (r : AcknowledgementV1) (create : CreateV1) : ValidationInputV1 where
  operator_id := r.operator_id
  candidate_record_id := r.candidate_record_id
  authority :=
    { authenticated_operator_id := r.operator_id, request_received_at := r.recorded_at }
  create
  admission := r.admission
  admission_status := r.admission_status
  adapter_receipt := r.adapter_receipt

/-- `exact` -/
def AcknowledgementV1.exact (r : AcknowledgementV1) : Except PyError Unit := do
  require (r.blockers == SUCCESS_BLOCKERS)
    (.valueError "v0.52 receipt blockers must remain fixed")
  require (← expiresSoon r.recorded_at r.valid_until)
    (.valueError "v0.52 receipt expiry exceeds freshness bound")
  require (decide (r.operator_id = r.admission.operator_id ∧
      r.operator_id = r.admission_status.operator_id ∧
      r.candidate_record_id = r.admission.candidate_record_id ∧
      r.candidate_record_id = r.admission_status.candidate_record_id ∧
      r.admission_id = r.admission.admission_id ∧
      r.admission_status.admission_id = r.admission.admission_id ∧
      r.admission_status.admission_record_fingerprint = r.admission.admission_record_fingerprint ∧
      r.valid_until.text ≤ r.admission.valid_until.text ∧
      r.valid_until.text ≤ r.admission_status.valid_until.text))
    (.valueError "v0.52 receipt ownership or linkage mismatch")
  require (decide (r.v051_admission_record_fingerprint = r.admission.admission_record_fingerprint ∧
      r.v051_admission_status_fingerprint = r.admission_status.status_fingerprint ∧
      r.v050_prerequisite_record_fingerprint = r.admission.prerequisite_record_fingerprint ∧
      r.v050_prerequisite_status_fingerprint = r.admission.prerequisite_status_fingerprint ∧
      r.v049_admission_record_fingerprint = r.admission.v049_admission_record_fingerprint ∧
      r.v049_admission_status_fingerprint = r.admission.v049_admission_status_fingerprint ∧
      r.binding_subject_fingerprint = r.admission.binding_subject_fingerprint ∧
      r.worker_subject_fingerprint = r.admission.worker_subject_fingerprint ∧
      r.queue_item_reference_fingerprint = r.admission.queue_item_reference_fingerprint ∧
      r.inherited_limits_fingerprint = r.admission.inherited_limits_fingerprint ∧
      r.adapter_identity_fingerprint = r.adapter_receipt.adapter_identity_fingerprint ∧
      r.queue_subject_fingerprint = r.adapter_receipt.queue_subject_fingerprint))
    (.valueError "v0.52 receipt subject or limits mismatch")
  require (r.queue_subject_fingerprint == (← queueSubjectFingerprint pf r.admission))
    (.valueError "v0.52 receipt subject or limits mismatch")
  require (decide (r.claim_receipt_fingerprint = r.adapter_receipt.claim_receipt_fingerprint ∧
      r.lease_receipt_fingerprint = r.adapter_receipt.lease_receipt_fingerprint ∧
      r.acknowledgement_receipt_fingerprint =
        r.adapter_receipt.acknowledgement_receipt_fingerprint))
    (.valueError "v0.52 receipt subject or limits mismatch")
  -- Persisted receipts must satisfy the same P1 facts at their write time.
  (r.facts (← buildCreate pf r.admission r.admission_status r.adapter_receipt)).exact pf
  require (r.subject_fingerprint == (← receiptSubjectFingerprint pf r))
    (.valueError "v0.52 receipt subject fingerprint mismatch")
  require (r.receipt_record_fingerprint == (← receiptRecordFingerprint pf r))
    (.valueError "v0.52 receipt record fingerprint mismatch")
  bounded pf r.payload

variable {pf}

/-- What a receipt that passed its validator satisfies. -/
structure AcknowledgementV1.Sound (pf : Platform) (r : AcknowledgementV1) : Prop where
  expiry : r.recorded_at.instant < r.valid_until.instant
  operator : r.operator_id = r.admission.operator_id
  admission : r.admission_id = r.admission.admission_id
  valid_until : r.valid_until.text ≤ r.admission.valid_until.text
  record : receiptRecordFingerprint pf r = .ok r.receipt_record_fingerprint

theorem AcknowledgementV1.sound_of_exact {r : AcknowledgementV1} (h : r.exact pf = .ok ()) :
    r.Sound pf := by
  simp only [AcknowledgementV1.exact, bind_eq_ok, require_eq_ok, exists_unit, beq_iff_eq,
    decide_eq_true_eq] at h
  obtain ⟨-, soon, hsoon, rfl, ⟨howner, -, -, -, hadmission, -, -, hvalid, -⟩, -, -, -, -, -, -, -,
    -, -, -, -, fp, hfp, heq, -⟩ := h
  refine ⟨?_, howner, hadmission, hvalid, heq ▸ hfp⟩
  unfold expiresSoon at hsoon
  split at hsoon
  · assumption
  · cases hsoon

end Record

/-! ## Reservations -/

/-- `IdempotencyReservationV1`, which has no validator of its own. -/
structure IdempotencyReservationV1 where
  operator_id : String
  candidate_record_id : String
  idempotency_key_fingerprint : FingerprintV1
  request_fingerprint : FingerprintV1
  subject_fingerprint : FingerprintV1
  admission_id : String
  receipt_record_fingerprint : FingerprintV1
  reserved_at : UtcSecond
  deriving DecidableEq

/-- `SubjectReservationV1` -/
structure SubjectReservationV1 where
  operator_id : String
  candidate_record_id : String
  idempotency_key_fingerprint : FingerprintV1
  request_fingerprint : FingerprintV1
  subject_fingerprint : FingerprintV1
  admission_id : String
  receipt_record_fingerprint : FingerprintV1
  reserved_at : UtcSecond
  reservation_fingerprint : FingerprintV1
  deriving DecidableEq

/-- The dump of a subject reservation without its own fingerprint. -/
def SubjectReservationV1.unsigned (s : SubjectReservationV1) : Fields :=
  [("schema", .str "controlled-worker-queue-claim-lease-acknowledgement-subject-reservation-v1"),
   ("operator_id", .str s.operator_id), ("candidate_record_id", .str s.candidate_record_id),
   ("idempotency_key_fingerprint", s.idempotency_key_fingerprint.payload),
   ("request_fingerprint", s.request_fingerprint.payload),
   ("subject_fingerprint", s.subject_fingerprint.payload),
   ("admission_id", .str s.admission_id),
   ("receipt_record_fingerprint", s.receipt_record_fingerprint.payload),
   ("reserved_at", .str s.reserved_at.text), ("reservation_state", .str "reserved"),
   ("permanent", .bool true)]

/-! ## Audit evidence -/

/-- The events of `AuditEvidenceV1`. -/
inductive AuditEvent where
  | recorded
  | read
  | indeterminate
  deriving DecidableEq

instance : StrEnum AuditEvent where
  value
    | .recorded => "controlled_worker_queue_claim_lease_acknowledgement_recorded"
    | .read => "controlled_worker_queue_claim_lease_acknowledgement_read"
    | .indeterminate => "controlled_worker_queue_claim_lease_acknowledgement_indeterminate"
  members := [.recorded, .read, .indeterminate]
  find_value s := by cases s <;> simp

/-- The outcomes of `AuditEvidenceV1`. -/
inductive AuditOutcome where
  | recorded
  | exactDuplicate
  | read
  | blocked
  | indeterminate
  deriving DecidableEq

instance : StrEnum AuditOutcome where
  value
    | .recorded => "recorded"
    | .exactDuplicate => "exact_duplicate"
    | .read => "read"
    | .blocked => "blocked"
    | .indeterminate => "indeterminate"
  members := [.recorded, .exactDuplicate, .read, .blocked, .indeterminate]
  find_value s := by cases s <;> simp

/-- `AuditEvidenceV1` -/
structure AuditEvidenceV1 extends ClosedAuthorityV1 where
  event : AuditEvent
  audit_id : String
  operator_id : String
  candidate_record_id : String
  admission_id : Option String
  occurred_at : UtcSecond
  outcome : AuditOutcome
  correlation_fingerprint : FingerprintV1
  subject_fingerprint : Option FingerprintV1
  receipt_record_fingerprint : Option FingerprintV1
  audit_fingerprint : FingerprintV1
  /-- `controlled_worker_queue_claim_lease_acknowledgement_recorded` -/
  recorded : Bool := false
  deriving DecidableEq

/-- The dump of audit evidence without its own fingerprint. -/
def AuditEvidenceV1.unsigned (a : AuditEvidenceV1) : Fields :=
  a.fields ++
    [("schema", .str "controlled-worker-queue-claim-lease-acknowledgement-audit-v1"),
     ("event", .str (StrEnum.value a.event)), ("audit_id", .str a.audit_id),
     ("operator_id", .str a.operator_id), ("candidate_record_id", .str a.candidate_record_id),
     ("admission_id", Json.ofOption a.admission_id), ("occurred_at", .str a.occurred_at.text),
     ("outcome", .str (StrEnum.value a.outcome)),
     ("correlation_fingerprint", a.correlation_fingerprint.payload),
     ("subject_fingerprint", Json.nullable FingerprintV1.payload a.subject_fingerprint),
     ("receipt_record_fingerprint",
       Json.nullable FingerprintV1.payload a.receipt_record_fingerprint),
     (RECEIPT_RECORDED, .bool a.recorded)]

section Evidence

variable (pf : Platform)

/-- `reservation_fingerprint` -/
def reservationFingerprint (s : SubjectReservationV1) : Except PyError FingerprintV1 :=
  fingerprint pf "atlas:controlled-worker-queue-claim-lease-acknowledgement-reservation:v1"
    (.obj s.unsigned)

/-- `SubjectReservationV1.exact` -/
def SubjectReservationV1.exact (s : SubjectReservationV1) : Except PyError Unit := do
  require (s.reservation_fingerprint == (← reservationFingerprint pf s))
    (.valueError "v0.52 receipt reservation fingerprint mismatch")

/-- `audit_fingerprint` -/
def auditFingerprint (a : AuditEvidenceV1) : Except PyError FingerprintV1 :=
  fingerprint pf "atlas:controlled-worker-queue-claim-lease-acknowledgement-audit:v1"
    (.obj a.unsigned)

/-- `AuditEvidenceV1.exact` -/
def AuditEvidenceV1.exact (a : AuditEvidenceV1) : Except PyError Unit := do
  require (a.audit_fingerprint == (← auditFingerprint pf a))
    (.valueError "v0.52 receipt audit fingerprint mismatch")

end Evidence

/-! ## The JSON codec -/

/-- The JSON texts that pydantic derives for the stored models. -/
structure Pydantic (pf : Platform) where
  dumpRecord : AcknowledgementV1 → String
  loadRecord : String → Except PyError AcknowledgementV1
  dumpIdempotency : IdempotencyReservationV1 → String
  loadIdempotency : String → Except PyError IdempotencyReservationV1
  dumpSubject : SubjectReservationV1 → String
  loadSubject : String → Except PyError SubjectReservationV1
  dumpAudit : AuditEvidenceV1 → String
  loadAudit : String → Except PyError AuditEvidenceV1
  /-- A model that was loaded has passed its validator. -/
  exact_loadRecord : ∀ text r, loadRecord text = .ok r → r.exact pf = .ok ()
  exact_loadSubject : ∀ text s, loadSubject text = .ok s → s.exact pf = .ok ()
  exact_loadAudit : ∀ text a, loadAudit text = .ok a → a.exact pf = .ok ()
  /-- A model that was loaded is loaded from its own dump. -/
  load_dumpRecord : ∀ text r, loadRecord text = .ok r → loadRecord (dumpRecord r) = .ok r
  load_dumpAudit : ∀ text a, loadAudit text = .ok a → loadAudit (dumpAudit a) = .ok a
  /-- What is loaded from the dump of a model is that model. -/
  eq_of_loadRecord : ∀ r r', loadRecord (dumpRecord r) = .ok r' → r' = r
  eq_of_loadIdempotency : ∀ i i', loadIdempotency (dumpIdempotency i) = .ok i' → i' = i
  eq_of_loadSubject : ∀ s s', loadSubject (dumpSubject s) = .ok s' → s' = s
  eq_of_loadAudit : ∀ a a', loadAudit (dumpAudit a) = .ok a' → a' = a

end AtlasOS.Acknowledgement
