import AtlasOS.Lib.Calendar
import AtlasOS.Lib.CanonicalJson

/-!
# Queue receipt contracts

The models of `controlled_worker_queue_claim_lease_acknowledgement/contract.py`
with their validators and builders. Their common name prefix
`ControlledWorkerQueueClaimLeaseAcknowledgement` is left out. Fields whose type
admits one value only are written in the payloads and not kept; of the v0.51
admission and its status, what this boundary reads is kept and the rest is the
opaque `lineage`.
-/

namespace AtlasOS.Acknowledgement

/-! ## Vocabulary -/

/-- `UtcSecond` -/
abbrev UtcSecond := CivilSecond

/-- `MAX_CREATE_BYTES` -/
def MAX_CREATE_BYTES : ℕ := 16 * 1024

/-- `MAX_CREATE_NESTING` -/
def MAX_CREATE_NESTING : ℕ := 16

/-- `MAX_MODEL_BYTES` -/
def MAX_MODEL_BYTES : ℕ := 192 * 1024

/-- `MAX_FRESHNESS_SECONDS` -/
def MAX_FRESHNESS_SECONDS : ℕ := 30

/-- `PERMISSION` -/
def PERMISSION : String :=
  "installation.execution.controlled_worker_queue_claim_lease_acknowledgement.evaluate"

/-- `SCOPE` -/
def SCOPE : String := "controlled_worker_queue_claim_lease_acknowledgement_only"

/-- The eligibility of a recorded v0.51 admission. -/
def ADMISSION_RECORDED : String :=
  "controlled_worker_queue_claim_lease_acknowledgement_admission_recorded"

/-- The eligibility of a recorded receipt. -/
def RECEIPT_RECORDED : String := "controlled_worker_queue_claim_lease_acknowledgement_recorded"

/-- `SUCCESS_BLOCKERS` -/
def SUCCESS_BLOCKERS : List String :=
  ["worker_activation_runtime_not_defined", "store_contact_not_defined",
   "runtime_contact_not_defined", "worker_start_admission_not_defined",
   "worker_start_not_defined", "agent_invocation_not_defined",
   "execution_start_boundary_not_defined"]

/-- `V051_SUCCESS_BLOCKERS` -/
def V051_SUCCESS_BLOCKERS : List String :=
  ["queue_adapter_not_defined", "queue_claim_not_defined", "queue_lease_not_defined",
   "queue_ack_not_defined"] ++ SUCCESS_BLOCKERS

/-- `[A-Za-z0-9]` -/
def isAlnum (c : Char) : Bool :=
  ('a' ≤ c && c ≤ 'z') || ('A' ≤ c && c ≤ 'Z') || ('0' ≤ c && c ≤ '9')

/-- `OperatorId`: `[A-Za-z0-9][A-Za-z0-9._:-]{0,127}` -/
def isOperatorId (text : String) : Bool :=
  match text.toList with
  | [] => false
  | c :: rest => isAlnum c && decide (rest.length ≤ 127) &&
      rest.all fun c => isAlnum c || c ∈ ['.', '_', ':', '-']

/-- `CanonicalUuid4`: `[0-9a-f]{8}-[0-9a-f]{4}-4[0-9a-f]{3}-[89ab][0-9a-f]{3}-[0-9a-f]{12}` -/
def isUuid4 (text : String) : Bool :=
  decide (text.toList.length = 36) && (List.range 36).all fun i =>
    let c := text.toList.getD i ' '
    if i ∈ [8, 13, 18, 23] then c = '-'
    else if i = 14 then c = '4'
    else if i = 19 then c ∈ ['8', '9', 'a', 'b']
    else c ∈ "0123456789abcdef".toList

/-- `_visible`: 16 to 128 characters from the blank to the tilde. -/
def isVisible (text : String) : Bool :=
  decide (16 ≤ text.length ∧ text.length ≤ 128) && text.toList.all fun c => ' ' ≤ c && c ≤ '~'

/-! ## Fingerprints -/

/-- `FingerprintV1`; its algorithm and canonicalization are constants. -/
structure FingerprintV1 where
  value : String
  hex : isHexDigest value = true
  deriving DecidableEq

/-- The dump of a fingerprint. -/
def FingerprintV1.payload (f : FingerprintV1) : Json :=
  .obj [("algorithm", .str "sha256"), ("canonicalization", .str "atlas-jcs-nfc-v1"),
    ("value", .str f.value)]

section Fingerprint

variable (pf : Platform)

/-- `fingerprint(domain, value)` -/
def fingerprint (domain : String) (value : Json) : Except PyError FingerprintV1 :=
  match h : domainDigest pf domain value with
  | .ok digest => .ok ⟨digest, isHexDigest_of_domainDigest h⟩
  | .error e => .error e

/-- `_bounded`: the canonical text of a model has at most 192 KiB. -/
def bounded (payload : Json) : Except PyError Unit := do
  let text ← canonicalJson pf payload
  require (text.utf8ByteSize ≤ MAX_MODEL_BYTES) (.valueError "contract envelope exceeds bound")

end Fingerprint

/-! ## Closed authority -/

/-- The flags of `ClosedAuthorityV1` that admit only `False`. -/
def CLOSED_FLAGS : List String :=
  ["caller_supplied_credentials_allowed", "caller_supplied_endpoint_allowed",
   "caller_supplied_command_allowed", "caller_supplied_payload_allowed",
   "caller_supplied_queue_selector_allowed", "caller_supplied_claim_token_allowed",
   "caller_supplied_lease_token_allowed", "caller_supplied_acknowledgement_handle_allowed",
   "payload_schema_defined", "payload_constructed", "payload_serialized",
   "autonomous_queue_polling_allowed", "work_discovery_allowed", "queue_consume_allowed",
   "queue_requeue_allowed", "queue_mutation_allowed", "worker_activation_runtime_allowed",
   "worker_store_contact_allowed", "worker_runtime_contact_allowed", "worker_contact_allowed",
   "worker_start_admission_allowed", "worker_start_allowed", "worker_invocation_allowed",
   "agent_invocation_allowed", "execution_authorization_allowed", "execution_start_allowed",
   "process_execution_allowed", "store_contact_allowed", "runtime_contact_allowed",
   "dispatch_allowed", "retry_allowed", "resend_allowed", "scheduler_allowed",
   "workflow_start_allowed", "shell_execution_allowed", "provider_mutation_allowed",
   "repository_mutation_allowed", "in_guest_mutation_allowed", "installation_allowed",
   "deployment_allowed", "rollback_allowed", "replay_bypass_allowed",
   "artifact_publication_allowed", "tag_push_allowed", "release_publication_allowed",
   "worker_start_admitted", "worker_started", "agent_invoked", "execution_started"]

/-- `ClosedAuthorityV1`: the flags that a caller may set. -/
structure ClosedAuthorityV1 where
  credential_material_present : Bool := false
  endpoint_material_present : Bool := false
  command_material_present : Bool := false
  payload_material_present : Bool := false
  queue_selector_material_present : Bool := false
  claim_token_material_present : Bool := false
  lease_token_material_present : Bool := false
  acknowledgement_handle_material_present : Bool := false
  deriving DecidableEq

/-- The dumped fields of `ClosedAuthorityV1`. -/
def ClosedAuthorityV1.fields (a : ClosedAuthorityV1) : Fields :=
  [("evidence_only", .bool true), ("reference_only", .bool true), ("payload_bytes", .int 0)] ++
    CLOSED_FLAGS.map (·, .bool false) ++
  [("credential_material_present", .bool a.credential_material_present),
   ("endpoint_material_present", .bool a.endpoint_material_present),
   ("command_material_present", .bool a.command_material_present),
   ("payload_material_present", .bool a.payload_material_present),
   ("queue_selector_material_present", .bool a.queue_selector_material_present),
   ("claim_token_material_present", .bool a.claim_token_material_present),
   ("lease_token_material_present", .bool a.lease_token_material_present),
   ("acknowledgement_handle_material_present", .bool a.acknowledgement_handle_material_present)]

/-! ## Prerequisites -/

/-- The v0.51 `AdmissionV1`. -/
structure AdmissionV1 where
  admission_id : String
  operator_id : String
  candidate_record_id : String
  recorded_at : UtcSecond
  valid_until : UtcSecond
  lifecycle : String
  admission_state : String
  eligibility : String
  blockers : List String
  prerequisite_record_fingerprint : FingerprintV1
  prerequisite_status_fingerprint : FingerprintV1
  v049_admission_record_fingerprint : FingerprintV1
  v049_admission_status_fingerprint : FingerprintV1
  binding_subject_fingerprint : FingerprintV1
  worker_subject_fingerprint : FingerprintV1
  queue_item_reference_fingerprint : FingerprintV1
  inherited_limits_fingerprint : FingerprintV1
  admission_record_fingerprint : FingerprintV1
  admission_recorded : Bool
  /-- The dumped fields that this boundary does not read. -/
  lineage : Fields
  deriving DecidableEq

/-- The dump of an admission without its own fingerprint. -/
def AdmissionV1.unsigned (a : AdmissionV1) : Fields :=
  [("admission_id", .str a.admission_id), ("operator_id", .str a.operator_id),
   ("candidate_record_id", .str a.candidate_record_id), ("recorded_at", .str a.recorded_at.text),
   ("valid_until", .str a.valid_until.text), ("lifecycle", .str a.lifecycle),
   ("admission_state", .str a.admission_state), ("eligibility", .str a.eligibility),
   ("blockers", .arr (a.blockers.map .str)),
   ("prerequisite_record_fingerprint", a.prerequisite_record_fingerprint.payload),
   ("prerequisite_status_fingerprint", a.prerequisite_status_fingerprint.payload),
   ("v049_admission_record_fingerprint", a.v049_admission_record_fingerprint.payload),
   ("v049_admission_status_fingerprint", a.v049_admission_status_fingerprint.payload),
   ("binding_subject_fingerprint", a.binding_subject_fingerprint.payload),
   ("worker_subject_fingerprint", a.worker_subject_fingerprint.payload),
   ("queue_item_reference_fingerprint", a.queue_item_reference_fingerprint.payload),
   ("inherited_limits_fingerprint", a.inherited_limits_fingerprint.payload),
   (ADMISSION_RECORDED, .bool a.admission_recorded)] ++ a.lineage

/-- The dump of an admission. -/
def AdmissionV1.payload (a : AdmissionV1) : Json :=
  .obj (("admission_record_fingerprint", a.admission_record_fingerprint.payload) :: a.unsigned)

/-- The v0.51 `AdmissionStatusV1`. -/
structure AdmissionStatusV1 where
  admission_id : String
  operator_id : String
  candidate_record_id : String
  lifecycle : String
  admission_state : String
  eligibility : String
  blockers : List String
  evaluated_at : UtcSecond
  valid_until : UtcSecond
  admission_record_fingerprint : FingerprintV1
  status_fingerprint : FingerprintV1
  admission_recorded : Bool
  /-- The dumped fields that this boundary does not read. -/
  lineage : Fields
  deriving DecidableEq

/-- The dump of an admission status without its own fingerprint. -/
def AdmissionStatusV1.unsigned (s : AdmissionStatusV1) : Fields :=
  [("admission_id", .str s.admission_id), ("operator_id", .str s.operator_id),
   ("candidate_record_id", .str s.candidate_record_id), ("lifecycle", .str s.lifecycle),
   ("admission_state", .str s.admission_state), ("eligibility", .str s.eligibility),
   ("blockers", .arr (s.blockers.map .str)), ("evaluated_at", .str s.evaluated_at.text),
   ("valid_until", .str s.valid_until.text),
   ("admission_record_fingerprint", s.admission_record_fingerprint.payload),
   (ADMISSION_RECORDED, .bool s.admission_recorded)] ++ s.lineage

/-- The dump of an admission status. -/
def AdmissionStatusV1.payload (s : AdmissionStatusV1) : Json :=
  .obj (("status_fingerprint", s.status_fingerprint.payload) :: s.unsigned)

/-- `AdapterReceiptFactsV1` -/
structure AdapterReceiptFactsV1 where
  adapter_label : String
  adapter_identity_fingerprint : FingerprintV1
  queue_subject_fingerprint : FingerprintV1
  claim_receipt_fingerprint : FingerprintV1
  lease_receipt_fingerprint : FingerprintV1
  acknowledgement_receipt_fingerprint : FingerprintV1
  reservation_before_effect : Bool := true
  replay_detected : Bool := false
  ambiguity_detected : Bool := false
  corruption_detected : Bool := false
  observed_at : UtcSecond
  deriving DecidableEq

/-- The dump of adapter facts. -/
def AdapterReceiptFactsV1.payload (r : AdapterReceiptFactsV1) : Json :=
  .obj [("schema", .str
      "controlled-worker-queue-claim-lease-acknowledgement-adapter-receipt-facts-v1"),
    ("adapter_label", .str r.adapter_label),
    ("adapter_identity_fingerprint", r.adapter_identity_fingerprint.payload),
    ("queue_subject_fingerprint", r.queue_subject_fingerprint.payload),
    ("claim_receipt_fingerprint", r.claim_receipt_fingerprint.payload),
    ("lease_receipt_fingerprint", r.lease_receipt_fingerprint.payload),
    ("acknowledgement_receipt_fingerprint", r.acknowledgement_receipt_fingerprint.payload),
    ("reservation_before_effect", .bool r.reservation_before_effect),
    ("single_subject", .bool true), ("terminal_acknowledgement", .bool true),
    ("replay_detected", .bool r.replay_detected),
    ("ambiguity_detected", .bool r.ambiguity_detected),
    ("corruption_detected", .bool r.corruption_detected), ("redacted", .bool true),
    ("secret_free", .bool true), ("observed_at", .str r.observed_at.text)]

section Prerequisites

variable (pf : Platform)

/-- `v051_record_fingerprint` -/
def v051RecordFingerprint (a : AdmissionV1) : Except PyError FingerprintV1 :=
  fingerprint pf
    "atlas:controlled-worker-queue-claim-lease-acknowledgement-admission-record:v1"
    (.obj a.unsigned)

/-- `v051_status_fingerprint` -/
def v051StatusFingerprint (s : AdmissionStatusV1) : Except PyError FingerprintV1 :=
  fingerprint pf
    "atlas:controlled-worker-queue-claim-lease-acknowledgement-admission-status:v1"
    (.obj s.unsigned)

/-- `queue_subject_fingerprint` -/
def queueSubjectFingerprint (a : AdmissionV1) : Except PyError FingerprintV1 :=
  fingerprint pf "atlas:controlled-worker-queue-claim-lease-acknowledgement-queue-subject:v1"
    (.obj [("operator_id", .str a.operator_id),
      ("candidate_record_id", .str a.candidate_record_id), ("admission_id", .str a.admission_id),
      ("admission_record_fingerprint", a.admission_record_fingerprint.payload),
      ("queue_item_reference_fingerprint", a.queue_item_reference_fingerprint.payload),
      ("inherited_limits_fingerprint", a.inherited_limits_fingerprint.payload)])

end Prerequisites

/-! ## Requests -/

/-- `CreateV1` -/
structure CreateV1 extends ClosedAuthorityV1 where
  admission_id : String
  admission_record_fingerprint : FingerprintV1
  admission_status_fingerprint : FingerprintV1
  admission_valid_until : UtcSecond
  v050_prerequisite_record_fingerprint : FingerprintV1
  v050_prerequisite_status_fingerprint : FingerprintV1
  v049_admission_record_fingerprint : FingerprintV1
  v049_admission_status_fingerprint : FingerprintV1
  binding_subject_fingerprint : FingerprintV1
  worker_subject_fingerprint : FingerprintV1
  queue_item_reference_fingerprint : FingerprintV1
  inherited_limits_fingerprint : FingerprintV1
  adapter_identity_fingerprint : FingerprintV1
  expected_queue_subject_fingerprint : FingerprintV1
  expected_claim_receipt_fingerprint : FingerprintV1
  expected_lease_receipt_fingerprint : FingerprintV1
  expected_acknowledgement_receipt_fingerprint : FingerprintV1
  deriving DecidableEq

/-- The dump of a create request. -/
def CreateV1.payload (c : CreateV1) : Json :=
  .obj (c.fields ++
    [("schema", .str "controlled-worker-queue-claim-lease-acknowledgement-create-v1"),
     ("admission_id", .str c.admission_id),
     ("admission_record_fingerprint", c.admission_record_fingerprint.payload),
     ("admission_status_fingerprint", c.admission_status_fingerprint.payload),
     ("admission_valid_until", .str c.admission_valid_until.text),
     ("v050_prerequisite_record_fingerprint", c.v050_prerequisite_record_fingerprint.payload),
     ("v050_prerequisite_status_fingerprint", c.v050_prerequisite_status_fingerprint.payload),
     ("v049_admission_record_fingerprint", c.v049_admission_record_fingerprint.payload),
     ("v049_admission_status_fingerprint", c.v049_admission_status_fingerprint.payload),
     ("binding_subject_fingerprint", c.binding_subject_fingerprint.payload),
     ("worker_subject_fingerprint", c.worker_subject_fingerprint.payload),
     ("queue_item_reference_fingerprint", c.queue_item_reference_fingerprint.payload),
     ("inherited_limits_fingerprint", c.inherited_limits_fingerprint.payload),
     ("adapter_identity_fingerprint", c.adapter_identity_fingerprint.payload),
     ("expected_queue_subject_fingerprint", c.expected_queue_subject_fingerprint.payload),
     ("expected_claim_receipt_fingerprint", c.expected_claim_receipt_fingerprint.payload),
     ("expected_lease_receipt_fingerprint", c.expected_lease_receipt_fingerprint.payload),
     ("expected_acknowledgement_receipt_fingerprint",
       c.expected_acknowledgement_receipt_fingerprint.payload),
     ("requested_scope", .str SCOPE)])

/-- `AuthorityContextV1`; the permission, the scope and the time source are constants. -/
structure AuthorityContextV1 extends ClosedAuthorityV1 where
  authenticated_operator_id : String
  request_received_at : UtcSecond
  deriving DecidableEq

/-- `ValidationInputV1` -/
structure ValidationInputV1 where
  operator_id : String
  authority : AuthorityContextV1
  candidate_record_id : String
  create : CreateV1
  admission : AdmissionV1
  admission_status : AdmissionStatusV1
  adapter_receipt : AdapterReceiptFactsV1
  idempotency_key : Option String := none
  home_assistant : Bool := false
  ambiguous_admission_count : Int := 0
  ambiguous_adapter_receipt_count : Int := 0
  deriving DecidableEq

section Requests

variable (pf : Platform)

/-- `CreateV1.exact` -/
def CreateV1.exact (c : CreateV1) : Except PyError Unit := do
  let text ← canonicalJsonWithin pf MAX_CREATE_NESTING c.payload
  require (text.utf8ByteSize ≤ MAX_CREATE_BYTES) (.valueError "create request exceeds 16 KiB")

/-- `build_create` -/
def buildCreate (admission : AdmissionV1) (status : AdmissionStatusV1)
    (receipt : AdapterReceiptFactsV1) : Except PyError CreateV1 := do
  let create : CreateV1 :=
    { admission_id := admission.admission_id
      admission_record_fingerprint := admission.admission_record_fingerprint
      admission_status_fingerprint := status.status_fingerprint
      admission_valid_until := admission.valid_until
      v050_prerequisite_record_fingerprint := admission.prerequisite_record_fingerprint
      v050_prerequisite_status_fingerprint := admission.prerequisite_status_fingerprint
      v049_admission_record_fingerprint := admission.v049_admission_record_fingerprint
      v049_admission_status_fingerprint := admission.v049_admission_status_fingerprint
      binding_subject_fingerprint := admission.binding_subject_fingerprint
      worker_subject_fingerprint := admission.worker_subject_fingerprint
      queue_item_reference_fingerprint := admission.queue_item_reference_fingerprint
      inherited_limits_fingerprint := admission.inherited_limits_fingerprint
      adapter_identity_fingerprint := receipt.adapter_identity_fingerprint
      expected_queue_subject_fingerprint := receipt.queue_subject_fingerprint
      expected_claim_receipt_fingerprint := receipt.claim_receipt_fingerprint
      expected_lease_receipt_fingerprint := receipt.lease_receipt_fingerprint
      expected_acknowledgement_receipt_fingerprint := receipt.acknowledgement_receipt_fingerprint }
  create.exact pf
  return create

/-- Whether an instant is later than `now`, or more than 30 seconds earlier. -/
def outdated (now value : UtcSecond) : Bool :=
  decide (now.instant < value.instant ∨ value.instant + MAX_FRESHNESS_SECONDS < now.instant)

/-- `ValidationInputV1.exact`, after the field checks. -/
def ValidationInputV1.exact (v : ValidationInputV1) : Except PyError Unit := do
  require (isOperatorId v.operator_id && isUuid4 v.candidate_record_id &&
    v.idempotency_key.all isVisible) (.valueError "field")
  require (!v.home_assistant)
    (.valueError "Home Assistant installation capability is unsupported")
  require (decide (v.ambiguous_admission_count = 0 ∧ v.ambiguous_adapter_receipt_count = 0))
    (.valueError "ambiguous v0.52 prerequisite")
  require (decide (v.operator_id = v.authority.authenticated_operator_id ∧
      v.admission.operator_id = v.operator_id ∧ v.admission_status.operator_id = v.operator_id))
    (.valueError "v0.52 ownership mismatch")
  require (decide (v.admission.candidate_record_id = v.candidate_record_id ∧
      v.admission_status.candidate_record_id = v.candidate_record_id))
    (.valueError "v0.52 candidate linkage mismatch")
  require (decide (v.create.admission_id = v.admission.admission_id ∧
      v.create.admission_valid_until = v.admission.valid_until ∧
      v.admission_status.admission_id = v.admission.admission_id ∧
      v.admission_status.admission_record_fingerprint = v.admission.admission_record_fingerprint))
    (.valueError "v0.51 admission linkage mismatch")
  require (decide (v.create.admission_record_fingerprint =
        v.admission.admission_record_fingerprint ∧
      v.create.admission_status_fingerprint = v.admission_status.status_fingerprint))
    (.valueError "v0.51 admission fingerprint mismatch")
  require (v.admission.admission_record_fingerprint == (← v051RecordFingerprint pf v.admission))
    (.valueError "v0.51 admission fingerprint mismatch")
  require (v.admission_status.status_fingerprint == (← v051StatusFingerprint pf v.admission_status))
    (.valueError "v0.51 admission fingerprint mismatch")
  require (v.admission_status.lifecycle == "active") (.valueError "v0.51 admission is not active")
  require (decide (v.admission.lifecycle = "active" ∧ v.admission.admission_state = "recorded" ∧
      v.admission.eligibility = ADMISSION_RECORDED ∧
      v.admission_status.admission_state = ADMISSION_RECORDED ∧
      v.admission_status.eligibility = ADMISSION_RECORDED ∧
      v.admission.blockers = V051_SUCCESS_BLOCKERS ∧
      v.admission_status.blockers = V051_SUCCESS_BLOCKERS ∧
      v.admission.admission_recorded = true ∧ v.admission_status.admission_recorded = true))
    (.valueError "v0.51 admission is not recorded")
  require (decide (v.create.v050_prerequisite_record_fingerprint =
        v.admission.prerequisite_record_fingerprint ∧
      v.create.v050_prerequisite_status_fingerprint =
        v.admission.prerequisite_status_fingerprint ∧
      v.create.v049_admission_record_fingerprint = v.admission.v049_admission_record_fingerprint ∧
      v.create.v049_admission_status_fingerprint = v.admission.v049_admission_status_fingerprint ∧
      v.create.binding_subject_fingerprint = v.admission.binding_subject_fingerprint ∧
      v.create.worker_subject_fingerprint = v.admission.worker_subject_fingerprint ∧
      v.create.queue_item_reference_fingerprint = v.admission.queue_item_reference_fingerprint))
    (.valueError "v0.51 admission lineage fingerprint mismatch")
  require (decide (v.create.inherited_limits_fingerprint =
      v.admission.inherited_limits_fingerprint))
    (.valueError "v0.51 admission inherited limits mismatch")
  require (decide (v.create.adapter_identity_fingerprint =
      v.adapter_receipt.adapter_identity_fingerprint))
    (.valueError "adapter identity mismatch")
  require (decide (v.create.expected_queue_subject_fingerprint =
      v.adapter_receipt.queue_subject_fingerprint))
    (.valueError "v0.52 queue subject linkage mismatch")
  require (v.create.expected_queue_subject_fingerprint == (← queueSubjectFingerprint pf v.admission))
    (.valueError "v0.52 queue subject linkage mismatch")
  require v.adapter_receipt.reservation_before_effect
    (.valueError "reservation before effect missing")
  require (decide (v.create.expected_claim_receipt_fingerprint =
      v.adapter_receipt.claim_receipt_fingerprint)) (.valueError "claim receipt mismatch")
  require (decide (v.create.expected_lease_receipt_fingerprint =
      v.adapter_receipt.lease_receipt_fingerprint)) (.valueError "lease receipt mismatch")
  require (decide (v.create.expected_acknowledgement_receipt_fingerprint =
      v.adapter_receipt.acknowledgement_receipt_fingerprint))
    (.valueError "acknowledgement receipt mismatch")
  require (!v.adapter_receipt.replay_detected) (.valueError "replay detected")
  require (!v.adapter_receipt.corruption_detected) (.valueError "corrupt adapter evidence")
  require (!v.adapter_receipt.ambiguity_detected) (.valueError "ambiguous adapter evidence")
  require (!(v.authority.credential_material_present || v.create.credential_material_present ||
      v.authority.claim_token_material_present || v.create.claim_token_material_present ||
      v.authority.lease_token_material_present || v.create.lease_token_material_present))
    (.valueError "caller supplied credential")
  require (!(v.authority.endpoint_material_present || v.create.endpoint_material_present))
    (.valueError "caller supplied endpoint")
  require (!(v.authority.command_material_present || v.create.command_material_present ||
      v.authority.payload_material_present || v.create.payload_material_present))
    (.valueError "caller supplied command")
  require (!(v.authority.queue_selector_material_present ||
      v.create.queue_selector_material_present)) (.valueError "caller supplied queue selector")
  require (!(v.authority.acknowledgement_handle_material_present ||
      v.create.acknowledgement_handle_material_present))
    (.valueError "caller supplied acknowledgement handle")
  -- The flags in `_AUTHORITY_FLAGS` admit only `False`.
  let now := v.authority.request_received_at
  require (!(outdated now v.admission.recorded_at || outdated now v.admission_status.evaluated_at ||
      outdated now v.adapter_receipt.observed_at))
    (.valueError "v0.52 evidence is stale or from the future")
  require (decide (now.instant < v.admission.valid_until.instant ∧
      now.instant < v.admission_status.valid_until.instant))
    (.valueError "v0.51 admission is expired")

/-- `idempotency_key_fingerprint` -/
def idempotencyKeyFingerprint (operator_id raw_key : String) : Except PyError FingerprintV1 := do
  require (isVisible raw_key)
    (.valueError "idempotency key must be 16-128 visible ASCII bytes")
  fingerprint pf "atlas:controlled-worker-queue-claim-lease-acknowledgement-idempotency:v1"
    (.obj [("operator_id", .str operator_id), ("idempotency_key", .str raw_key)])

/-- `request_fingerprint`, which does not depend on the time of the request. -/
def requestFingerprint (operator_id candidate_record_id : String) (create : CreateV1)
    (_request_received_at : UtcSecond) (idempotency : FingerprintV1) :
    Except PyError FingerprintV1 :=
  fingerprint pf "atlas:controlled-worker-queue-claim-lease-acknowledgement-request:v1"
    (.obj [("operator_id", .str operator_id), ("candidate_record_id", .str candidate_record_id),
      ("create", create.payload), ("idempotency_key_fingerprint", idempotency.payload)])

/-- `reservation_subject_fingerprint` -/
def reservationSubjectFingerprint (v : ValidationInputV1) : Except PyError FingerprintV1 :=
  fingerprint pf "atlas:controlled-worker-queue-claim-lease-acknowledgement-subject:v1"
    (.obj [("operator_id", .str v.operator_id),
      ("candidate_record_id", .str v.candidate_record_id),
      ("admission_id", .str v.create.admission_id),
      ("v051_admission_record_fingerprint", v.create.admission_record_fingerprint.payload),
      ("v051_admission_status_fingerprint", v.create.admission_status_fingerprint.payload),
      ("v050_prerequisite_record_fingerprint",
        v.create.v050_prerequisite_record_fingerprint.payload),
      ("v050_prerequisite_status_fingerprint",
        v.create.v050_prerequisite_status_fingerprint.payload),
      ("v049_admission_record_fingerprint", v.create.v049_admission_record_fingerprint.payload),
      ("v049_admission_status_fingerprint", v.create.v049_admission_status_fingerprint.payload),
      ("binding_subject_fingerprint", v.create.binding_subject_fingerprint.payload),
      ("worker_subject_fingerprint", v.create.worker_subject_fingerprint.payload),
      ("queue_item_reference_fingerprint", v.create.queue_item_reference_fingerprint.payload),
      ("inherited_limits_fingerprint", v.create.inherited_limits_fingerprint.payload),
      ("adapter_identity_fingerprint", v.create.adapter_identity_fingerprint.payload),
      ("queue_subject_fingerprint", v.create.expected_queue_subject_fingerprint.payload),
      ("claim_receipt_fingerprint", v.create.expected_claim_receipt_fingerprint.payload),
      ("lease_receipt_fingerprint", v.create.expected_lease_receipt_fingerprint.payload),
      ("acknowledgement_receipt_fingerprint",
        v.create.expected_acknowledgement_receipt_fingerprint.payload)])

end Requests

end AtlasOS.Acknowledgement
