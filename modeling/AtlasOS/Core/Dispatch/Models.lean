import AtlasOS.Lib.Json
import Mathlib.Data.List.Sort

/-!
# Operational dispatch records

The records of `operational_dispatch/models.py` with the checks that their
validators make. A record that exists has passed them, which the structures
`Request`, `DispatchResult` and `VerificationResult` carry. The JSON codec that
pydantic derives for the records is a parameter with its round-trip laws.
-/

namespace AtlasOS.Core

/-! ## Checks on fields -/

/-- Whether a text is not empty and has no blank at either end, `value == value.strip()`. -/
def exactText (text : String) : Bool :=
  match text.toList.head?, text.toList.getLast? with
  | some first, some last => !isSpace first && !isSpace last
  | _, _ => false

/-- `validate_strings`, on the string fields of a record. -/
def validateStrings (texts : List String) : Except PyError Unit :=
  require (texts.all exactText)
    (.valueError "operational string fields must be exact and nonblank")

/-- Whether the offset of a timestamp is a whole number of minutes, as it is in JSON. -/
def wholeMinutes (t : DateTime) : Bool := t.offset.all fun offset => offset.val % 60000000 == 0

/-! ## Requests -/

/-- `OperationalVerificationSpecification` -/
structure OperationalVerificationSpecification where
  pre_state : String
  expected_post_state : String
  identity_fingerprint : String
  health_requirement : String
  unknown_outcome_policy : String
  deriving DecidableEq

/-- `OperationalApprovalBinding` -/
structure OperationalApprovalBinding where
  approval_request_id : String
  action_request_id : String
  action_request_digest : String
  candidate_id : String
  candidate_fingerprint : String
  operational_plan_fingerprint : String
  provider_id : String
  resource_id : String
  resource_type : String
  target_fingerprint : String
  target_version : Option String
  operation_intent : String
  disruption_scope : String
  verification_digest : String
  generated_at : DateTime
  expires_at : DateTime
  deriving DecidableEq

/-- Exact Agent-approved semantic request accepted by the Core boundary. -/
structure OperationalDispatchRequest where
  schema_version : Int
  request_id : String
  request_digest : String
  idempotency_key : String
  workflow_session_id : String
  candidate_planning_session_id : String
  candidate_id : String
  candidate_fingerprint : String
  candidate_plan_id : String
  candidate_plan_fingerprint : String
  effect_kind : String
  execution_intent : String
  provider_id : String
  resource_id : String
  resource_type : String
  provider_action_id : String
  target_fingerprint : String
  target_version : Option String
  expected_pre_state : String
  disruption_scope : String
  evidence_ids : List String
  verification : OperationalVerificationSpecification
  generated_at : DateTime
  expires_at : DateTime
  translator_version : String
  approval : OperationalApprovalBinding
  deriving DecidableEq

/-- `REQUEST_DIGEST_VERSION` -/
def REQUEST_DIGEST_VERSION : String := "operational-action-request-digest-v1"

/-- `IDEMPOTENCY_KEY_VERSION` -/
def IDEMPOTENCY_KEY_VERSION : String := "operational-action-execution-key-v1"

/-- `VERIFICATION_DIGEST_VERSION` -/
def VERIFICATION_DIGEST_VERSION : String := "operational-verification-digest-v1"

/-- `_CLOSED_ACTIONS` -/
def closedAction (execution_intent provider_id resource_type : String) : Option String :=
  if (execution_intent, provider_id, resource_type) = ("restart-service", "proxmox", "qemu") then
    some "proxmox-qemu-graceful-restart-v1"
  else none

/-- `_digest` -/
def digest (py : Python) (prefixText : String) (payload : Fields) : String :=
  prefixText ++ ":" ++ py.sha256 (py.dumps (.obj payload))

/-- `operational_verification_digest` -/
def operationalVerificationDigest (py : Python) (v : OperationalVerificationSpecification) :
    String :=
  digest py VERIFICATION_DIGEST_VERSION
    [("expected_post_state", .str v.expected_post_state),
      ("health_requirement", .str v.health_requirement),
      ("identity_fingerprint", .str v.identity_fingerprint),
      ("pre_state", .str v.pre_state),
      ("unknown_outcome_policy", .str v.unknown_outcome_policy),
      ("version", .str VERIFICATION_DIGEST_VERSION)]

/-- `operational_request_digest` -/
def operationalRequestDigest (py : Python) (r : OperationalDispatchRequest) : String :=
  digest py REQUEST_DIGEST_VERSION
    [("candidate_fingerprint", .str r.candidate_fingerprint),
      ("candidate_id", .str r.candidate_id),
      ("candidate_plan_fingerprint", .str r.candidate_plan_fingerprint),
      ("candidate_plan_id", .str r.candidate_plan_id),
      ("candidate_planning_session_id", .str r.candidate_planning_session_id),
      ("disruption_scope", .str r.disruption_scope),
      ("effect_kind", .str r.effect_kind),
      ("evidence_ids", .arr ((r.evidence_ids.insertionSort (· ≤ ·)).map .str)),
      ("execution_intent", .str r.execution_intent),
      ("expected_pre_state", .str r.expected_pre_state),
      ("expires_at", .str (py.isoformat r.expires_at)),
      ("generated_at", .str (py.isoformat r.generated_at)),
      ("provider_action_id", .str r.provider_action_id),
      ("provider_id", .str r.provider_id),
      ("request_id", .str r.request_id),
      ("resource_id", .str r.resource_id),
      ("resource_type", .str r.resource_type),
      ("target_fingerprint", .str r.target_fingerprint),
      ("target_version", Json.ofOption r.target_version),
      ("translator_version", .str r.translator_version),
      ("verification_digest", .str (operationalVerificationDigest py r.verification)),
      ("version", .str REQUEST_DIGEST_VERSION),
      ("workflow_session_id", .str r.workflow_session_id)]

/-- `operational_idempotency_key` -/
def operationalIdempotencyKey (py : Python) (request_id request_digest : String) : String :=
  digest py IDEMPOTENCY_KEY_VERSION
    [("request_digest", .str request_digest), ("request_id", .str request_id),
      ("version", .str IDEMPOTENCY_KEY_VERSION)]

/-- The string fields of the three records of a request. -/
def OperationalDispatchRequest.texts (r : OperationalDispatchRequest) : List String :=
  [r.request_id, r.request_digest, r.idempotency_key, r.workflow_session_id,
    r.candidate_planning_session_id, r.candidate_id, r.candidate_fingerprint,
    r.candidate_plan_id, r.candidate_plan_fingerprint, r.effect_kind, r.execution_intent,
    r.provider_id, r.resource_id, r.resource_type, r.provider_action_id, r.target_fingerprint,
    r.expected_pre_state, r.disruption_scope, r.translator_version,
    r.verification.pre_state, r.verification.expected_post_state,
    r.verification.identity_fingerprint, r.verification.health_requirement,
    r.verification.unknown_outcome_policy,
    r.approval.approval_request_id, r.approval.action_request_id,
    r.approval.action_request_digest, r.approval.candidate_id, r.approval.candidate_fingerprint,
    r.approval.operational_plan_fingerprint, r.approval.provider_id, r.approval.resource_id,
    r.approval.resource_type, r.approval.target_fingerprint, r.approval.operation_intent,
    r.approval.disruption_scope, r.approval.verification_digest] ++
  r.target_version.toList ++ r.approval.target_version.toList

/-- Whether an approval binds exactly a request. -/
def OperationalApprovalBinding.binds (py : Python) (approval : OperationalApprovalBinding)
    (r : OperationalDispatchRequest) : Bool :=
  decide (approval.action_request_id = r.request_id) &&
    decide (approval.action_request_digest = r.request_digest) &&
    decide (approval.candidate_id = r.candidate_id) &&
    decide (approval.candidate_fingerprint = r.candidate_fingerprint) &&
    decide (approval.operational_plan_fingerprint = r.candidate_plan_fingerprint) &&
    decide (approval.provider_id = r.provider_id) &&
    decide (approval.resource_id = r.resource_id) &&
    decide (approval.resource_type = r.resource_type) &&
    decide (approval.target_fingerprint = r.target_fingerprint) &&
    decide (approval.target_version = r.target_version) &&
    decide (approval.operation_intent = r.execution_intent) &&
    decide (approval.disruption_scope = r.disruption_scope) &&
    decide (approval.verification_digest = operationalVerificationDigest py r.verification) &&
    approval.generated_at.same r.generated_at && approval.expires_at.same r.expires_at

/-- `OperationalDispatchRequest.validate_contract` -/
def OperationalDispatchRequest.validateContract (py : Python) (r : OperationalDispatchRequest) :
    Except PyError Unit := do
  require (decide (r.schema_version = 1)) (.valueError "unsupported operational dispatch schema")
  require (decide (r.effect_kind = "operational_action"))
    (.valueError "operational dispatch requires operational_action effect")
  let expired ← r.expires_at.le r.generated_at
  require (!expired) (.valueError "operational request expiry must follow generation")
  require (decide (closedAction r.execution_intent r.provider_id r.resource_type =
      some r.provider_action_id))
    (.valueError "provider action does not match closed semantic translation")
  require (decide (r.request_digest = operationalRequestDigest py r))
    (.valueError "operational request digest mismatch")
  require (decide (r.idempotency_key =
      operationalIdempotencyKey py r.request_id r.request_digest))
    (.valueError "operational idempotency key mismatch")
  require (r.approval.binds py r) (.valueError "operational approval does not bind exact request")

/-- `OperationalDispatchRequest.model_validate` of the fields of a record. -/
def OperationalDispatchRequest.modelValidate (py : Python) (r : OperationalDispatchRequest) :
    Except PyError OperationalDispatchRequest := do
  validateStrings r.texts
  r.validateContract py
  return r

/-- A request that passed its validators. It comes to Core as JSON, which writes offsets in
whole minutes. -/
structure Request (py : Python) extends OperationalDispatchRequest where
  valid : toOperationalDispatchRequest.modelValidate py = .ok toOperationalDispatchRequest
  minutes : wholeMinutes generated_at && wholeMinutes expires_at &&
    wholeMinutes approval.generated_at && wholeMinutes approval.expires_at

/-- The texts of a request are exact. -/
theorem Request.texts_exact {py : Python} (request : Request py) {text : String}
    (h : text ∈ request.texts) : exactText text = true := by
  have hvalid := request.valid
  simp only [OperationalDispatchRequest.modelValidate, check_bind_eq_ok, validateStrings,
    require_eq_ok, List.all_eq_true] at hvalid
  exact hvalid.1 text h

/-! ## Results -/

/-- `OperationalDispatchStatus` -/
inductive OperationalDispatchStatus where
  | succeeded | failed | outcomeUnknown
  deriving DecidableEq

instance : StrEnum OperationalDispatchStatus where
  value
    | .succeeded => "succeeded"
    | .failed => "failed"
    | .outcomeUnknown => "outcome_unknown"
  members := [.succeeded, .failed, .outcomeUnknown]
  find_value s := by cases s <;> simp

/-- `OperationalDispatchResult` -/
structure OperationalDispatchResult where
  status : OperationalDispatchStatus
  request_id : String
  request_digest : String
  target_fingerprint : String
  provider_operation_id : Option String := none
  started_at : DateTime
  completed_at : Option DateTime := none
  sanitized_message : Option String := none
  deriving DecidableEq

namespace OperationalDispatchResult

/-- The checks of the constructor. -/
def validate (r : OperationalDispatchResult) : Except PyError Unit :=
  validateStrings <| [r.request_id, r.request_digest, r.target_fingerprint] ++
    r.provider_operation_id.toList ++ r.sanitized_message.toList

/-- `a == b`, which compares timestamps by their instants. -/
def same (a b : OperationalDispatchResult) : Bool :=
  decide (a.status = b.status) && decide (a.request_id = b.request_id) &&
    decide (a.request_digest = b.request_digest) &&
    decide (a.target_fingerprint = b.target_fingerprint) &&
    decide (a.provider_operation_id = b.provider_operation_id) && a.started_at.same b.started_at &&
    (match a.completed_at, b.completed_at with
      | none, none => true
      | some completed, some completed' => completed.same completed'
      | _, _ => false) &&
    decide (a.sanitized_message = b.sanitized_message)

/-- Two results that differ in their timestamps at most. -/
structure Alike (a b : OperationalDispatchResult) : Prop where
  status : a.status = b.status
  request_id : a.request_id = b.request_id
  request_digest : a.request_digest = b.request_digest
  target_fingerprint : a.target_fingerprint = b.target_fingerprint
  provider_operation_id : a.provider_operation_id = b.provider_operation_id
  sanitized_message : a.sanitized_message = b.sanitized_message

/-- The checks do not look at timestamps. -/
theorem Alike.validate {a b : OperationalDispatchResult} (h : a.Alike b) :
    a.validate = b.validate := by
  rw [OperationalDispatchResult.validate, OperationalDispatchResult.validate, h.request_id,
    h.request_digest, h.target_fingerprint, h.provider_operation_id, h.sanitized_message]

end OperationalDispatchResult

/-- A dispatch result that passed its validators. -/
structure DispatchResult extends OperationalDispatchResult where
  valid : toOperationalDispatchResult.validate = .ok ()

/-- `OperationalVerificationStatus` -/
inductive OperationalVerificationStatus where
  | succeeded | verificationFailed | outcomeUnknown | targetReplaced
  deriving DecidableEq

instance : StrEnum OperationalVerificationStatus where
  value
    | .succeeded => "succeeded"
    | .verificationFailed => "verification_failed"
    | .outcomeUnknown => "outcome_unknown"
    | .targetReplaced => "target_replaced"
  members := [.succeeded, .verificationFailed, .outcomeUnknown, .targetReplaced]
  find_value s := by cases s <;> simp

/-- `OperationalVerificationResult` -/
structure OperationalVerificationResult where
  status : OperationalVerificationStatus
  request_id : String
  observed_target_fingerprint : Option String := none
  observed_state : Option String := none
  health_status : Option String := none
  started_at : DateTime
  completed_at : DateTime
  deadline : DateTime
  deriving DecidableEq

namespace OperationalVerificationResult

/-- The checks of the constructor. -/
def validate (r : OperationalVerificationResult) : Except PyError Unit :=
  validateStrings <| [r.request_id] ++ r.observed_target_fingerprint.toList ++
    r.observed_state.toList ++ r.health_status.toList

/-- `a == b`, which compares timestamps by their instants. -/
def same (a b : OperationalVerificationResult) : Bool :=
  decide (a.status = b.status) && decide (a.request_id = b.request_id) &&
    decide (a.observed_target_fingerprint = b.observed_target_fingerprint) &&
    decide (a.observed_state = b.observed_state) &&
    decide (a.health_status = b.health_status) && a.started_at.same b.started_at &&
    a.completed_at.same b.completed_at && a.deadline.same b.deadline

/-- Two results that differ in their timestamps at most. -/
structure Alike (a b : OperationalVerificationResult) : Prop where
  status : a.status = b.status
  request_id : a.request_id = b.request_id
  observed_target_fingerprint : a.observed_target_fingerprint = b.observed_target_fingerprint
  observed_state : a.observed_state = b.observed_state
  health_status : a.health_status = b.health_status

/-- The checks do not look at timestamps. -/
theorem Alike.validate {a b : OperationalVerificationResult} (h : a.Alike b) :
    a.validate = b.validate := by
  rw [OperationalVerificationResult.validate, OperationalVerificationResult.validate,
    h.request_id, h.observed_target_fingerprint, h.observed_state, h.health_status]

end OperationalVerificationResult

/-- A verification result that passed its validators. -/
structure VerificationResult extends OperationalVerificationResult where
  valid : toOperationalVerificationResult.validate = .ok ()

/-! ## JSON -/

/-- The JSON text that pydantic writes for the records, and its reading of a text before the
validators of the record run. Seconds in the offset of a timestamp are not written. -/
structure Pydantic where
  /-- `OperationalDispatchRequest.model_dump_json` -/
  dumpRequest : OperationalDispatchRequest → String
  /-- The fields in the text of a request. -/
  loadRequest : String → Except PyError OperationalDispatchRequest
  /-- `OperationalDispatchResult.model_dump_json` -/
  dumpDispatch : OperationalDispatchResult → String
  /-- The fields in the text of a dispatch result. -/
  loadDispatch : String → Except PyError OperationalDispatchResult
  /-- `OperationalVerificationResult.model_dump_json` -/
  dumpVerification : OperationalVerificationResult → String
  /-- The fields in the text of a verification result. -/
  loadVerification : String → Except PyError OperationalVerificationResult
  /-- A request is read back as it was written. -/
  load_dumpRequest : ∀ r : OperationalDispatchRequest,
    (wholeMinutes r.generated_at && wholeMinutes r.expires_at &&
      wholeMinutes r.approval.generated_at && wholeMinutes r.approval.expires_at) = true →
    loadRequest (dumpRequest r) = .ok r
  /-- A dispatch result is read back with its texts. -/
  load_dumpDispatch : ∀ r, ∃ r', loadDispatch (dumpDispatch r) = .ok r' ∧ r'.Alike r
  /-- A verification result is read back with its texts. -/
  load_dumpVerification : ∀ r, ∃ r', loadVerification (dumpVerification r) = .ok r' ∧ r'.Alike r

namespace Pydantic

variable (pd : Pydantic)

/-- `OperationalDispatchRequest.model_validate_json` -/
def validateRequestJson (py : Python) (text : String) :
    Except PyError OperationalDispatchRequest := do
  let r ← pd.loadRequest text
  r.modelValidate py

/-- `OperationalDispatchResult.model_validate_json` -/
def validateDispatchJson (text : String) : Except PyError OperationalDispatchResult := do
  let r ← pd.loadDispatch text
  r.validate
  return r

/-- `OperationalVerificationResult.model_validate_json` -/
def validateVerificationJson (text : String) : Except PyError OperationalVerificationResult := do
  let r ← pd.loadVerification text
  r.validate
  return r

/-- A stored request is read back. -/
theorem validateRequestJson_dump {py : Python} (r : Request py) :
    pd.validateRequestJson py (pd.dumpRequest r.toOperationalDispatchRequest) =
      .ok r.toOperationalDispatchRequest := by
  rw [validateRequestJson, pd.load_dumpRequest _ r.minutes, ok_bind]
  exact r.valid

/-- A stored dispatch result is read back with its texts. -/
theorem validateDispatchJson_dump (r : DispatchResult) :
    ∃ r', pd.validateDispatchJson (pd.dumpDispatch r.toOperationalDispatchResult) = .ok r' ∧
      r'.Alike r.toOperationalDispatchResult := by
  obtain ⟨r', hload, halike⟩ := pd.load_dumpDispatch r.toOperationalDispatchResult
  refine ⟨r', ?_, halike⟩
  rw [validateDispatchJson, hload, ok_bind, halike.validate, r.valid]
  rfl

/-- A stored verification result is read back with its texts. -/
theorem validateVerificationJson_dump (r : VerificationResult) :
    ∃ r', pd.validateVerificationJson
        (pd.dumpVerification r.toOperationalVerificationResult) = .ok r' ∧
      r'.Alike r.toOperationalVerificationResult := by
  obtain ⟨r', hload, halike⟩ := pd.load_dumpVerification r.toOperationalVerificationResult
  refine ⟨r', ?_, halike⟩
  rw [validateVerificationJson, hload, ok_bind, halike.validate, r.valid]
  rfl

end Pydantic

end AtlasOS.Core
