import AtlasOS.Core.Dispatch.Models
import AtlasOS.Lib.Runtime

/-!
# A codec to evaluate with

A simple instance of the JSON codec of the dispatch records, which shows that
its laws can be met. A record is the list of the texts of its fields, and a list
of texts is one text in which every character is marked.
-/

namespace AtlasOS.Core

/-- A text with every character marked, and an end. -/
def markText (text : List Char) : List Char := text.flatMap (fun c => ['x', c]) ++ ['e']

/-- Marked texts one after the other. -/
def joinTexts (texts : List String) : String :=
  String.ofList (texts.flatMap fun text => markText text.toList)

/-- The texts in a sequence of marked texts; the first argument is read already. -/
def splitChars : List Char → List Char → List String
  | read, 'x' :: c :: rest => splitChars (read ++ [c]) rest
  | read, 'e' :: rest => String.ofList read :: splitChars [] rest
  | _, _ => []

/-- The texts in a joined text. -/
def splitTexts (text : String) : List String := splitChars [] text.toList

theorem splitChars_markText (read text rest : List Char) :
    splitChars read (markText text ++ rest) =
      String.ofList (read ++ text) :: splitChars [] rest := by
  induction text generalizing read with
  | nil => simp [markText, splitChars]
  | cons c text ih =>
    have h := ih (read ++ [c])
    rw [List.append_assoc] at h
    exact h

theorem splitTexts_joinTexts (texts : List String) : splitTexts (joinTexts texts) = texts := by
  rw [splitTexts, joinTexts, String.toList_ofList]
  induction texts with
  | nil => rfl
  | cons text texts ih =>
    rw [List.flatMap_cons, splitChars_markText, ih]
    simp

/-- The text of an optional text. -/
def optionText : Option String → String
  | none => ""
  | some text => String.ofList ('s' :: text.toList)

/-- The optional text with a given text. -/
def readOptionText (text : String) : Option String :=
  match text.toList with
  | [] => none
  | _ :: rest => some (String.ofList rest)

@[simp] theorem readOptionText_optionText (text : Option String) :
    readOptionText (optionText text) = text := by
  cases text <;> simp [readOptionText, optionText]

/-- The text of a timestamp, which is read back. -/
def readTimeText (text : String) : DateTime :=
  (plainFromisoformat text).getD (.utc ⟨0, zero_lt_MAX_MICROS⟩)

@[simp] theorem readTimeText_plainIsoformat (t : DateTime) :
    readTimeText (plainIsoformat t) = t := by
  simp [readTimeText, plainFromisoformat_plainIsoformat]

/-- An integer in unary. -/
def intText (i : Int) : String :=
  String.ofList ((if i < 0 then '-' else '+') :: List.replicate i.natAbs 'i')

/-- The integer with a given text. -/
def readIntText (text : String) : Int :=
  match text.toList with
  | [] => 0
  | sign :: rest => if sign = '-' then -rest.length else rest.length

@[simp] theorem readIntText_intText (i : Int) : readIntText (intText i) = i := by
  by_cases h : i < 0
  · simp only [readIntText, intText, h, if_true, String.toList_ofList, List.length_replicate]
    omega
  · have hne : ( '+' : Char) ≠ '-' := by decide
    simp only [readIntText, intText, h, hne, if_false, String.toList_ofList,
      List.length_replicate]
    omega

/-- The texts of a dispatch result. -/
def dispatchTexts (r : OperationalDispatchResult) : List String :=
  [StrEnum.value r.status, r.request_id, r.request_digest, r.target_fingerprint,
    optionText r.provider_operation_id, plainIsoformat r.started_at,
    optionText (r.completed_at.map plainIsoformat), optionText r.sanitized_message]

/-- The dispatch result with given texts. -/
def readDispatchTexts : List String → Except PyError OperationalDispatchResult
  | [status, request_id, request_digest, target_fingerprint, operation, started, completed,
      message] => do
      let status ← expect (StrEnum.ofValue? status) (.valueError "status")
      return { status, request_id, request_digest, target_fingerprint,
               provider_operation_id := readOptionText operation
               started_at := readTimeText started
               completed_at := (readOptionText completed).map readTimeText
               sanitized_message := readOptionText message }
  | _ => .error (.valueError "fields")

theorem readDispatchTexts_dispatchTexts (r : OperationalDispatchResult) :
    readDispatchTexts (dispatchTexts r) = .ok r := by
  have hcompleted : (r.completed_at.map plainIsoformat).map readTimeText = r.completed_at := by
    cases r.completed_at <;> simp
  simp [readDispatchTexts, dispatchTexts, hcompleted]

/-- The texts of a verification result. -/
def verificationTexts (r : OperationalVerificationResult) : List String :=
  [StrEnum.value r.status, r.request_id, optionText r.observed_target_fingerprint,
    optionText r.observed_state, optionText r.health_status, plainIsoformat r.started_at,
    plainIsoformat r.completed_at, plainIsoformat r.deadline]

/-- The verification result with given texts. -/
def readVerificationTexts : List String → Except PyError OperationalVerificationResult
  | [status, request_id, fingerprint, state, health, started, completed, deadline] => do
      let status ← expect (StrEnum.ofValue? status) (.valueError "status")
      return { status, request_id
               observed_target_fingerprint := readOptionText fingerprint
               observed_state := readOptionText state
               health_status := readOptionText health
               started_at := readTimeText started
               completed_at := readTimeText completed
               deadline := readTimeText deadline }
  | _ => .error (.valueError "fields")

theorem readVerificationTexts_verificationTexts (r : OperationalVerificationResult) :
    readVerificationTexts (verificationTexts r) = .ok r := by
  simp [readVerificationTexts, verificationTexts]

/-- The texts of a request. -/
def requestTexts (r : OperationalDispatchRequest) : List String :=
  [intText r.schema_version, r.request_id, r.request_digest, r.idempotency_key,
    r.workflow_session_id, r.candidate_planning_session_id, r.candidate_id,
    r.candidate_fingerprint, r.candidate_plan_id, r.candidate_plan_fingerprint, r.effect_kind,
    r.execution_intent, r.provider_id, r.resource_id, r.resource_type, r.provider_action_id,
    r.target_fingerprint, optionText r.target_version, r.expected_pre_state, r.disruption_scope,
    joinTexts r.evidence_ids, plainIsoformat r.generated_at, plainIsoformat r.expires_at,
    r.translator_version,
    joinTexts [r.verification.pre_state, r.verification.expected_post_state,
      r.verification.identity_fingerprint, r.verification.health_requirement,
      r.verification.unknown_outcome_policy],
    joinTexts [r.approval.approval_request_id, r.approval.action_request_id,
      r.approval.action_request_digest, r.approval.candidate_id,
      r.approval.candidate_fingerprint, r.approval.operational_plan_fingerprint,
      r.approval.provider_id, r.approval.resource_id, r.approval.resource_type,
      r.approval.target_fingerprint, optionText r.approval.target_version,
      r.approval.operation_intent, r.approval.disruption_scope, r.approval.verification_digest,
      plainIsoformat r.approval.generated_at, plainIsoformat r.approval.expires_at]]

/-- The verification specification with given texts. -/
def readSpecificationTexts : List String → Except PyError OperationalVerificationSpecification
  | [pre_state, expected_post_state, identity_fingerprint, health_requirement,
      unknown_outcome_policy] =>
      .ok { pre_state, expected_post_state, identity_fingerprint, health_requirement,
            unknown_outcome_policy }
  | _ => .error (.valueError "fields")

/-- The approval binding with given texts. -/
def readBindingTexts : List String → Except PyError OperationalApprovalBinding
  | [approval_request_id, action_request_id, action_request_digest, candidate_id,
      candidate_fingerprint, operational_plan_fingerprint, provider_id, resource_id,
      resource_type, target_fingerprint, target_version, operation_intent, disruption_scope,
      verification_digest, generated_at, expires_at] =>
      .ok { approval_request_id, action_request_id, action_request_digest, candidate_id,
            candidate_fingerprint, operational_plan_fingerprint, provider_id, resource_id,
            resource_type, target_fingerprint, target_version := readOptionText target_version,
            operation_intent, disruption_scope, verification_digest,
            generated_at := readTimeText generated_at, expires_at := readTimeText expires_at }
  | _ => .error (.valueError "fields")

/-- The request with given texts. -/
def readRequestTexts : List String → Except PyError OperationalDispatchRequest
  | [schema_version, request_id, request_digest, idempotency_key, workflow_session_id,
      candidate_planning_session_id, candidate_id, candidate_fingerprint, candidate_plan_id,
      candidate_plan_fingerprint, effect_kind, execution_intent, provider_id, resource_id,
      resource_type, provider_action_id, target_fingerprint, target_version,
      expected_pre_state, disruption_scope, evidence, generated_at, expires_at,
      translator_version, verification, approval] => do
      let verification ← readSpecificationTexts (splitTexts verification)
      let approval ← readBindingTexts (splitTexts approval)
      return { schema_version := readIntText schema_version, request_id, request_digest,
               idempotency_key, workflow_session_id, candidate_planning_session_id,
               candidate_id, candidate_fingerprint, candidate_plan_id,
               candidate_plan_fingerprint, effect_kind, execution_intent, provider_id,
               resource_id, resource_type, provider_action_id, target_fingerprint,
               target_version := readOptionText target_version, expected_pre_state,
               disruption_scope, evidence_ids := splitTexts evidence, verification,
               generated_at := readTimeText generated_at, expires_at := readTimeText expires_at,
               translator_version, approval }
  | _ => .error (.valueError "fields")

theorem readRequestTexts_requestTexts (r : OperationalDispatchRequest) :
    readRequestTexts (requestTexts r) = .ok r := by
  simp [readRequestTexts, requestTexts, splitTexts_joinTexts, readSpecificationTexts,
    readBindingTexts]

/-- A codec that meets the laws. -/
def Pydantic.plain : Pydantic where
  dumpRequest r := joinTexts (requestTexts r)
  loadRequest text := readRequestTexts (splitTexts text)
  dumpDispatch r := joinTexts (dispatchTexts r)
  loadDispatch text := readDispatchTexts (splitTexts text)
  dumpVerification r := joinTexts (verificationTexts r)
  loadVerification text := readVerificationTexts (splitTexts text)
  load_dumpRequest r _ := by rw [splitTexts_joinTexts, readRequestTexts_requestTexts]
  load_dumpDispatch r :=
    ⟨r, by rw [splitTexts_joinTexts, readDispatchTexts_dispatchTexts], ⟨rfl, rfl, rfl, rfl, rfl, rfl⟩⟩
  load_dumpVerification r :=
    ⟨r, by rw [splitTexts_joinTexts, readVerificationTexts_verificationTexts],
      ⟨rfl, rfl, rfl, rfl, rfl⟩⟩

/-- The digest that the simple runtime computes. -/
def plainDigest (version : String) : String :=
  version ++ ":" ++ String.ofList (List.replicate 64 '0')

theorem exactText_plainDigest {version : String} (h : exactText version = true) :
    exactText (plainDigest version) = true := by
  rw [exactText] at h
  split at h
  · next first last hfirst hlast =>
    have hspace : isSpace '0' = false := by decide
    rw [Bool.and_eq_true, Bool.not_eq_true'] at h
    simp [exactText, plainDigest, List.head?_append, hfirst, hspace, h.1]
  · cases h

/-- A request to restart a virtual machine, which expires after ten microseconds. -/
def OperationalDispatchRequest.plain : OperationalDispatchRequest where
  schema_version := 1
  request_id := "r"
  request_digest := plainDigest REQUEST_DIGEST_VERSION
  idempotency_key := plainDigest IDEMPOTENCY_KEY_VERSION
  workflow_session_id := "w"
  candidate_planning_session_id := "s"
  candidate_id := "c"
  candidate_fingerprint := "f"
  candidate_plan_id := "p"
  candidate_plan_fingerprint := "g"
  effect_kind := "operational_action"
  execution_intent := "restart-service"
  provider_id := "proxmox"
  resource_id := "qemu/1"
  resource_type := "qemu"
  provider_action_id := "proxmox-qemu-graceful-restart-v1"
  target_fingerprint := "t"
  target_version := none
  expected_pre_state := "running"
  disruption_scope := "vm"
  evidence_ids := ["e"]
  verification := ⟨"running", "running", "t", "healthy", "verify"⟩
  generated_at := .utc ⟨0, zero_lt_MAX_MICROS⟩
  expires_at := .utc ⟨10, ten_lt_MAX_MICROS⟩
  translator_version := "v"
  approval := {
    approval_request_id := "a"
    action_request_id := "r"
    action_request_digest := plainDigest REQUEST_DIGEST_VERSION
    candidate_id := "c"
    candidate_fingerprint := "f"
    operational_plan_fingerprint := "g"
    provider_id := "proxmox"
    resource_id := "qemu/1"
    resource_type := "qemu"
    target_fingerprint := "t"
    target_version := none
    operation_intent := "restart-service"
    disruption_scope := "vm"
    verification_digest := plainDigest VERIFICATION_DIGEST_VERSION
    generated_at := .utc ⟨0, zero_lt_MAX_MICROS⟩
    expires_at := .utc ⟨10, ten_lt_MAX_MICROS⟩ }

namespace OperationalDispatchRequest

theorem plain_texts : validateStrings plain.texts = .ok () := by
  have hdigest := exactText_plainDigest (show exactText REQUEST_DIGEST_VERSION = true by
    decide)
  have hkey := exactText_plainDigest (show exactText IDEMPOTENCY_KEY_VERSION = true by
    decide)
  have hverification := exactText_plainDigest (show exactText VERIFICATION_DIGEST_VERSION = true by
    decide)
  have hshort : (["r", "w", "s", "c", "f", "p", "g", "operational_action", "restart-service",
      "proxmox", "qemu/1", "qemu", "proxmox-qemu-graceful-restart-v1", "t", "running", "vm", "v",
      "healthy", "verify", "a"].all exactText) = true := by
    decide
  simp only [List.all_cons, List.all_nil, Bool.and_eq_true, and_true] at hshort
  simp [validateStrings, texts, plain, require, hdigest, hkey, hverification, hshort]

theorem plain_contract : plain.validateContract Python.plain = .ok () := by
  decide

end OperationalDispatchRequest

/-- The request with its checks. -/
def Request.plain : Request Python.plain where
  toOperationalDispatchRequest := .plain
  valid := by
    rw [OperationalDispatchRequest.modelValidate, OperationalDispatchRequest.plain_texts,
      ok_bind, OperationalDispatchRequest.plain_contract]
    rfl
  minutes := by decide

end AtlasOS.Core
