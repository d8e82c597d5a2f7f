import AtlasOS.Lib.Json
import AtlasOS.Lib.Path
import Mathlib.Data.List.Sort
import Mathlib.Data.String.Basic
import Mathlib.Tactic.NormNum

/-!
# The contracts between the Agent and the execution worker

The request and result records of `worker_contracts.py`, with their validators
and their dictionary forms. A validator returns nothing or raises the source's
error. The round trip at the end is what the ledger and the snapshot rely on.
-/

namespace AtlasOS.Worker

/-- The supported contract version. -/
def SCHEMA_VERSION : Int := 1

/-- The prefix of a request digest. -/
def DIGEST_PREFIX : String := "execution-request-digest-v1:"

/-- The bound on captured text, in encoded bytes. -/
def MAX_TEXT_BYTES : ℕ := 1048576

/-- The bound on a patch, in bytes. -/
def MAX_PATCH_BYTES : Int := 4194304

/-- The bound on the number of changed files. -/
def MAX_CHANGED_FILES : ℕ := 64

/-- The path that a validation smoke run may change. -/
def RC1_SMOKE_TARGET : String := "services/atlas-agent/tests/test_execution_engine.py"

/-- The command of a validation smoke run. -/
def RC1_SMOKE_ARGV : List String := ["atlas-rc1-validation-smoke"]

/-- The fixed part of every other command. -/
def CODEX_WORKSPACE_EXEC_ARGV_PREFIX : List String :=
  ["codex", "exec", "-c", "default_permissions=\"atlas-workspace\"", "-c",
    "permissions.atlas-workspace.extends=\":workspace\"", "-c",
    "permissions.atlas-workspace.network.enabled=true"]

/-- `[A-Za-z0-9]` -/
def isAlnum (c : Char) : Bool :=
  ('A' ≤ c && c ≤ 'Z') || ('a' ≤ c && c ≤ 'z') || ('0' ≤ c && c ≤ '9')

/-- A full match of `[A-Za-z0-9]` followed by at most 255 of the given characters. -/
def matchesToken (allowed : Char → Bool) (text : String) : Bool :=
  match text.toList with
  | [] => false
  | c :: rest => isAlnum c && rest.all allowed && decide (rest.length ≤ 255)

/-- `_ID_RE` and `_TOKEN_RE` -/
def matchesId : String → Bool := matchesToken fun c => isAlnum c || c ∈ ['.', '_', ':', '-']

/-- `_BRANCH_RE` -/
def matchesBranch : String → Bool :=
  matchesToken fun c => isAlnum c || c ∈ ['.', '_', '/', ':', '-']

/-- `[0-9a-f]` -/
def isLowerHex (c : Char) : Bool := c ∈ "0123456789abcdef".toList

/-- `_HEAD_RE` -/
def matchesHead (text : String) : Bool :=
  decide (40 ≤ text.length) && decide (text.length ≤ 64) && text.toList.all isLowerHex

/-- A full match of a literal prefix followed by 64 lower-case hexadecimal digits. -/
def matchesDigest (prefixText text : String) : Bool :=
  prefixText.toList.isPrefixOf text.toList &&
    isHexDigest (String.ofList (text.toList.drop prefixText.length))

theorem matchesDigest_append {prefixText text : String} (h : isHexDigest text = true) :
    matchesDigest prefixText (prefixText ++ text) = true := by
  rw [matchesDigest, String.toList_append, Bool.and_eq_true, ← String.length_toList,
    List.drop_left, String.ofList_toList]
  exact ⟨List.isPrefixOf_iff_prefix.mpr (List.prefix_append _ _), h⟩

/-- A number as the JSON decoder returns it. -/
inductive PyNumber where
  | int (value : Int)
  | float (value : PyFloat)
  deriving DecidableEq

namespace PyNumber

/-- The JSON form of a number. -/
def toJson : PyNumber → Json
  | int i => .int i
  | float f => .float f

/-- Read a number; a boolean is not one. -/
def ofJson? : Json → Option PyNumber
  | .int i => some (int i)
  | .float f => some (float f)
  | _ => none

/-- `_finite_number`: an integer too large for a float is not finite either. -/
def finite : PyNumber → Bool
  | int i => decide (i.natAbs < 2 ^ 1024 - 2 ^ 970)
  | float (.finite _) => true
  | float _ => false

/-- The value used in comparisons. -/
def value : PyNumber → ℚ
  | int i => i
  | float (.finite q) => q
  | float _ => 0

@[simp] theorem ofJson_toJson (n : PyNumber) : ofJson? n.toJson = some n := by
  cases n <;> rfl

end PyNumber

/-! ## Outcome categories -/

/-- Outcome category of one worker execution. -/
inductive WorkerExecutionStatus where
  | succeeded | failed | blocked | unknown
  deriving DecidableEq

instance : StrEnum WorkerExecutionStatus where
  value
    | .succeeded => "succeeded"
    | .failed => "failed"
    | .blocked => "blocked"
    | .unknown => "unknown"
  members := [.succeeded, .failed, .blocked, .unknown]
  find_value s := by cases s <;> simp

/-- Deterministic failure reasons. -/
inductive WorkerFailureCode where
  | staleRepository | invalidRequest | invalidArgv | sandboxUnavailable | authUnavailable
  | timeout | codexFailed | outOfScopeChanges | noCommittableChanges | patchTooLarge
  | duplicateRequest | workerUnavailable | workerCrash
  deriving DecidableEq

instance : StrEnum WorkerFailureCode where
  value
    | .staleRepository => "stale_repository"
    | .invalidRequest => "invalid_request"
    | .invalidArgv => "invalid_argv"
    | .sandboxUnavailable => "sandbox_unavailable"
    | .authUnavailable => "auth_unavailable"
    | .timeout => "timeout"
    | .codexFailed => "codex_failed"
    | .outOfScopeChanges => "out_of_scope_changes"
    | .noCommittableChanges => "no_committable_changes"
    | .patchTooLarge => "patch_too_large"
    | .duplicateRequest => "duplicate_request"
    | .workerUnavailable => "worker_unavailable"
    | .workerCrash => "worker_crash"
  members :=
    [.staleRepository, .invalidRequest, .invalidArgv, .sandboxUnavailable, .authUnavailable,
      .timeout, .codexFailed, .outOfScopeChanges, .noCommittableChanges, .patchTooLarge,
      .duplicateRequest, .workerUnavailable, .workerCrash]
  find_value c := by cases c <;> simp

theorem WorkerFailureCode.value_ne_empty (c : WorkerFailureCode) : StrEnum.value c ≠ "" := by
  cases c <;> decide

/-! ## Captured output and attestation -/

/-- Captured output with explicit truncation evidence. -/
structure BoundedOutput where
  text : String
  truncated : Bool := false
  original_bytes : Option Int := none
  deriving DecidableEq

namespace BoundedOutput

/-- `BoundedOutput.validate` -/
def validate (o : BoundedOutput) : Except PyError Unit := do
  let encoded : Int := o.text.utf8ByteSize
  require (decide (o.text.utf8ByteSize ≤ MAX_TEXT_BYTES))
    (.valueError "output exceeds the contract bound")
  require (o.original_bytes.all fun n => decide (encoded ≤ n))
    (.valueError "invalid output original_bytes")
  require (!o.truncated || o.original_bytes.any fun n => decide (encoded < n))
    (.valueError "truncated output requires larger original_bytes")
  require (o.truncated || o.original_bytes.all fun n => decide (n = encoded))
    (.valueError "untruncated output has inconsistent original_bytes")

/-- The dictionary built by `BoundedOutput.to_dict` once the output is valid. -/
def encode (o : BoundedOutput) : Json :=
  .obj [("text", .str o.text), ("truncated", .bool o.truncated),
    ("original_bytes", intOrNull o.original_bytes)]

/-- `BoundedOutput.from_dict` -/
def fromDict (value : Json) : Except PyError BoundedOutput := do
  let fields ← value.requireObject (.valueError "invalid bounded output")
  require (fields.keys.all (· ∈ ["text", "truncated", "original_bytes"]) &&
      ["text", "truncated", "original_bytes"].all (· ∈ fields.keys))
    (.valueError "invalid bounded output")
  let text ← expect (asStr? (fields.get "text")) (.typeError "output text must be a string")
  let truncated ← expect (asBool? (fields.get "truncated"))
    (.valueError "output truncation must be boolean")
  let original_bytes ← expect (asOptional? asInt? (fields.get "original_bytes"))
    (.valueError "invalid output original_bytes")
  let result : BoundedOutput := ⟨text, truncated, original_bytes⟩
  result.validate
  return result

theorem fromDict_encode {o : BoundedOutput} (h : o.validate = .ok ()) :
    fromDict o.encode = .ok o := by
  simp [fromDict, encode, Fields.keys, h]

end BoundedOutput

/-- Structured runtime evidence. -/
structure WorkerAttestation where
  runtime_uid : Int
  readonly_rootfs : Bool
  no_new_privileges : Bool
  effective_capabilities : String
  sandbox_profile : String
  deriving DecidableEq

namespace WorkerAttestation

/-- `[0-9a-fA-F]` -/
def isHex (c : Char) : Bool := isLowerHex c || ('A' ≤ c && c ≤ 'F')

/-- Whether a text contains a pattern. -/
def contains (pattern text : List Char) : Bool := text.tails.any pattern.isPrefixOf

/-- `WorkerAttestation.validate` -/
def validate (a : WorkerAttestation) : Except PyError Unit := do
  require (decide (a.runtime_uid = 10001)) (.valueError "worker runtime uid must be 10001")
  require a.readonly_rootfs (.valueError "worker rootfs must be read-only")
  require a.no_new_privileges (.valueError "worker must have no-new-privileges")
  require (a.effective_capabilities ≠ "" &&
      a.effective_capabilities.toList.all fun c => isHex c || c ∈ [',', ' ', '_', '-'])
    (.valueError "invalid capability representation")
  -- A hexadecimal text denotes zero exactly when every digit is zero.
  require (a.effective_capabilities.toList.all isHex &&
      decide (a.effective_capabilities.length ≤ 32) &&
      a.effective_capabilities.toList.all (· == '0'))
    (.valueError "worker effective capabilities must be zero")
  require (a.sandbox_profile ≠ "" &&
      !contains "unconfined".toList (a.sandbox_profile.toList.map Char.toLower))
    (.valueError "sandbox profile must be named and confined")

/-- The dictionary built by `WorkerAttestation.to_dict` once the attestation is valid. -/
def encode (a : WorkerAttestation) : Json :=
  .obj [("runtime_uid", .int a.runtime_uid), ("readonly_rootfs", .bool a.readonly_rootfs),
    ("no_new_privileges", .bool a.no_new_privileges),
    ("effective_capabilities", .str a.effective_capabilities),
    ("sandbox_profile", .str a.sandbox_profile)]

/-- The fields of an attestation. -/
def fieldNames : List String :=
  ["runtime_uid", "readonly_rootfs", "no_new_privileges", "effective_capabilities",
    "sandbox_profile"]

/-- `WorkerAttestation.from_dict` -/
def fromDict (value : Json) : Except PyError WorkerAttestation := do
  let fields ← value.requireObject (.valueError "invalid worker attestation")
  require (fields.keys.all (· ∈ fieldNames) && fieldNames.all (· ∈ fields.keys))
    (.valueError "invalid worker attestation")
  let runtime_uid ← expect (asInt? (fields.get "runtime_uid"))
    (.valueError "worker runtime uid must be 10001")
  let readonly_rootfs ← expect (asBool? (fields.get "readonly_rootfs"))
    (.valueError "worker rootfs must be read-only")
  let no_new_privileges ← expect (asBool? (fields.get "no_new_privileges"))
    (.valueError "worker must have no-new-privileges")
  let effective_capabilities ← expect (asStr? (fields.get "effective_capabilities"))
    (.typeError "expected string or bytes-like object")
  let sandbox_profile ← expect (asStr? (fields.get "sandbox_profile"))
    (.attributeError "object has no attribute 'lower'")
  let result : WorkerAttestation :=
    { runtime_uid, readonly_rootfs, no_new_privileges, effective_capabilities, sandbox_profile }
  result.validate
  return result

theorem fromDict_encode {a : WorkerAttestation} (h : a.validate = .ok ()) :
    fromDict a.encode = .ok a := by
  simp [fromDict, encode, fieldNames, Fields.keys, h]

end WorkerAttestation

/-! ## Repository paths -/

/-- `_validate_path` -/
def validatePath (value name : String) (allow_dot : Bool) : Except PyError String := do
  require (value ≠ "" && !value.toList.contains '\x00' && !value.toList.contains '\\')
    (.valueError ("invalid " ++ name))
  require (value.toList.head? ≠ some '/' && !(pathParts value.toList).contains ['.', '.'] &&
      (allow_dot || value ≠ "."))
    (.valueError ("unsafe " ++ name))
  require (normalizePath value ≠ "." || allow_dot) (.valueError ("unsafe " ++ name))
  return normalizePath value

/-- `_canonical_files` -/
def canonicalFiles (files : List String) : Except PyError (List String) := do
  let normalized ← files.mapM fun item => validatePath item "affected file" false
  require (decide normalized.Nodup) (.valueError "duplicate affected file")
  require (decide (normalized.length ≤ MAX_CHANGED_FILES)) (.valueError "too many affected files")
  return normalized.insertionSort (· ≤ ·)

/-- `tuple(value)` of strings, as the dictionary readers build it. -/
def strTuple (value : Json) (error : PyError) : Except PyError (List String) := do
  let items ← value.iterate
  items.mapM fun item => expect (asStr? item) error

@[simp] theorem strTuple_arr (items : List String) (error : PyError) :
    strTuple (.arr (items.map .str)) error = .ok items := by
  simp only [strTuple, Json.iterate, ok_bind]
  exact mapM_map_eq_ok fun _ _ => rfl

/-! ## The execution request -/

/-- Immutable, approved request for an execution worker. -/
structure WorkerExecutionRequest where
  schema_version : Int
  execution_request_id : String
  workflow_id : String
  candidate_id : String
  candidate_fingerprint : String
  plan_id : String
  plan_fingerprint : String
  execution_intent : String
  repository_token : String
  expected_repository_head : String
  repository_branch : Option String
  argv : List String
  working_directory : String
  allowed_affected_files : List String
  timeout_seconds : PyNumber
  request_digest : String
  deriving DecidableEq

namespace WorkerExecutionRequest

/-- `_canonical_request_payload` -/
def canonicalPayload (r : WorkerExecutionRequest) : Fields :=
  [("schema_version", .int r.schema_version),
    ("execution_request_id", .str r.execution_request_id),
    ("workflow_id", .str r.workflow_id),
    ("candidate_id", .str r.candidate_id),
    ("candidate_fingerprint", .str r.candidate_fingerprint),
    ("plan_id", .str r.plan_id),
    ("plan_fingerprint", .str r.plan_fingerprint),
    ("execution_intent", .str r.execution_intent),
    ("repository_token", .str r.repository_token),
    ("expected_repository_head", .str r.expected_repository_head),
    ("repository_branch", .ofOption r.repository_branch),
    ("argv", .arr (r.argv.map .str)),
    ("working_directory", .str r.working_directory),
    ("allowed_affected_files", .arr (r.allowed_affected_files.map .str)),
    ("timeout_seconds", r.timeout_seconds.toJson)]

/-- `_digest_payload` of the canonical payload. -/
def digest (py : Python) (r : WorkerExecutionRequest) : String :=
  DIGEST_PREFIX ++ py.sha256 (py.dumps (.obj r.canonicalPayload))

/-- The part of `validate` that leaves the digest aside (`check_digest=False`). -/
def validateFields (r : WorkerExecutionRequest) : Except PyError Unit := do
  require (decide (r.schema_version = SCHEMA_VERSION))
    (.valueError "unsupported worker request schema")
  require (matchesId r.execution_request_id) (.valueError "invalid execution request id")
  require (matchesId r.workflow_id) (.valueError "invalid workflow id")
  require (matchesId r.candidate_id) (.valueError "invalid candidate id")
  require (matchesId r.candidate_fingerprint) (.valueError "invalid candidate fingerprint")
  require (matchesId r.plan_id) (.valueError "invalid plan id")
  require (matchesId r.plan_fingerprint) (.valueError "invalid plan fingerprint")
  require (decide (r.execution_intent ∈ ["update-compose-stack", "rc1-validation-smoke"]))
    (.valueError "unsupported execution intent")
  require (matchesId r.repository_token) (.valueError "invalid repository token")
  require (matchesHead r.expected_repository_head)
    (.valueError "invalid expected repository head")
  require (r.repository_branch.all matchesBranch) (.valueError "invalid repository branch")
  require (r.argv ≠ [] && r.argv.all fun item => item ≠ "" && !item.toList.contains '\x00')
    (.valueError "invalid argv")
  if r.execution_intent = "rc1-validation-smoke" then
    require (decide (r.argv = RC1_SMOKE_ARGV))
      (.valueError "invalid RC1 validation smoke operation")
    require (decide (r.working_directory = "."))
      (.valueError "RC1 validation smoke must run at repository root")
    require (decide (r.allowed_affected_files = [RC1_SMOKE_TARGET]))
      (.valueError "RC1 validation smoke target is fixed")
  else
    require (decide (r.argv.length = CODEX_WORKSPACE_EXEC_ARGV_PREFIX.length + 1) &&
        decide (r.argv.dropLast = CODEX_WORKSPACE_EXEC_ARGV_PREFIX) &&
        r.argv.getLast?.all fun last => !isBlank last)
      (.valueError "unsupported Codex workspace profile argv")
  let _ ← validatePath r.working_directory "working directory" true
  let _ ← canonicalFiles r.allowed_affected_files
  require r.timeout_seconds.finite (.valueError "invalid timeout")
  require (decide (1 ≤ r.timeout_seconds.value) && decide (r.timeout_seconds.value ≤ 3600))
    (.valueError "timeout outside contract bounds")

/-- `WorkerExecutionRequest.validate` -/
def validate (py : Python) (r : WorkerExecutionRequest) : Except PyError Unit := do
  r.validateFields
  require (matchesDigest DIGEST_PREFIX r.request_digest) (.valueError "malformed request digest")
  require (decide (r.request_digest = r.digest py)) (.valueError "request digest mismatch")

theorem validate_of_fields {py : Python} {r : WorkerExecutionRequest}
    (hfields : r.validateFields = .ok ()) (hdigest : r.request_digest = r.digest py) :
    r.validate py = .ok () := by
  have hmatches : matchesDigest DIGEST_PREFIX r.request_digest = true := by
    rw [hdigest]
    exact matchesDigest_append (py.sha256_isHexDigest _)
  rw [validate, hfields, ok_bind, hmatches, require_true, ok_bind, require_eq_ok]
  exact decide_eq_true hdigest

/-- `WorkerExecutionRequest.build`, from the fields other than the digest. -/
def build (py : Python) (r : WorkerExecutionRequest) : Except PyError WorkerExecutionRequest := do
  let allowed_affected_files ← canonicalFiles r.allowed_affected_files
  let working_directory ← validatePath r.working_directory "working directory" true
  let request := { r with allowed_affected_files, working_directory, request_digest := "" }
  request.validateFields
  return { request with request_digest := request.digest py }

/-- `WorkerExecutionRequest.to_dict`, without its validation. -/
def encode (r : WorkerExecutionRequest) : Json :=
  .obj (r.canonicalPayload ++ [("request_digest", .str r.request_digest)])

/-- `WorkerExecutionRequest.to_dict` -/
def toDict (py : Python) (r : WorkerExecutionRequest) : Except PyError Json := do
  r.validate py
  return r.encode

/-- The field names of a request. -/
def fieldNames : List String :=
  ["schema_version", "execution_request_id", "workflow_id", "candidate_id",
    "candidate_fingerprint", "plan_id", "plan_fingerprint", "execution_intent",
    "repository_token", "expected_repository_head", "repository_branch", "argv",
    "working_directory", "allowed_affected_files", "timeout_seconds", "request_digest"]

/-- `WorkerExecutionRequest.from_dict` -/
def fromDict (py : Python) (value : Json) : Except PyError WorkerExecutionRequest := do
  let unknown := PyError.valueError "unknown or missing worker request fields"
  let fields ← value.requireObject unknown
  require (fields.keys.all (· ∈ fieldNames) && fieldNames.all (· ∈ fields.keys)) unknown
  let argv ← strTuple (fields.get "argv") (.valueError "invalid argv")
  let allowed_affected_files ←
    strTuple (fields.get "allowed_affected_files") (.valueError "invalid affected file")
  let schema_version ← expect (asInt? (fields.get "schema_version"))
    (.valueError "unsupported worker request schema")
  let execution_request_id ← expect (asStr? (fields.get "execution_request_id"))
    (.valueError "invalid execution request id")
  let workflow_id ← expect (asStr? (fields.get "workflow_id")) (.valueError "invalid workflow id")
  let candidate_id ← expect (asStr? (fields.get "candidate_id"))
    (.valueError "invalid candidate id")
  let candidate_fingerprint ← expect (asStr? (fields.get "candidate_fingerprint"))
    (.valueError "invalid candidate fingerprint")
  let plan_id ← expect (asStr? (fields.get "plan_id")) (.valueError "invalid plan id")
  let plan_fingerprint ← expect (asStr? (fields.get "plan_fingerprint"))
    (.valueError "invalid plan fingerprint")
  let execution_intent ← expect (asStr? (fields.get "execution_intent"))
    (.valueError "unsupported execution intent")
  let repository_token ← expect (asStr? (fields.get "repository_token"))
    (.valueError "invalid repository token")
  let expected_repository_head ← expect (asStr? (fields.get "expected_repository_head"))
    (.valueError "invalid expected repository head")
  let repository_branch ← expect (asOptional? asStr? (fields.get "repository_branch"))
    (.valueError "invalid repository branch")
  let working_directory ← expect (asStr? (fields.get "working_directory"))
    (.valueError "invalid working directory")
  let timeout_seconds ← expect (PyNumber.ofJson? (fields.get "timeout_seconds"))
    (.valueError "invalid timeout")
  let request_digest ← expect (asStr? (fields.get "request_digest"))
    (.valueError "malformed request digest")
  let result : WorkerExecutionRequest :=
    { schema_version, execution_request_id, workflow_id, candidate_id, candidate_fingerprint,
      plan_id, plan_fingerprint, execution_intent, repository_token, expected_repository_head,
      repository_branch, argv, working_directory, allowed_affected_files, timeout_seconds,
      request_digest }
  result.validate py
  return result

/-- A valid request is read back from its dictionary. -/
theorem fromDict_encode {py : Python} {r : WorkerExecutionRequest}
    (h : r.validate py = .ok ()) : fromDict py r.encode = .ok r := by
  simp [fromDict, encode, canonicalPayload, fieldNames, Fields.keys, h]

/-- Whatever is read from a dictionary is valid. -/
theorem validate_of_fromDict {py : Python} {value : Json} {r : WorkerExecutionRequest}
    (h : fromDict py value = .ok r) : r.validate py = .ok () := by
  simp only [fromDict, bind_eq_ok] at h
  obtain ⟨_, -, _, -, _, -, _, -, _, -, _, -, _, -, _, -, _, -, _, -, _, -, _, -, _, -, _, -, _, -,
    _, -, _, -, _, -, ⟨⟩, hvalid, heq⟩ := h
  cases heq
  exact hvalid

end WorkerExecutionRequest

/-! ## The execution result -/

/-- Bounded result evidence returned by an execution worker. -/
structure WorkerExecutionResult where
  schema_version : Int
  execution_request_id : String
  status : WorkerExecutionStatus
  return_code : Option Int
  stdout : BoundedOutput
  stderr : BoundedOutput
  changed_files : List String
  patch_digest : Option String
  patch_size_bytes : Option Int
  patch_truncated : Bool
  duration_seconds : PyNumber
  failure_code : Option WorkerFailureCode
  workspace_head : Option String
  worker_attestation : WorkerAttestation
  base_repository_head : Option String := none
  patch : Option BoundedOutput := none
  deriving DecidableEq

namespace WorkerExecutionResult

/-- The checks of `validate` on the optional patch payload. -/
def validatePatch (py : Python) (r : WorkerExecutionResult) : Except PyError Unit :=
  match r.patch with
  | none => .ok ()
  | some patch => do
      patch.validate
      require (patch.original_bytes.all fun n => decide (n ≤ MAX_PATCH_BYTES))
        (.valueError "patch exceeds the contract bound")
      require (decide (patch.truncated = r.patch_truncated))
        (.valueError "patch truncation metadata mismatch")
      require (r.patch_digest.isSome && r.patch_size_bytes.isSome)
        (.valueError "patch payload requires size and digest")
      if patch.truncated then
        require (decide (r.patch_size_bytes = patch.original_bytes))
          (.valueError "truncated patch size mismatch")
      else
        require (decide (r.patch_size_bytes = some (patch.text.utf8ByteSize : Int)) &&
            decide (r.patch_digest = some ("sha256:" ++ py.sha256 patch.text)))
          (.valueError "complete patch size or digest mismatch")

/-- The checks of `validate` that couple status, return code and failure code. -/
def validateOutcome (r : WorkerExecutionResult) : Except PyError Unit := do
  if r.status = .succeeded then
    require (!r.patch_truncated) (.valueError "successful patch cannot be truncated")
    require (decide (r.failure_code = none) && decide (r.return_code = some 0))
      (.valueError "success result has failure evidence")
  else
    require r.failure_code.isSome (.valueError "non-success result requires failure code")
  require (decide (r.status ≠ .unknown) || decide (r.failure_code = some .workerCrash))
    (.valueError "unknown result requires worker_crash")
  require (decide (r.failure_code ≠ some .workerCrash) || decide (r.status = .unknown))
    (.valueError "worker_crash requires unknown status")

/-- `WorkerExecutionResult.validate`, against a request when one is given. -/
def validate (py : Python) (r : WorkerExecutionResult)
    (request : Option WorkerExecutionRequest := none) : Except PyError Unit := do
  require (decide (r.schema_version = SCHEMA_VERSION))
    (.valueError "unsupported worker result schema")
  require (matchesId r.execution_request_id) (.valueError "invalid execution request id")
  require (request.all fun q => decide (r.execution_request_id = q.execution_request_id))
    (.valueError "result request ID mismatch")
  r.stdout.validate
  r.stderr.validate
  let files ← canonicalFiles r.changed_files
  require (decide (files = r.changed_files)) (.valueError "changed files must be canonicalized")
  require (decide (r.failure_code = some .outOfScopeChanges) ||
      request.all fun q => files.all (· ∈ q.allowed_affected_files))
    (.valueError "changed file is outside approved scope")
  require (r.patch_digest.all (matchesDigest "sha256:")) (.valueError "malformed patch digest")
  require (r.patch_size_bytes.all fun n => decide (0 ≤ n) && decide (n ≤ MAX_PATCH_BYTES))
    (.valueError "invalid patch size")
  require (!r.patch_truncated || r.patch_size_bytes.isSome)
    (.valueError "truncated patch requires patch size")
  require (r.duration_seconds.finite && decide (0 ≤ r.duration_seconds.value))
    (.valueError "invalid duration")
  require (r.workspace_head.all matchesHead) (.valueError "invalid workspace head")
  require (r.base_repository_head.all matchesHead) (.valueError "invalid base repository head")
  r.validatePatch py
  r.worker_attestation.validate
  r.validateOutcome

/-- The fields built by `WorkerExecutionResult.to_dict` once the result is valid. -/
def encodedFields (r : WorkerExecutionResult) : Fields :=
  [("schema_version", .int r.schema_version),
    ("execution_request_id", .str r.execution_request_id),
    ("status", .str (StrEnum.value r.status)),
    ("return_code", intOrNull r.return_code),
    ("stdout", r.stdout.encode),
    ("stderr", r.stderr.encode),
    ("changed_files", .arr (r.changed_files.map .str)),
    ("patch_digest", .ofOption r.patch_digest),
    ("patch_size_bytes", intOrNull r.patch_size_bytes),
    ("patch_truncated", .bool r.patch_truncated),
    ("duration_seconds", r.duration_seconds.toJson),
    ("failure_code", .ofOption (r.failure_code.map StrEnum.value)),
    ("workspace_head", .ofOption r.workspace_head),
    ("worker_attestation", r.worker_attestation.encode),
    ("base_repository_head", .ofOption r.base_repository_head),
    ("patch", .nullable BoundedOutput.encode r.patch)]

/-- The dictionary built by `WorkerExecutionResult.to_dict` once the result is valid. -/
def encode (r : WorkerExecutionResult) : Json := .obj r.encodedFields

/-- `WorkerExecutionResult.to_dict` -/
def toDict (py : Python) (r : WorkerExecutionResult) : Except PyError Json := do
  r.validate py
  return r.encode

/-- The fields that every stored result has. -/
def requiredNames : List String :=
  ["schema_version", "execution_request_id", "status", "return_code", "stdout", "stderr",
    "changed_files", "patch_digest", "patch_size_bytes", "patch_truncated", "duration_seconds",
    "failure_code", "workspace_head", "worker_attestation"]

/-- All field names of a result. -/
def fieldNames : List String := requiredNames ++ ["base_repository_head", "patch"]

/-- `WorkerFailureCode(value) if value else None` -/
def readFailureCode (value : Json) : Except PyError (Option WorkerFailureCode) :=
  if value.truthy then do
    let code ← expect ((asStr? value).bind StrEnum.ofValue?)
      (.valueError "not a valid WorkerFailureCode")
    return some code
  else .ok none

/-- `BoundedOutput.from_dict(value) if value else None` -/
def readPatch (value : Json) : Except PyError (Option BoundedOutput) :=
  if value.truthy then do
    let patch ← BoundedOutput.fromDict value
    return some patch
  else .ok none

/-- `WorkerExecutionResult.from_dict` -/
def fromDict (py : Python) (value : Json) : Except PyError WorkerExecutionResult := do
  let unknown := PyError.valueError "unknown or missing worker result fields"
  let fields ← value.requireObject unknown
  require (fields.keys.all (· ∈ fieldNames) && requiredNames.all (· ∈ fields.keys)) unknown
  let status ← expect ((asStr? (fields.get "status")).bind StrEnum.ofValue?)
    (.valueError "not a valid WorkerExecutionStatus")
  let failure_code ← readFailureCode (fields.get "failure_code")
  let stdout ← BoundedOutput.fromDict (fields.get "stdout")
  let stderr ← BoundedOutput.fromDict (fields.get "stderr")
  let changed_files ← strTuple (fields.get "changed_files") (.valueError "invalid affected file")
  let worker_attestation ← WorkerAttestation.fromDict (fields.get "worker_attestation")
  let patch ← readPatch (fields.get "patch")
  let schema_version ← expect (asInt? (fields.get "schema_version"))
    (.valueError "unsupported worker result schema")
  let execution_request_id ← expect (asStr? (fields.get "execution_request_id"))
    (.valueError "invalid execution request id")
  let return_code ← expect (asOptional? asInt? (fields.get "return_code"))
    (.valueError "invalid result numeric or boolean type")
  let patch_digest ← expect (asOptional? asStr? (fields.get "patch_digest"))
    (.typeError "expected string or bytes-like object")
  let patch_size_bytes ← expect (asOptional? asInt? (fields.get "patch_size_bytes"))
    (.valueError "invalid patch size")
  let patch_truncated ← expect (asBool? (fields.get "patch_truncated"))
    (.valueError "invalid result numeric or boolean type")
  let duration_seconds ← expect (PyNumber.ofJson? (fields.get "duration_seconds"))
    (.valueError "invalid duration")
  let workspace_head ← expect (asOptional? asStr? (fields.get "workspace_head"))
    (.typeError "expected string or bytes-like object")
  let base_repository_head ← expect (asOptional? asStr? (fields.get "base_repository_head"))
    (.typeError "expected string or bytes-like object")
  let result : WorkerExecutionResult :=
    { schema_version, execution_request_id, status, return_code, stdout, stderr, changed_files,
      patch_digest, patch_size_bytes, patch_truncated, duration_seconds, failure_code,
      workspace_head, worker_attestation, base_repository_head, patch }
  result.validate py
  return result

/-- What the rest of the development reads off a valid result. -/
structure Valid (py : Python) (r : WorkerExecutionResult) : Prop where
  identity : matchesId r.execution_request_id = true
  stdout : r.stdout.validate = .ok ()
  stderr : r.stderr.validate = .ok ()
  duration : r.duration_seconds.finite = true
  patch : r.validatePatch py = .ok ()
  attestation : r.worker_attestation.validate = .ok ()
  outcome : r.validateOutcome = .ok ()
  alone : r.validate py = .ok ()

/-- A result accepted for a request is a valid result for the request's identity. -/
theorem valid_of_validate {py : Python} {r : WorkerExecutionResult}
    {request : Option WorkerExecutionRequest} (h : r.validate py request = .ok ()) :
    r.Valid py ∧ ∀ q ∈ request, r.execution_request_id = q.execution_request_id := by
  have hall := h
  simp only [validate, check_bind_eq_ok, require_eq_ok] at h
  obtain ⟨hschema, hid, hrequest, hout, herr, hrest⟩ := h
  obtain ⟨files, hfiles, hrest⟩ := bind_eq_ok.mp hrest
  simp only [check_bind_eq_ok, require_eq_ok] at hrest
  obtain ⟨hsame, -, hdigest, hsize, htruncated, hduration, hhead, hbase, hpatch, hattest,
    houtcome⟩ := hrest
  refine ⟨⟨hid, hout, herr, ?_, hpatch, hattest, houtcome, ?_⟩, ?_⟩
  · exact (Bool.and_eq_true_iff.mp hduration).1
  · simp [validate, hschema, hid, hout, herr, hfiles, hsame, hdigest, hsize, htruncated,
      hduration, hhead, hbase, hpatch, hattest, houtcome]
  · intro q hq
    cases request with
    | none => cases hq
    | some p =>
      cases hq
      simpa using hrequest

theorem readFailureCode_encode (code : Option WorkerFailureCode) :
    readFailureCode (.ofOption (code.map StrEnum.value)) = .ok code := by
  cases code with
  | none => rfl
  | some c => simp [readFailureCode, Json.truthy, c.value_ne_empty]

theorem readPatch_encode {py : Python} {r : WorkerExecutionResult}
    (h : r.validatePatch py = .ok ()) :
    readPatch (.nullable BoundedOutput.encode r.patch) = .ok r.patch := by
  cases hp : r.patch with
  | none => rfl
  | some patch =>
    simp only [validatePatch, hp] at h
    have hvalid := (check_bind_eq_ok.mp h).1
    have htruthy : patch.encode.truthy = true := by simp [BoundedOutput.encode, Json.truthy]
    simp [readPatch, htruthy, BoundedOutput.fromDict_encode hvalid]

/-- A valid result is read back from its dictionary. -/
theorem fromDict_encode {py : Python} {r : WorkerExecutionResult} (h : r.validate py = .ok ()) :
    fromDict py r.encode = .ok r := by
  have hv := (valid_of_validate h).1
  simp [fromDict, encode, encodedFields, fieldNames, requiredNames, Fields.keys, h, readFailureCode_encode,
    readPatch_encode hv.patch, BoundedOutput.fromDict_encode hv.stdout,
    BoundedOutput.fromDict_encode hv.stderr, WorkerAttestation.fromDict_encode hv.attestation]

/-- Whatever is read from a dictionary is valid. -/
theorem validate_of_fromDict {py : Python} {value : Json} {r : WorkerExecutionResult}
    (h : fromDict py value = .ok r) : r.validate py = .ok () := by
  simp only [fromDict, bind_eq_ok] at h
  obtain ⟨_, -, _, -, _, -, _, -, _, -, _, -, _, -, _, -, _, -, _, -, _, -, _, -, _, -, _, -, _, -,
    _, -, _, -, _, -, ⟨⟩, hvalid, heq⟩ := h
  cases heq
  exact hvalid

/-- The status determines whether the failure code is `worker_crash`. -/
theorem Valid.crash_iff_unknown {py : Python} {r : WorkerExecutionResult} (h : r.Valid py) :
    r.failure_code = some .workerCrash ↔ r.status = .unknown := by
  have ho := h.outcome
  by_cases hs : r.status = .succeeded
  · simp [validateOutcome, hs] at ho
    simp [hs, ho]
  · simp [validateOutcome, hs] at ho
    obtain ⟨-, hunknown, hcrash⟩ := ho
    exact ⟨fun hc => hcrash.resolve_left (by simp [hc]),
      fun hu => hunknown.resolve_left (by simp [hu])⟩

/-- The dictionary of a valid result holds finite numbers only. -/
theorem Valid.finite_encode {py : Python} {r : WorkerExecutionResult} (h : r.Valid py) :
    r.encode.finite = true := by
  have hint (i : Option Int) : (intOrNull i).finite = true := by
    cases i <;> simp [intOrNull, Json.finite]
  have hout (o : BoundedOutput) : o.encode.finite = true := by
    simp [BoundedOutput.encode, Json.finite, Json.finiteFields, hint]
  have hnumber : r.duration_seconds.toJson.finite = true := by
    have hfinite := h.duration
    cases hd : r.duration_seconds with
    | int _ => simp [PyNumber.toJson, Json.finite]
    | float number =>
      rw [hd] at hfinite
      cases number with
      | finite _ => simp [PyNumber.toJson, Json.finite]
      | infinite _ => simp [PyNumber.finite] at hfinite
      | nan => simp [PyNumber.finite] at hfinite
  have hpatch : (Json.nullable BoundedOutput.encode r.patch).finite = true := by
    cases r.patch with
    | none => rfl
    | some patch => exact hout patch
  simp [encode, encodedFields, Json.finite, Json.finiteFields, hint, hout, hnumber, hpatch,
    WorkerAttestation.encode]

end WorkerExecutionResult

end AtlasOS.Worker
