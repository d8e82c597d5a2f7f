import AtlasOS.Agent.Models
import AtlasOS.Lib.Text

/-!
# The approval engine

`evaluate` checks a decision and the request in it, and returns both with their texts
stripped and the reviewed files sorted. The clock is read for an approved operational
action alone, which must not have expired.
-/

namespace AtlasOS.Agent

/-- The exceptions of `evaluate`. -/
inductive ApprovalError where
  /-- `ApprovalValidationError` -/
  | approvalValidationError (message : String)
  /-- A value that is not of the annotated type, or datetimes that cannot be compared. -/
  | other (error : PyError)
  deriving DecidableEq

namespace ApprovalEngine

/-! ## Texts -/

/-- Raise a validation error unless the condition holds. -/
def demand (condition : Bool) (message : String) : Except ApprovalError Unit :=
  if condition then .ok () else .error (.approvalValidationError message)

@[simp] theorem demand_eq_ok {condition : Bool} {message : String} :
    demand condition message = .ok () ↔ condition = true := by
  cases condition <;> simp [demand]

/-- A text that is not blank, stripped. -/
def nonblank (message text : String) : Except ApprovalError String :=
  if strip text = "" then .error (.approvalValidationError message) else .ok (strip text)

/-- `value.strip()` -/
def stripValue : Unchecked → Except ApprovalError String
  | .str text => .ok (strip text)
  | _ => .error (.other (.attributeError "object has no attribute 'strip'"))

/-- `value.strip() if value is not None else None` -/
def stripOptional : Unchecked → Except ApprovalError Unchecked
  | .null => .ok .null
  | value => (stripValue value).map .str

/-- Whether a value is there and is not blank. -/
def present : Unchecked → Except ApprovalError Bool
  | .null => .ok false
  | value => (stripValue value).map (· ≠ "")

/-! ## Verification checks -/

/-- The environment of a check, after variables with the given names. -/
def normalizeEnvironment (environment_names : List String) :
    List VerificationApprovalEnvironment →
      Except ApprovalError (List VerificationApprovalEnvironment)
  | [] => .ok []
  | entry :: later => do
      let name := strip entry.name
      demand (name ≠ "" && name ∉ environment_names)
        "Verification approval environment names must be nonblank and unique"
      demand (isHexDigest entry.value_digest)
        "Verification approval environment digests must be lowercase SHA-256 values"
      let environment ← normalizeEnvironment (name :: environment_names) later
      return ⟨name, entry.value_digest⟩ :: environment

/-- `timeout_seconds is None or not timeout_seconds <= 0` -/
def positiveTimeout : Unchecked → Except ApprovalError Bool
  | .null => .ok true
  | .bool value => .ok value
  | .int value => .ok (0 < value)
  | .float (.finite value) => .ok (0 < value)
  | .float (.infinite negative) => .ok !negative
  -- a comparison with a value that is not a number does not hold
  | .float .nan => .ok true
  | _ => .error (.other (.typeError "'<=' not supported"))

/-- A check whose identifier is normalized. -/
def normalizeCheck (identifier : String) (check : VerificationApprovalCheck) :
    Except ApprovalError VerificationApprovalCheck := do
  demand (check.command ≠ [] && check.command.all (strip · ≠ ""))
    "Verification approval commands must contain nonblank items"
  let positive ← positiveTimeout check.timeout_seconds
  demand positive "Verification approval timeout must be positive"
  let environment ← normalizeEnvironment [] check.environment
  return { check with
    identifier := identifier
    command := check.command.map strip
    environment := environment }

/-- The checks after others with the given identifiers. -/
def normalizeChecks (identifiers : List String) :
    List VerificationApprovalCheck → Except ApprovalError (List VerificationApprovalCheck)
  | [] => .ok []
  | check :: later => do
      let identifier ←
        nonblank "Verification approval check identifier cannot be blank" check.identifier
      demand (identifier ∉ identifiers) "Verification approval check identifiers must be unique"
      let normalized ← normalizeCheck identifier check
      let checks ← normalizeChecks (identifier :: identifiers) later
      return normalized :: checks

/-- `_normalize_verification_checks` -/
def normalizeVerificationChecks (request : ApprovalRequest) :
    Except ApprovalError (List VerificationApprovalCheck) :=
  if request.purpose ≠ .verification then do
    demand (request.verification_checks = [])
      "Only verification approvals may contain verification checks"
    return []
  else do
    let named ← present request.workflow_id
    demand named "Verification approvals require a workflow_id"
    demand (request.verification_checks ≠ []) "Verification approvals require at least one check"
    normalizeChecks [] request.verification_checks

/-! ## Commit metadata -/

/-- Whether a reviewed file is relative to the repository. -/
def repositoryRelative (path : Path) : Bool :=
  path.text.toList.head? ≠ some '/' && path.text ≠ "." &&
    !(pathParts path.text.toList).contains ['.', '.']

/-- The loop over the reviewed files, after others. -/
def checkReviewedFiles (normalized_files : List Path) : List Path → Except ApprovalError Unit
  | [] => .ok ()
  | path :: later => do
      demand (repositoryRelative path) "Commit approval reviewed files must be repository-relative"
      demand (path ∉ normalized_files) "Commit approval reviewed files must be unique"
      checkReviewedFiles (path :: normalized_files) later

/-- `" ".join(message.split())` -/
def normalizeMessage (message : String) : String :=
  String.ofList ([' '].intercalate (words isSpace message.toList))

/-- The metadata of a commit approval. -/
def normalizeMetadata (metadata : CommitApprovalMetadata) :
    Except ApprovalError CommitApprovalMetadata := do
  demand (metadata.reviewed_files ≠ []) "Commit approval reviewed files must not be empty"
  checkReviewedFiles [] metadata.reviewed_files
  demand (isHexDigest metadata.reviewed_content_fingerprint)
    "Commit approval fingerprints must be lowercase SHA-256 values"
  let commit_message := normalizeMessage metadata.commit_message
  demand (commit_message ≠ "") "Commit approval commit message must not be blank"
  demand (commit_message = metadata.commit_message)
    "Commit approval commit message must already be normalized"
  return { metadata with
    reviewed_files := Path.sorted metadata.reviewed_files
    commit_message := commit_message }

/-- `_normalize_commit_metadata` -/
def normalizeCommitMetadata (request : ApprovalRequest) :
    Except ApprovalError (Option CommitApprovalMetadata) :=
  if request.purpose ≠ .commit then do
    demand request.commit_metadata.isNone "Only commit approvals may contain commit metadata"
    return none
  else do
    let named ← present request.workflow_id
    demand named "Commit approvals require a workflow_id"
    demand (request.verification_checks = [])
      "Commit approvals must not contain verification checks"
    match request.commit_metadata with
    | none => .error (.approvalValidationError "Commit approvals require commit metadata")
    | some metadata => (normalizeMetadata metadata).map some

/-! ## Operational metadata -/

/-- The fields that must not be blank. -/
def requiredFields (m : OperationalApprovalMetadata) : List String :=
  [m.action_request_id, m.action_request_digest, m.candidate_id, m.candidate_fingerprint,
    m.operational_plan_fingerprint, m.provider_id, m.resource_id, m.resource_type,
    m.target_fingerprint, m.operation_intent, m.disruption_scope, m.verification_digest]

/-- `_normalize_operational_metadata` -/
def normalizeOperationalMetadata (request : ApprovalRequest) :
    Except ApprovalError (Option OperationalApprovalMetadata) :=
  if request.purpose ≠ .operationalAction then do
    demand request.operational_metadata.isNone
      "Only operational action approvals may contain operational metadata"
    return none
  else do
    demand (request.commit_metadata.isNone && request.verification_checks = [])
      "Operational action approvals cannot contain repository approval metadata"
    demand (request.requested_command = [] && request.requested_working_directory.isNone)
      "Operational action approvals cannot contain executable fields"
    let named ← present request.workflow_id
    demand named "Operational action approvals require a workflow_id"
    match request.operational_metadata with
    | none =>
        .error (.approvalValidationError
          "Operational action approvals require operational metadata")
    | some metadata => do
        demand ((requiredFields metadata).all (strip · ≠ ""))
          "Operational approval metadata fields must not be blank"
        let expired ← (metadata.expires_at.le metadata.generated_at).mapError .other
        demand (!expired) "Operational approval expiry must follow generation time"
        return some metadata

/-! ## Decisions -/

/-- The normalized request. -/
def normalizeRequest (request : ApprovalRequest) : Except ApprovalError ApprovalRequest := do
  let identifier ← nonblank "Approval request identifier cannot be blank" request.identifier
  let checkpoint_id ←
    nonblank "Approval request checkpoint_id cannot be blank" request.checkpoint_id
  let title ← nonblank "Approval request title cannot be blank" request.title
  let requested_tool ←
    nonblank "Approval request requested_tool cannot be blank" request.requested_tool
  let rationale ← nonblank "Approval request rationale cannot be blank" request.rationale
  demand (request.requested_command ≠ [] ||
      request.purpose ∈ [.candidateWorkflowShell, .operationalAction])
    "Approval request requested_command must contain at least one item"
  let requested_command ← request.requested_command.mapM
    (nonblank "Approval request requested_command items cannot be blank")
  let workflow_id ← stripOptional request.workflow_id
  let verification_checks ← normalizeVerificationChecks request
  let commit_metadata ← normalizeCommitMetadata request
  let operational_metadata ← normalizeOperationalMetadata request
  return {
    identifier := identifier
    checkpoint_id := checkpoint_id
    title := title
    requested_tool := requested_tool
    requested_command := requested_command
    rationale := rationale
    workflow_id := workflow_id
    requested_working_directory := request.requested_working_directory
    purpose := request.purpose
    verification_checks := verification_checks
    commit_metadata := commit_metadata
    operational_metadata := operational_metadata }

/-- The expiry of an approved operational action, at a reading of the clock. -/
def checkExpiry (now : DateTime) (request : ApprovalRequest) : Except ApprovalError Unit :=
  match request.purpose, request.operational_metadata with
  | .operationalAction, some metadata => do
      let expired ← (metadata.expires_at.le now).mapError .other
      demand (!expired) "Operational approval request has expired"
  | _, _ => .ok ()

/-- The checks of a decision. -/
def checkDecision (now : DateTime) (decision : ApprovalDecision) : Except ApprovalError Unit :=
  match decision.status with
  | .pending => demand (decision.reviewer = .null) "Pending decisions must not have a reviewer"
  | .approved => do
      let reviewed ← present decision.reviewer
      demand reviewed "Approved decisions must have a nonblank reviewer"
      checkExpiry now decision.request
  | .rejected => do
      let reviewed ← present decision.reviewer
      demand reviewed "Rejected decisions must have a nonblank reviewer"
      let reasoned ← present decision.reason
      demand reasoned "Rejected decisions must have a nonblank reason"

/-- `evaluate`, at a reading of the clock -/
def evaluate (now : DateTime) (decision : ApprovalDecision) :
    Except ApprovalError ApprovalResult := do
  let request ← normalizeRequest decision.request
  checkDecision now decision
  let reviewer ← stripOptional decision.reviewer
  let reason ← stripOptional decision.reason
  return ⟨⟨request, decision.status, reviewer, reason⟩⟩

end ApprovalEngine

end AtlasOS.Agent
