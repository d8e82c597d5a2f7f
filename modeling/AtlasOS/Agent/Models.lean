import AtlasOS.Agent.Enums
import AtlasOS.Lib.Path
import AtlasOS.Worker.Contracts

/-!
# The records of the Agent

The immutable records that the Agent keeps for its workflows, approvals and
planning sessions, in the order in which they are built from one another. A
field that its reader does not check has type `Unchecked`. The checks of a
record's `__post_init__` are a function of the record, and the stores hold the
records that passed them.
-/

namespace AtlasOS.Agent

open Worker

/-- The serialization of the Agent context, which is validated by its model
library: a context is read back from its own dump. -/
structure ContextModel (Ctx : Type) where
  /-- `context.model_dump(mode="json")` -/
  dump : Ctx → Json
  /-- `AgentContext.model_validate(payload)` -/
  validate : Json → Except PyError Ctx
  /-- A dump validates to the context it was made from. -/
  validate_dump : ∀ c, validate (dump c) = .ok c
  /-- A dump is an object. -/
  dump_ne_null : ∀ c, dump c ≠ .null

attribute [simp] ContextModel.validate_dump ContextModel.dump_ne_null

/-- The serialization of contexts that are their own fields. -/
def ContextModel.fields : ContextModel Fields where
  dump := .obj
  validate := Json.asDict
  validate_dump _ := rfl
  dump_ne_null _ := by simp

/-! ## Planning and execution -/

/-- Explicit roadmap checkpoint supplied to the planning engine. -/
structure RoadmapCheckpoint where
  identifier : String
  title : String
  goal : String
  scope_items : List String
  affected_files : List Path
  required_tests : List String
  risks : List String
  deriving DecidableEq

/-- One traceable implementation risk. -/
structure PlanRisk where
  code : String
  summary : String
  source : String
  deriving DecidableEq

/-- Validated implementation plan tied to repository state. -/
structure ImplementationPlan where
  checkpoint_id : String
  title : String
  goal : String
  repository_root : Path
  branch : Unchecked
  head_commit : Unchecked
  scope_items : List String
  affected_files : List Path
  required_tests : List String
  risks : List PlanRisk
  deriving DecidableEq

/-- One immutable environment override. -/
structure EnvironmentVariable where
  name : String
  value : String
  value_digest : Option String := none
  redacted : Bool := false
  deriving DecidableEq

/-- Immutable result of an execution attempt. -/
structure ExecutionResult where
  request_id : String
  checkpoint_id : String
  argv : List String
  working_directory : Path
  status : ExecutionStatus
  return_code : Unchecked
  stdout : String
  stderr : String
  duration_seconds : PyFloat
  error : Unchecked
  worker_result : Option WorkerExecutionResult
  deriving DecidableEq

/-- Definition of one verification command. -/
structure VerificationCheck where
  identifier : String
  argv : List String
  working_directory : Path
  timeout_seconds : Unchecked := .null
  environment : List EnvironmentVariable := []
  deriving DecidableEq

/-- Immutable result from one verification check. -/
structure VerificationCheckResult where
  identifier : String
  argv : List String
  working_directory : Path
  status : VerificationStatus
  return_code : Unchecked
  stdout : String
  stderr : String
  duration_seconds : PyFloat
  error : Unchecked
  deriving DecidableEq

/-- Structured report for an ordered verification suite. -/
structure VerificationReport (Ctx : Type) where
  repository_root : Path
  results : List VerificationCheckResult
  status : VerificationStatus
  duration_seconds : PyFloat
  context : Option Ctx
  deriving DecidableEq

/-- One caller-supplied architecture assessment. -/
structure ArchitectureAssessment where
  identifier : String
  summary : String
  passed : Bool
  evidence : String
  recommendation : Unchecked
  deriving DecidableEq

/-- Mapping from one required test to one verification check. -/
structure TestEvidence where
  requirement : String
  check_identifier : String
  deriving DecidableEq

/-- One traceable review finding. -/
structure ReviewFinding where
  code : String
  category : ReviewCategory
  severity : ReviewSeverity
  summary : String
  evidence : String
  recommendation : String
  deriving DecidableEq

/-- Immutable structured implementation review. -/
structure ReviewReport where
  request_id : String
  checkpoint_id : String
  status : ReviewStatus
  findings : List ReviewFinding
  recommendations : List String
  deriving DecidableEq

/-- One explicit, repository-scoped commit request. -/
structure CommitRequest where
  repository_root : Path
  expected_branch : Unchecked
  expected_head : Unchecked
  paths : List Path
  message : String
  deriving DecidableEq

/-- Immutable metadata for one completed local commit. -/
structure CommitResult where
  repository_root : Path
  branch : Unchecked
  parent_head : Unchecked
  commit_sha : String
  message : String
  committed_files : List Path
  deriving DecidableEq

/-- Normalized response returned by a model provider. -/
structure ModelResponse where
  text : String
  model : String
  provider_id : String
  deriving DecidableEq

/-- Current sprint status. -/
structure SprintStatus where
  checkpoint_id : String
  title : String
  goal : String
  phase : SprintPhase
  deriving DecidableEq

/-- Immutable request to execute one workflow. -/
structure WorkflowRequest where
  checkpoint : RoadmapCheckpoint
  repository_root : Path
  execution_identifier : String
  execution_argv : List String
  execution_workdir : Path
  verification_checks : List VerificationCheck
  review_identifier : String
  architecture_assessments : List ArchitectureAssessment := []
  test_evidence : List TestEvidence := []
  deriving DecidableEq

/-! ## Candidate planning -/

/-- Immutable, actionable compose mutation evidence. -/
structure ComposeMutationSpecification where
  file : Path
  service : String
  property : String
  operation : String
  desired_value : String
  expected_value : Unchecked
  preservation_constraints : List String
  deriving DecidableEq

/-- Immutable provider-resource identity supplied by Atlas Core. -/
structure OperationalTargetReference where
  provider_id : String
  resource_id : String
  resource_type : String
  resource_fingerprint : String
  resource_version : Unchecked
  expected_state : String
  deriving DecidableEq

/-- Sanitized authoritative candidate snapshot returned by Atlas Core. -/
structure CandidateSnapshot where
  candidate_id : String
  candidate_fingerprint : String
  source_recommendation_id : String
  source_subsystem : String
  recommendation_class : String
  catalog_item_id : Unchecked
  target_id : String
  target_type : String
  execution_category : String
  execution_intent : String
  required_approval_level : String
  rationale : String
  constraints : List String
  evidence_ids : List String
  compatibility_assessment_id : Unchecked
  compatibility_status : Unchecked
  relationship_ids : List String
  expires_at : Option DateTime
  intake_status : CoreCandidatePlanningIntakeStatus
  intake_reason_codes : List String
  intake_timestamp : DateTime
  effect_kind : WorkflowEffectKind
  mutation : Option ComposeMutationSpecification
  operational_target : Option OperationalTargetReference
  deriving DecidableEq

/-- Sanitized planning failure attached to a candidate-planning session. -/
structure CandidatePlanningFailure where
  code : CandidatePlanningFailureCode
  message : String
  deriving DecidableEq

/-- Read-only descriptive plan for a candidate-planning session. -/
structure CandidatePlan where
  identifier : String
  session_id : String
  candidate_id : String
  candidate_fingerprint : String
  title : String
  objective : String
  assumptions : List String
  constraints : List String
  proposed_steps : List String
  likely_affected_components : List String
  likely_affected_files : List Path
  verification_strategy : List String
  rollback_considerations : List String
  unresolved_questions : List String
  evidence_ids : List String
  created_at : DateTime
  repository_root : Path
  repository_branch : Unchecked
  repository_head : Unchecked
  revalidated_candidate_fingerprint : String
  mutation : Option ComposeMutationSpecification
  deriving DecidableEq

/-- Non-executable verification contract for a future operational action. -/
structure OperationalVerificationSpecification where
  pre_state : String
  expected_post_state : String
  identity_fingerprint : String
  health_requirement : String
  unknown_outcome_policy : String
  deriving DecidableEq

/-- Repository-independent descriptive plan for an operational action. -/
structure OperationalCandidatePlan where
  identifier : String
  session_id : String
  candidate_id : String
  candidate_fingerprint : String
  effect_kind : WorkflowEffectKind
  execution_intent : String
  provider_id : String
  resource_id : String
  resource_type : String
  target_fingerprint : String
  target_version : Unchecked
  expected_pre_state : String
  intended_action : String
  disruption_scope : String
  verification : OperationalVerificationSpecification
  failure_considerations : List String
  evidence_ids : List String
  created_at : DateTime
  revalidated_candidate_fingerprint : String
  deriving DecidableEq

/-- `OperationalCandidatePlan.__post_init__` -/
def OperationalCandidatePlan.postInit (p : OperationalCandidatePlan) : Except PyError Unit :=
  require (decide (p.effect_kind = .operationalAction))
    (.valueError "operational plans require operational_action effect kind")

/-- Immutable planning-only session for one accepted current candidate. -/
structure CandidatePlanningSession where
  identifier : String
  candidate_id : String
  candidate_fingerprint : String
  status : CandidatePlanningSessionStatus
  snapshot : CandidateSnapshot
  created_at : DateTime
  unsupported_reason : Unchecked := .null
  planning_status : CandidatePlanningSessionStatus := .readyForPlanning
  plan : Option CandidatePlan := none
  operational_plan : Option OperationalCandidatePlan := none
  planning_failure : Option CandidatePlanningFailure := none
  planning_started_at : Option DateTime := none
  planning_completed_at : Option DateTime := none
  last_revalidation_fingerprint : Unchecked := .null
  last_revalidation_status : Option CoreCandidatePlanningIntakeStatus := none
  workflow_session_id : Unchecked := .null
  implementation_approval_request_id : Unchecked := .null
  candidate_plan_fingerprint : Unchecked := .null
  workflow_conversion_status : Option CandidatePlanningSessionStatus := none
  workflow_conversion_completed_at : Option DateTime := none
  implementation_request_id : Unchecked := .null
  exact_implementation_approval_request_id : Unchecked := .null
  implementation_translation_status : Option CandidatePlanningSessionStatus := none
  implementation_translation_completed_at : Option DateTime := none
  predecessor_session_id : Unchecked := .null
  successor_session_id : Unchecked := .null
  deriving DecidableEq

/-- `CandidatePlanningSession.__post_init__` -/
def CandidatePlanningSession.postInit (s : CandidatePlanningSession) : Except PyError Unit :=
  require (!(s.plan.isSome && s.operational_plan.isSome))
    (.valueError
      "candidate planning sessions cannot carry both repository and operational plans")

/-- Immutable exact candidate-derived implementation request awaiting approval. -/
structure CandidateImplementationRequest where
  identifier : String
  workflow_session_id : String
  candidate_planning_session_id : String
  candidate_id : String
  candidate_fingerprint : String
  candidate_plan_id : String
  candidate_plan_fingerprint : String
  execution_intent : String
  repository_root : Path
  repository_branch : Unchecked
  repository_head : String
  argv : List String
  working_directory : Path
  affected_files : List Path
  evidence_ids : List String
  compatibility_assessment_id : Unchecked
  compatibility_status : Unchecked
  translator_version : String
  generated_at : DateTime
  deriving DecidableEq

/-- Immutable non-executable request for a future operational action. -/
structure OperationalActionRequest where
  request_id : String
  request_digest : String
  idempotency_key : String
  workflow_session_id : String
  candidate_planning_session_id : String
  candidate_id : String
  candidate_fingerprint : String
  candidate_plan_id : String
  candidate_plan_fingerprint : String
  effect_kind : WorkflowEffectKind
  execution_intent : String
  provider_id : String
  resource_id : String
  resource_type : String
  provider_action_id : String
  target_fingerprint : String
  target_version : Unchecked
  disruption_scope : String
  evidence_ids : List String
  expected_pre_state : String
  verification : OperationalVerificationSpecification
  expires_at : DateTime
  translator_version : String
  generated_at : DateTime
  deriving DecidableEq

/-- `_versioned_digest` -/
def versionedDigest (py : Python) (prefixText : String) (payload : Fields) : String :=
  prefixText ++ ":" ++ py.sha256 (py.dumps (.obj payload))

/-- `OPERATIONAL_REQUEST_DIGEST_VERSION` -/
def OPERATIONAL_REQUEST_DIGEST_VERSION : String := "operational-action-request-digest-v1"

/-- `OPERATIONAL_IDEMPOTENCY_KEY_VERSION` -/
def OPERATIONAL_IDEMPOTENCY_KEY_VERSION : String := "operational-action-execution-key-v1"

/-- `OPERATIONAL_VERIFICATION_DIGEST_VERSION` -/
def OPERATIONAL_VERIFICATION_DIGEST_VERSION : String := "operational-verification-digest-v1"

/-- `operational_verification_digest` -/
def operationalVerificationDigest (py : Python) (v : OperationalVerificationSpecification) :
    String :=
  versionedDigest py OPERATIONAL_VERIFICATION_DIGEST_VERSION
    [("expected_post_state", .str v.expected_post_state),
      ("health_requirement", .str v.health_requirement),
      ("identity_fingerprint", .str v.identity_fingerprint),
      ("pre_state", .str v.pre_state),
      ("unknown_outcome_policy", .str v.unknown_outcome_policy),
      ("version", .str OPERATIONAL_VERIFICATION_DIGEST_VERSION)]

/-- `operational_action_request_digest` -/
def operationalActionRequestDigest (py : Python) (r : OperationalActionRequest) : String :=
  versionedDigest py OPERATIONAL_REQUEST_DIGEST_VERSION
    [("candidate_fingerprint", .str r.candidate_fingerprint),
      ("candidate_id", .str r.candidate_id),
      ("candidate_plan_fingerprint", .str r.candidate_plan_fingerprint),
      ("candidate_plan_id", .str r.candidate_plan_id),
      ("candidate_planning_session_id", .str r.candidate_planning_session_id),
      ("disruption_scope", .str r.disruption_scope),
      ("effect_kind", .str (StrEnum.value r.effect_kind)),
      ("evidence_ids", .arr ((r.evidence_ids.insertionSort (· ≤ ·)).map .str)),
      ("execution_intent", .str r.execution_intent),
      ("expected_pre_state", .str r.expected_pre_state),
      ("expires_at", .str (py.isoformat r.expires_at)),
      ("generated_at", .str (py.isoformat r.generated_at)),
      ("provider_action_id", .str r.provider_action_id),
      ("provider_id", .str r.provider_id),
      ("request_id", .str r.request_id),
      ("resource_id", .str r.resource_id),
      ("resource_type", .str r.resource_type),
      ("target_fingerprint", .str r.target_fingerprint),
      ("target_version", r.target_version),
      ("translator_version", .str r.translator_version),
      ("verification_digest", .str (operationalVerificationDigest py r.verification)),
      ("version", .str OPERATIONAL_REQUEST_DIGEST_VERSION),
      ("workflow_session_id", .str r.workflow_session_id)]

/-- `operational_action_idempotency_key` -/
def operationalActionIdempotencyKey (py : Python) (request_id request_digest : String) : String :=
  versionedDigest py OPERATIONAL_IDEMPOTENCY_KEY_VERSION
    [("request_digest", .str request_digest), ("request_id", .str request_id),
      ("version", .str OPERATIONAL_IDEMPOTENCY_KEY_VERSION)]

/-- `resolve_provider_action_id` -/
def resolveProviderActionId (execution_intent provider_id resource_type : String) :
    Except PyError String :=
  if (execution_intent, provider_id, resource_type) = ("restart-service", "proxmox", "qemu") then
    .ok "proxmox-qemu-graceful-restart-v1"
  else .error (.valueError "unsupported operational translation combination")

/-- `OperationalActionRequest.__post_init__`, which fills in an absent digest and key. -/
def OperationalActionRequest.postInit (py : Python) (r : OperationalActionRequest) :
    Except PyError OperationalActionRequest := do
  require (decide (r.effect_kind = .operationalAction))
    (.valueError "operational requests require operational_action effect kind")
  let expected_action ← resolveProviderActionId r.execution_intent r.provider_id r.resource_type
  require (decide (r.provider_action_id = expected_action))
    (.valueError "operational request action does not match closed translation")
  require (!isBlank r.target_fingerprint)
    (.valueError "operational request requires target fingerprint")
  let expired ← r.expires_at.le r.generated_at
  require (!expired) (.valueError "operational request expiry must follow generation time")
  let expected_digest := operationalActionRequestDigest py r
  let r :=
    if r.request_digest = "" ∧ r.idempotency_key = "" then
      { r with
        request_digest := expected_digest
        idempotency_key := operationalActionIdempotencyKey py r.request_id expected_digest }
    else r
  require (decide (r.request_digest = expected_digest))
    (.valueError "operational request digest does not match immutable payload")
  require (decide (r.idempotency_key =
      operationalActionIdempotencyKey py r.request_id r.request_digest))
    (.valueError "operational request idempotency key does not match")
  return r

/-! ## Candidate verification -/

/-- The verification plan of a candidate workflow. -/
structure CandidateVerificationPlan where
  identifier : String
  workflow_session_id : String
  candidate_planning_session_id : String
  candidate_id : String
  candidate_fingerprint : String
  candidate_plan_id : String
  candidate_plan_fingerprint : String
  implementation_request_id : String
  execution_result_id : String
  repository_root : Path
  repository_branch : Unchecked
  base_head : String
  post_execution_head : String
  baseline_status : Option (List (String × String))
  post_execution_status : Option (List (String × String))
  changed_files : List Path
  changed_files_digest : String
  approved_affected_files : List Path
  verification_checks : List VerificationCheck
  verifier_version : String
  generated_at : DateTime
  deriving DecidableEq

/-- The evidence of one verification check. -/
structure CandidateVerificationCheckEvidence where
  identifier : String
  status : VerificationStatus
  return_code : Unchecked
  stdout_digest : String
  stderr_digest : String
  output_truncated : Bool
  duration_seconds : PyFloat
  error : Unchecked
  deriving DecidableEq

/-- The evidence of one verification run. -/
structure CandidateVerificationEvidence where
  identifier : String
  verification_plan_id : String
  workflow_id : String
  candidate_id : String
  candidate_fingerprint : String
  plan_fingerprint : String
  implementation_request_id : String
  changed_files_digest : String
  repository_branch : Unchecked
  repository_head : Unchecked
  check_results : List CandidateVerificationCheckEvidence
  status : VerificationStatus
  started_at : DateTime
  completed_at : DateTime
  verifier_version : String
  deriving DecidableEq

/-- The result of the deterministic review of a candidate. -/
structure CandidateReviewResult where
  identifier : String
  verification_plan_id : String
  verification_evidence_id : String
  workflow_id : String
  status : ReviewStatus
  failure_code : Option CandidateVerificationFailureCode
  reviewed_content_fingerprint : Unchecked
  generated_at : DateTime
  deriving DecidableEq

/-! ## Workflow sessions -/

/-- Minimal non-secret reference to a Core operational lifecycle. -/
structure OperationalExecutionReference where
  request_id : String
  request_digest : String
  stage : OperationalExecutionStage
  dispatch_status : Unchecked
  ledger_state : Unchecked
  provider_operation_id : Unchecked
  verification_status : Unchecked
  submitted_at : Option DateTime
  last_observed_at : DateTime
  terminal : Bool
  controlled_reason : Unchecked
  audit_events : List String
  deriving DecidableEq

/-- Immutable audit linkage for a candidate-derived workflow shell. -/
structure CandidateWorkflowMetadata where
  candidate_planning_session_id : String
  candidate_id : String
  candidate_fingerprint : String
  candidate_plan_id : String
  candidate_plan_fingerprint : String
  source_recommendation_id : String
  source_subsystem : String
  catalog_item_id : Unchecked
  target_id : String
  target_type : String
  execution_category : String
  execution_intent : String
  evidence_ids : List String
  compatibility_assessment_id : Unchecked
  compatibility_status : Unchecked
  relationship_ids : List String
  conversion_timestamp : DateTime
  core_revalidation_status : String
  core_revalidation_fingerprint : String
  effect_kind : WorkflowEffectKind
  deriving DecidableEq

/-- Immutable identity and artifacts for one planned workflow. -/
structure WorkflowSession (Ctx : Type) where
  identifier : String
  request : Option WorkflowRequest
  plan : Option ImplementationPlan
  state : WorkflowSessionState
  effect_kind : WorkflowEffectKind
  source : WorkflowSource := .roadmap
  candidate_metadata : Option CandidateWorkflowMetadata := none
  candidate_implementation_request : Option CandidateImplementationRequest := none
  operational_action_request : Option OperationalActionRequest := none
  candidate_implementation_approval_id : Unchecked := .null
  operational_action_approval_id : Unchecked := .null
  operational_execution_reference : Option OperationalExecutionReference := none
  planning_analysis : Option ModelResponse := none
  review_analysis : Option ModelResponse := none
  context : Option Ctx := none
  execution_result : Option ExecutionResult := none
  worker_execution_request : Option WorkerExecutionRequest := none
  worker_patch_applied : Bool := false
  worker_baseline_status : Option (List (String × String)) := none
  changed_files : List Path := []
  verification_report : Option (VerificationReport Ctx) := none
  candidate_verification_plan : Option CandidateVerificationPlan := none
  candidate_verification_evidence : Option CandidateVerificationEvidence := none
  review_report : Option ReviewReport := none
  candidate_review_result : Option CandidateReviewResult := none
  commit_request : Option CommitRequest := none
  commit_result : Option CommitResult := none
  reviewed_files : List Path := []
  expected_branch : Unchecked := .null
  expected_head : Unchecked := .null
  reviewed_content_fingerprint : Unchecked := .null
  blocked_reason : Unchecked := .null

namespace WorkflowSession

variable {Ctx : Type}

/-- `WorkflowSession.can_reconcile_worker` -/
def canReconcileWorker (s : WorkflowSession Ctx) : Bool :=
  decide (s.state = .blocked) && decide (s.source = .candidate) &&
    decide (s.effect_kind = .repositoryChange) && s.worker_execution_request.isSome &&
    !s.worker_patch_applied &&
    s.execution_result.all fun result => decide (result.status = .unknown)

/-- Whether a worker request is the one of a candidate's implementation. -/
def matchesWorker (s : WorkflowSession Ctx) (worker : WorkerExecutionRequest) : Bool :=
  decide (s.source = .candidate) && decide (s.effect_kind = .repositoryChange) &&
    s.candidate_implementation_request.any fun implementation =>
      decide (worker.workflow_id = s.identifier) &&
      decide (worker.execution_request_id = implementation.identifier) &&
      decide (worker.candidate_id = implementation.candidate_id) &&
      decide (worker.candidate_fingerprint = implementation.candidate_fingerprint) &&
      decide (worker.plan_id = implementation.candidate_plan_id) &&
      decide (worker.plan_fingerprint = implementation.candidate_plan_fingerprint)

/-- The checks of `__post_init__` on the worker request. -/
def postInitWorker (py : Python) (s : WorkflowSession Ctx) : Except PyError Unit :=
  match s.worker_execution_request with
  | none => .ok ()
  | some worker => do
      worker.validate py
      require (s.matchesWorker worker)
        (.valueError "worker request does not match candidate workflow")

/-- The checks of `__post_init__` on the operational request. -/
def postInitOperational (s : WorkflowSession Ctx) : Except PyError Unit :=
  match s.operational_action_request with
  | none => .ok ()
  | some request => do
      let metadata ← expect s.candidate_metadata
        (.valueError "operational requests require candidate metadata")
      require (decide (request.workflow_session_id = s.identifier) &&
          decide (request.candidate_id = metadata.candidate_id) &&
          decide (request.candidate_fingerprint = metadata.candidate_fingerprint) &&
          decide (request.candidate_plan_fingerprint = metadata.candidate_plan_fingerprint))
        (.valueError "operational request does not match workflow identity")

/-- `WorkflowSession.__post_init__` -/
def postInit (py : Python) (s : WorkflowSession Ctx) : Except PyError Unit := do
  s.postInitWorker py
  require (s.candidate_metadata.all fun m => decide (m.effect_kind = s.effect_kind))
    (.valueError "workflow effect kind must match candidate metadata")
  require (!(decide (s.effect_kind = .repositoryChange) && s.operational_action_request.isSome))
    (.valueError "repository_change workflows cannot carry operational requests")
  require (!(decide (s.effect_kind = .operationalAction) &&
      s.candidate_implementation_request.isSome))
    (.valueError "operational_action workflows cannot carry repository requests")
  require (!(decide (s.effect_kind = .repositoryChange) &&
      decide (s.operational_action_approval_id ≠ .null)))
    (.valueError "repository_change workflows cannot carry operational approvals")
  s.postInitOperational
  require (s.operational_execution_reference.all fun reference =>
      s.operational_action_request.any fun request =>
        decide (reference.request_id = request.request_id) &&
        decide (reference.request_digest = request.request_digest))
    (.valueError "operational execution reference does not match request")

end WorkflowSession

/-! ## Approvals -/

/-- Non-secret environment metadata bound to a verification approval. -/
structure VerificationApprovalEnvironment where
  name : String
  value_digest : String
  deriving DecidableEq

/-- Exact non-secret verification check metadata requiring approval. -/
structure VerificationApprovalCheck where
  identifier : String
  command : List String
  working_directory : Path
  timeout_seconds : Unchecked
  environment : List VerificationApprovalEnvironment
  deriving DecidableEq

/-- Exact non-secret metadata bound to a commit approval. -/
structure CommitApprovalMetadata where
  expected_branch : Unchecked
  expected_head : Unchecked
  reviewed_files : List Path
  reviewed_content_fingerprint : String
  commit_message : String
  deriving DecidableEq

/-- Exact semantic binding for one non-executable operational request. -/
structure OperationalApprovalMetadata where
  action_request_id : String
  action_request_digest : String
  candidate_id : String
  candidate_fingerprint : String
  operational_plan_fingerprint : String
  provider_id : String
  resource_id : String
  resource_type : String
  target_fingerprint : String
  target_version : Unchecked
  operation_intent : String
  disruption_scope : String
  verification_digest : String
  generated_at : DateTime
  expires_at : DateTime
  deriving DecidableEq

/-- `OperationalApprovalMetadata.__post_init__` -/
def OperationalApprovalMetadata.postInit (m : OperationalApprovalMetadata) :
    Except PyError Unit := do
  let expired ← m.expires_at.le m.generated_at
  require (!expired) (.valueError "operational approval expiry must follow generation time")

/-- One tool-execution request requiring human approval. -/
structure ApprovalRequest where
  identifier : String
  checkpoint_id : String
  title : String
  requested_tool : String
  requested_command : List String
  rationale : String
  workflow_id : Unchecked := .null
  requested_working_directory : Option Path := none
  purpose : ApprovalPurpose := .implementation
  verification_checks : List VerificationApprovalCheck := []
  commit_metadata : Option CommitApprovalMetadata := none
  operational_metadata : Option OperationalApprovalMetadata := none
  deriving DecidableEq

/-- Human decision for one approval request. -/
structure ApprovalDecision where
  request : ApprovalRequest
  status : ApprovalStatus
  reviewer : Unchecked := .null
  reason : Unchecked := .null
  deriving DecidableEq

/-- Immutable result derived from an approval decision. -/
structure ApprovalResult where
  decision : ApprovalDecision
  deriving DecidableEq

/-- `ApprovalResult.approved` -/
def ApprovalResult.approved (r : ApprovalResult) : Bool := decide (r.decision.status = .approved)

end AtlasOS.Agent
