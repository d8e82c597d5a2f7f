import AtlasOS.Agent.Codec.Planning

/-!
# The codec of workflow sessions

The encoders and decoders of `snapshot.py` for execution results, verification
and review evidence, commits, candidate and operational requests, and the
workflow session that holds them. The encoders of worker records validate the
record, so encoding a session can fail.
-/

namespace AtlasOS.Agent

open Worker

variable {py : Python} {Ctx : Type} {ctx : ContextModel Ctx}

/-! ## Execution, verification and review -/

/-- `_encode_model_response` -/
def encodeModelResponse (r : ModelResponse) : Fields :=
  [("model", .str r.model), ("provider_id", .str r.provider_id), ("text", .str r.text)]

/-- `_decode_model_response` of an object. -/
def decodeModelResponse (payload : Fields) : Except PyError ModelResponse := do
  let text ← requireStr payload "text"
  let model ← requireStr payload "model"
  let provider_id ← requireStr payload "provider_id"
  return { text, model, provider_id }

theorem decode_encodeModelResponse (r : ModelResponse) :
    decodeModelResponse (encodeModelResponse r) = .ok r := by
  simp [decodeModelResponse, encodeModelResponse]

/-- `_encode_execution_result`, once the worker result is valid. -/
def encodeExecutionResult (r : ExecutionResult) : Fields :=
  [("argv", strings r.argv),
    ("checkpoint_id", .str r.checkpoint_id),
    ("duration_seconds", .float r.duration_seconds),
    ("error", r.error),
    ("request_id", .str r.request_id),
    ("return_code", r.return_code),
    ("status", .str (StrEnum.value r.status)),
    ("stderr", .str r.stderr),
    ("stdout", .str r.stdout),
    ("working_directory", pathJson r.working_directory),
    ("worker_result", .nullable WorkerExecutionResult.encode r.worker_result)]

/-- The validation that `to_dict` makes of a worker result. -/
def ExecutionResult.checkEncode (py : Python) (r : ExecutionResult) : Except PyError Unit :=
  match r.worker_result with
  | none => .ok ()
  | some result => result.validate py

/-- `_decode_execution_result` of an object. -/
def decodeExecutionResult (py : Python) (payload : Fields) : Except PyError ExecutionResult := do
  let request_id ← requireStr payload "request_id"
  let checkpoint_id ← requireStr payload "checkpoint_id"
  let argv ← tupleStr (payload.getD "argv" (.arr []))
  let working_directory ← decodePath (payload.get "working_directory")
  let status_text ← requireStr payload "status"
  let status ← readEnum ExecutionStatus (.str status_text)
  let return_code := payload.get "return_code"
  let stdout ← requireStr payload "stdout"
  let stderr ← requireStr payload "stderr"
  let duration_seconds ← py.float (payload.get "duration_seconds")
  let error := payload.get "error"
  let worker_result ← optionalRead (WorkerExecutionResult.fromDict py)
    (payload.get "worker_result")
  return { request_id, checkpoint_id, argv, working_directory, status, return_code, stdout,
           stderr, duration_seconds, error, worker_result }

theorem ExecutionResult.checkEncode_eq_ok {r : ExecutionResult} :
    r.checkEncode py = .ok () ↔ ∀ result ∈ r.worker_result, result.validate py = .ok () := by
  unfold checkEncode
  cases r.worker_result <;> simp

theorem decode_encodeExecutionResult {r : ExecutionResult} (h : r.checkEncode py = .ok ()) :
    decodeExecutionResult py (encodeExecutionResult r) = .ok r := by
  have hworker : optionalRead (WorkerExecutionResult.fromDict py)
      (.nullable WorkerExecutionResult.encode r.worker_result) = .ok r.worker_result :=
    optionalRead_nullable fun result hr =>
      ⟨by simp [WorkerExecutionResult.encode],
        WorkerExecutionResult.fromDict_encode (ExecutionResult.checkEncode_eq_ok.mp h result hr)⟩
  simp [decodeExecutionResult, encodeExecutionResult, hworker]

theorem checkEncode_of_decodeExecutionResult {payload : Fields} {r : ExecutionResult}
    (h : decodeExecutionResult py payload = .ok r) : r.checkEncode py = .ok () := by
  simp only [decodeExecutionResult, bind_eq_ok, pure_eq_ok, Except.ok.injEq] at h
  obtain ⟨_, -, _, -, _, -, _, -, _, -, _, -, _, -, _, -, _, -, worker, hworker, rfl⟩ := h
  exact ExecutionResult.checkEncode_eq_ok.mpr
    (optionalRead_forall (fun _ _ => WorkerExecutionResult.validate_of_fromDict) hworker)

/-- `_encode_verification_check_result` -/
def encodeVerificationCheckResult (r : VerificationCheckResult) : Fields :=
  [("argv", strings r.argv),
    ("duration_seconds", .float r.duration_seconds),
    ("error", r.error),
    ("identifier", .str r.identifier),
    ("return_code", r.return_code),
    ("status", .str (StrEnum.value r.status)),
    ("stderr", .str r.stderr),
    ("stdout", .str r.stdout),
    ("working_directory", pathJson r.working_directory)]

/-- `_decode_verification_check_result` -/
def decodeVerificationCheckResult (py : Python) (payload : Fields) :
    Except PyError VerificationCheckResult := do
  let identifier ← requireStr payload "identifier"
  let argv ← tupleStr (payload.getD "argv" (.arr []))
  let working_directory ← decodePath (payload.get "working_directory")
  let status_text ← requireStr payload "status"
  let status ← readEnum VerificationStatus (.str status_text)
  let return_code := payload.get "return_code"
  let stdout ← requireStr payload "stdout"
  let stderr ← requireStr payload "stderr"
  let duration_seconds ← py.float (payload.get "duration_seconds")
  let error := payload.get "error"
  return { identifier, argv, working_directory, status, return_code, stdout, stderr,
           duration_seconds, error }

theorem decode_encodeVerificationCheckResult (r : VerificationCheckResult) :
    decodeVerificationCheckResult py (encodeVerificationCheckResult r) = .ok r := by
  simp [decodeVerificationCheckResult, encodeVerificationCheckResult]

/-- `_decode_context` -/
def decodeContext (ctx : ContextModel Ctx) : Json → Except PyError (Option Ctx) :=
  optionalRead ctx.validate

@[simp] theorem decodeContext_dump (context : Option Ctx) :
    decodeContext ctx (.nullable ctx.dump context) = .ok context :=
  optionalRead_nullable fun c _ => ⟨ctx.dump_ne_null c, ctx.validate_dump c⟩

/-- `_encode_verification_report` -/
def encodeVerificationReport (ctx : ContextModel Ctx) (r : VerificationReport Ctx) : Fields :=
  [("context", .nullable ctx.dump r.context),
    ("duration_seconds", .float r.duration_seconds),
    ("repository_root", pathJson r.repository_root),
    ("results", objects encodeVerificationCheckResult r.results),
    ("status", .str (StrEnum.value r.status))]

/-- `_decode_verification_report` of an object. -/
def decodeVerificationReport (py : Python) (ctx : ContextModel Ctx) (payload : Fields) :
    Except PyError (VerificationReport Ctx) := do
  let repository_root ← decodePath (payload.get "repository_root")
  let results ← objectList (decodeVerificationCheckResult py) (payload.getD "results" (.arr []))
  let status_text ← requireStr payload "status"
  let status ← readEnum VerificationStatus (.str status_text)
  let duration_seconds ← py.float (payload.get "duration_seconds")
  let context ← decodeContext ctx (payload.get "context")
  return { repository_root, results, status, duration_seconds, context }

theorem decode_encodeVerificationReport (r : VerificationReport Ctx) :
    decodeVerificationReport py ctx (encodeVerificationReport ctx r) = .ok r := by
  simp [decodeVerificationReport, encodeVerificationReport,
    objectList_self decode_encodeVerificationCheckResult]

/-- `_encode_review_finding` -/
def encodeReviewFinding (f : ReviewFinding) : Fields :=
  [("category", .str (StrEnum.value f.category)),
    ("code", .str f.code),
    ("evidence", .str f.evidence),
    ("recommendation", .str f.recommendation),
    ("severity", .str (StrEnum.value f.severity)),
    ("summary", .str f.summary)]

/-- `_decode_review_finding` -/
def decodeReviewFinding (payload : Fields) : Except PyError ReviewFinding := do
  let code ← requireStr payload "code"
  let category_text ← requireStr payload "category"
  let category ← readEnum ReviewCategory (.str category_text)
  let severity_text ← requireStr payload "severity"
  let severity ← readEnum ReviewSeverity (.str severity_text)
  let summary ← requireStr payload "summary"
  let evidence ← requireStr payload "evidence"
  let recommendation ← requireStr payload "recommendation"
  return { code, category, severity, summary, evidence, recommendation }

theorem decode_encodeReviewFinding (f : ReviewFinding) :
    decodeReviewFinding (encodeReviewFinding f) = .ok f := by
  simp [decodeReviewFinding, encodeReviewFinding]

/-- `_encode_review_report` -/
def encodeReviewReport (r : ReviewReport) : Fields :=
  [("checkpoint_id", .str r.checkpoint_id),
    ("findings", objects encodeReviewFinding r.findings),
    ("recommendations", strings r.recommendations),
    ("request_id", .str r.request_id),
    ("status", .str (StrEnum.value r.status))]

/-- `_decode_review_report` of an object. -/
def decodeReviewReport (payload : Fields) : Except PyError ReviewReport := do
  let request_id ← requireStr payload "request_id"
  let checkpoint_id ← requireStr payload "checkpoint_id"
  let status_text ← requireStr payload "status"
  let status ← readEnum ReviewStatus (.str status_text)
  let findings ← objectList decodeReviewFinding (payload.getD "findings" (.arr []))
  let recommendations ← tupleStr (payload.getD "recommendations" (.arr []))
  return { request_id, checkpoint_id, status, findings, recommendations }

theorem decode_encodeReviewReport (r : ReviewReport) :
    decodeReviewReport (encodeReviewReport r) = .ok r := by
  simp [decodeReviewReport, encodeReviewReport, objectList_self decode_encodeReviewFinding]

/-- `_encode_commit_request` -/
def encodeCommitRequest (r : CommitRequest) : Fields :=
  [("expected_branch", r.expected_branch),
    ("expected_head", r.expected_head),
    ("message", .str r.message),
    ("paths", paths r.paths),
    ("repository_root", pathJson r.repository_root)]

/-- `_decode_commit_request` of an object. -/
def decodeCommitRequest (payload : Fields) : Except PyError CommitRequest := do
  let repository_root ← decodePath (payload.get "repository_root")
  let expected_branch := payload.get "expected_branch"
  let expected_head := payload.get "expected_head"
  let paths ← tuplePath (payload.getD "paths" (.arr []))
  let message ← requireStr payload "message"
  return { repository_root, expected_branch, expected_head, paths, message }

theorem decode_encodeCommitRequest (r : CommitRequest) :
    decodeCommitRequest (encodeCommitRequest r) = .ok r := by
  simp [decodeCommitRequest, encodeCommitRequest]

/-- `_encode_commit_result` -/
def encodeCommitResult (r : CommitResult) : Fields :=
  [("branch", r.branch),
    ("commit_sha", .str r.commit_sha),
    ("committed_files", paths r.committed_files),
    ("message", .str r.message),
    ("parent_head", r.parent_head),
    ("repository_root", pathJson r.repository_root)]

/-- `_decode_commit_result` of an object. -/
def decodeCommitResult (payload : Fields) : Except PyError CommitResult := do
  let repository_root ← decodePath (payload.get "repository_root")
  let branch := payload.get "branch"
  let parent_head := payload.get "parent_head"
  let commit_sha ← requireStr payload "commit_sha"
  let message ← requireStr payload "message"
  let committed_files ← tuplePath (payload.getD "committed_files" (.arr []))
  return { repository_root, branch, parent_head, commit_sha, message, committed_files }

theorem decode_encodeCommitResult (r : CommitResult) :
    decodeCommitResult (encodeCommitResult r) = .ok r := by
  simp [decodeCommitResult, encodeCommitResult]

/-! ## Candidate and operational requests -/

/-- `_encode_candidate_workflow_metadata` -/
def encodeCandidateWorkflowMetadata (py : Python) (m : CandidateWorkflowMetadata) : Fields :=
  [("candidate_fingerprint", .str m.candidate_fingerprint),
    ("candidate_id", .str m.candidate_id),
    ("candidate_plan_fingerprint", .str m.candidate_plan_fingerprint),
    ("candidate_plan_id", .str m.candidate_plan_id),
    ("candidate_planning_session_id", .str m.candidate_planning_session_id),
    ("catalog_item_id", m.catalog_item_id),
    ("compatibility_assessment_id", m.compatibility_assessment_id),
    ("compatibility_status", m.compatibility_status),
    ("conversion_timestamp", datetimeJson py m.conversion_timestamp),
    ("core_revalidation_fingerprint", .str m.core_revalidation_fingerprint),
    ("core_revalidation_status", .str m.core_revalidation_status),
    ("evidence_ids", strings m.evidence_ids),
    ("execution_category", .str m.execution_category),
    ("execution_intent", .str m.execution_intent),
    ("effect_kind", .str (StrEnum.value m.effect_kind)),
    ("relationship_ids", strings m.relationship_ids),
    ("source_recommendation_id", .str m.source_recommendation_id),
    ("source_subsystem", .str m.source_subsystem),
    ("target_id", .str m.target_id),
    ("target_type", .str m.target_type)]

/-- The effect kind of a record, which snapshots of version 1 do not have. -/
def readEffectKind (schema_version : ℕ) (payload : Fields) : Except PyError WorkflowEffectKind :=
  if schema_version = 1 then .ok .repositoryChange
  else do
    let text ← requireStr payload "effect_kind"
    readEnum WorkflowEffectKind (.str text)

/-- `_decode_candidate_workflow_metadata` of an object. -/
def decodeCandidateWorkflowMetadata (py : Python) (schema_version : ℕ) (payload : Fields) :
    Except PyError CandidateWorkflowMetadata := do
  let candidate_planning_session_id ← requireStr payload "candidate_planning_session_id"
  let candidate_id ← requireStr payload "candidate_id"
  let candidate_fingerprint ← requireStr payload "candidate_fingerprint"
  let candidate_plan_id ← requireStr payload "candidate_plan_id"
  let candidate_plan_fingerprint ← requireStr payload "candidate_plan_fingerprint"
  let source_recommendation_id ← requireStr payload "source_recommendation_id"
  let source_subsystem ← requireStr payload "source_subsystem"
  let catalog_item_id := payload.get "catalog_item_id"
  let target_id ← requireStr payload "target_id"
  let target_type ← requireStr payload "target_type"
  let execution_category ← requireStr payload "execution_category"
  let execution_intent ← requireStr payload "execution_intent"
  let evidence_ids ← tupleStr (payload.getD "evidence_ids" (.arr []))
  let compatibility_assessment_id := payload.get "compatibility_assessment_id"
  let compatibility_status := payload.get "compatibility_status"
  let relationship_ids ← tupleStr (payload.getD "relationship_ids" (.arr []))
  let conversion_timestamp ← decodeDatetime py (payload.get "conversion_timestamp")
  let core_revalidation_status ← requireStr payload "core_revalidation_status"
  let core_revalidation_fingerprint ← requireStr payload "core_revalidation_fingerprint"
  let effect_kind ← readEffectKind schema_version payload
  return { candidate_planning_session_id, candidate_id, candidate_fingerprint, candidate_plan_id,
           candidate_plan_fingerprint, source_recommendation_id, source_subsystem,
           catalog_item_id, target_id, target_type, execution_category, execution_intent,
           evidence_ids, compatibility_assessment_id, compatibility_status, relationship_ids,
           conversion_timestamp, core_revalidation_status, core_revalidation_fingerprint,
           effect_kind }

theorem decode_encodeCandidateWorkflowMetadata (m : CandidateWorkflowMetadata) :
    decodeCandidateWorkflowMetadata py 3 (encodeCandidateWorkflowMetadata py m) = .ok m := by
  simp [decodeCandidateWorkflowMetadata, encodeCandidateWorkflowMetadata, readEffectKind]

/-- `_encode_candidate_implementation_request` -/
def encodeCandidateImplementationRequest (py : Python) (r : CandidateImplementationRequest) :
    Fields :=
  [("affected_files", paths r.affected_files),
    ("argv", strings r.argv),
    ("candidate_fingerprint", .str r.candidate_fingerprint),
    ("candidate_id", .str r.candidate_id),
    ("candidate_plan_fingerprint", .str r.candidate_plan_fingerprint),
    ("candidate_plan_id", .str r.candidate_plan_id),
    ("candidate_planning_session_id", .str r.candidate_planning_session_id),
    ("compatibility_assessment_id", r.compatibility_assessment_id),
    ("compatibility_status", r.compatibility_status),
    ("evidence_ids", strings r.evidence_ids),
    ("execution_intent", .str r.execution_intent),
    ("generated_at", datetimeJson py r.generated_at),
    ("identifier", .str r.identifier),
    ("repository_branch", r.repository_branch),
    ("repository_head", .str r.repository_head),
    ("repository_root", pathJson r.repository_root),
    ("translator_version", .str r.translator_version),
    ("workflow_session_id", .str r.workflow_session_id),
    ("working_directory", pathJson r.working_directory)]

/-- `_decode_candidate_implementation_request` of an object. -/
def decodeCandidateImplementationRequest (py : Python) (payload : Fields) :
    Except PyError CandidateImplementationRequest := do
  let identifier ← requireStr payload "identifier"
  let workflow_session_id ← requireStr payload "workflow_session_id"
  let candidate_planning_session_id ← requireStr payload "candidate_planning_session_id"
  let candidate_id ← requireStr payload "candidate_id"
  let candidate_fingerprint ← requireStr payload "candidate_fingerprint"
  let candidate_plan_id ← requireStr payload "candidate_plan_id"
  let candidate_plan_fingerprint ← requireStr payload "candidate_plan_fingerprint"
  let execution_intent ← requireStr payload "execution_intent"
  let repository_root ← decodePath (payload.get "repository_root")
  let repository_branch := payload.get "repository_branch"
  let repository_head ← requireStr payload "repository_head"
  let argv ← tupleStr (payload.getD "argv" (.arr []))
  let working_directory ← decodePath (payload.get "working_directory")
  let affected_files ← tuplePath (payload.getD "affected_files" (.arr []))
  let evidence_ids ← tupleStr (payload.getD "evidence_ids" (.arr []))
  let compatibility_assessment_id := payload.get "compatibility_assessment_id"
  let compatibility_status := payload.get "compatibility_status"
  let translator_version ← requireStr payload "translator_version"
  let generated_at ← decodeDatetime py (payload.get "generated_at")
  return { identifier, workflow_session_id, candidate_planning_session_id, candidate_id,
           candidate_fingerprint, candidate_plan_id, candidate_plan_fingerprint,
           execution_intent, repository_root, repository_branch, repository_head, argv,
           working_directory, affected_files, evidence_ids, compatibility_assessment_id,
           compatibility_status, translator_version, generated_at }

theorem decode_encodeCandidateImplementationRequest (r : CandidateImplementationRequest) :
    decodeCandidateImplementationRequest py (encodeCandidateImplementationRequest py r) =
      .ok r := by
  simp [decodeCandidateImplementationRequest, encodeCandidateImplementationRequest]

/-- `_encode_operational_action_request` -/
def encodeOperationalActionRequest (py : Python) (r : OperationalActionRequest) : Fields :=
  [("request_id", .str r.request_id),
    ("request_digest", .str r.request_digest),
    ("idempotency_key", .str r.idempotency_key),
    ("workflow_session_id", .str r.workflow_session_id),
    ("candidate_planning_session_id", .str r.candidate_planning_session_id),
    ("candidate_id", .str r.candidate_id),
    ("candidate_fingerprint", .str r.candidate_fingerprint),
    ("candidate_plan_id", .str r.candidate_plan_id),
    ("candidate_plan_fingerprint", .str r.candidate_plan_fingerprint),
    ("effect_kind", .str (StrEnum.value r.effect_kind)),
    ("execution_intent", .str r.execution_intent),
    ("provider_id", .str r.provider_id),
    ("resource_id", .str r.resource_id),
    ("resource_type", .str r.resource_type),
    ("provider_action_id", .str r.provider_action_id),
    ("target_fingerprint", .str r.target_fingerprint),
    ("target_version", r.target_version),
    ("disruption_scope", .str r.disruption_scope),
    ("evidence_ids", strings r.evidence_ids),
    ("expected_pre_state", .str r.expected_pre_state),
    ("verification", .obj (encodeOperationalVerification r.verification)),
    ("expires_at", datetimeJson py r.expires_at),
    ("translator_version", .str r.translator_version),
    ("generated_at", datetimeJson py r.generated_at)]

/-- The fields that a persisted operational action request may have. -/
def operationalActionRequestNames : List String :=
  ["request_id", "request_digest", "idempotency_key", "workflow_session_id",
    "candidate_planning_session_id", "candidate_id", "candidate_fingerprint", "candidate_plan_id",
    "candidate_plan_fingerprint", "effect_kind", "execution_intent", "provider_id", "resource_id",
    "resource_type", "provider_action_id", "target_fingerprint", "target_version",
    "disruption_scope", "evidence_ids", "expected_pre_state", "verification", "expires_at",
    "translator_version", "generated_at"]

/-- `_decode_operational_action_request` of an object. -/
def decodeOperationalActionRequest (py : Python) (payload : Fields) :
    Except PyError OperationalActionRequest := do
  rejectUnknownFields payload operationalActionRequestNames
  let request_id ← requireStr payload "request_id"
  let request_digest ← requireStr payload "request_digest"
  let idempotency_key ← requireStr payload "idempotency_key"
  let workflow_session_id ← requireStr payload "workflow_session_id"
  let candidate_planning_session_id ← requireStr payload "candidate_planning_session_id"
  let candidate_id ← requireStr payload "candidate_id"
  let candidate_fingerprint ← requireStr payload "candidate_fingerprint"
  let candidate_plan_id ← requireStr payload "candidate_plan_id"
  let candidate_plan_fingerprint ← requireStr payload "candidate_plan_fingerprint"
  let effect_kind_text ← requireStr payload "effect_kind"
  let effect_kind ← readEnum WorkflowEffectKind (.str effect_kind_text)
  let execution_intent ← requireStr payload "execution_intent"
  let provider_id ← requireStr payload "provider_id"
  let resource_id ← requireStr payload "resource_id"
  let resource_type ← requireStr payload "resource_type"
  let provider_action_id ← requireStr payload "provider_action_id"
  let target_fingerprint ← requireStr payload "target_fingerprint"
  let target_version := payload.get "target_version"
  let disruption_scope ← requireStr payload "disruption_scope"
  let evidence_ids ← tupleStr (payload.getD "evidence_ids" (.arr []))
  let expected_pre_state ← requireStr payload "expected_pre_state"
  let verification ← decodeOperationalVerification (payload.get "verification")
  let expires_at ← decodeDatetime py (payload.get "expires_at")
  let translator_version ← requireStr payload "translator_version"
  let generated_at ← decodeDatetime py (payload.get "generated_at")
  OperationalActionRequest.postInit py
    { request_id, request_digest, idempotency_key, workflow_session_id,
      candidate_planning_session_id, candidate_id, candidate_fingerprint, candidate_plan_id,
      candidate_plan_fingerprint, effect_kind, execution_intent, provider_id, resource_id,
      resource_type, provider_action_id, target_fingerprint, target_version, disruption_scope,
      evidence_ids, expected_pre_state, verification, expires_at, translator_version,
      generated_at }

theorem rejectUnknownFields_eq_ok {payload : Fields} {allowed : List String}
    (h : ∀ key ∈ payload.keys, key ∈ allowed) : rejectUnknownFields payload allowed = .ok () := by
  simpa [rejectUnknownFields] using h

theorem decode_encodeOperationalActionRequest {r : OperationalActionRequest}
    (h : r.postInit py = .ok r) :
    decodeOperationalActionRequest py (encodeOperationalActionRequest py r) = .ok r := by
  have hknown : rejectUnknownFields (encodeOperationalActionRequest py r)
      operationalActionRequestNames = .ok () := by
    refine rejectUnknownFields_eq_ok fun key hkey => ?_
    simpa [encodeOperationalActionRequest, Fields.keys, operationalActionRequestNames] using hkey
  rw [decodeOperationalActionRequest, hknown]
  simp [encodeOperationalActionRequest, h]

theorem built_of_decodeOperationalActionRequest {payload : Fields} {r : OperationalActionRequest}
    (h : decodeOperationalActionRequest py payload = .ok r) : r.Built py := by
  simp only [decodeOperationalActionRequest, bind_eq_ok, exists_unit] at h
  obtain ⟨-, _, -, _, -, _, -, _, -, _, -, _, -, _, -, _, -, _, -, _, -, _, -, _, -, _, -, _, -,
    _, -, _, -, _, -, _, -, _, -, _, -, _, -, _, -, _, -, _, -, hinit⟩ := h
  exact OperationalActionRequest.built_of_postInit hinit

end AtlasOS.Agent
