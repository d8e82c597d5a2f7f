import AtlasOS.Agent.Codec.Workflow

/-!
# The codec of workflow sessions

The encoders and decoders of `snapshot.py` for candidate verification plans and
evidence, review results, operational execution references and the workflow
session that holds them all. A session is read back with the environment values
of its checks replaced by their digests, and otherwise as it was.
-/

namespace AtlasOS.Agent

open Worker

variable {py : Python} {Ctx : Type} {ctx : ContextModel Ctx}

/-! ## Candidate verification -/

/-- `_encode_candidate_verification_plan` -/
def encodeCandidateVerificationPlan (py : Python) (p : CandidateVerificationPlan) : Fields :=
  [("identifier", .str p.identifier),
    ("workflow_session_id", .str p.workflow_session_id),
    ("candidate_planning_session_id", .str p.candidate_planning_session_id),
    ("candidate_id", .str p.candidate_id),
    ("candidate_fingerprint", .str p.candidate_fingerprint),
    ("candidate_plan_id", .str p.candidate_plan_id),
    ("candidate_plan_fingerprint", .str p.candidate_plan_fingerprint),
    ("implementation_request_id", .str p.implementation_request_id),
    ("execution_result_id", .str p.execution_result_id),
    ("repository_root", pathJson p.repository_root),
    ("repository_branch", p.repository_branch),
    ("base_head", .str p.base_head),
    ("post_execution_head", .str p.post_execution_head),
    ("baseline_status", pairsOrNull p.baseline_status),
    ("post_execution_status", pairsOrNull p.post_execution_status),
    ("changed_files", paths p.changed_files),
    ("changed_files_digest", .str p.changed_files_digest),
    ("approved_affected_files", paths p.approved_affected_files),
    ("verification_checks", objects (encodeVerificationCheck py) p.verification_checks),
    ("verifier_version", .str p.verifier_version),
    ("generated_at", datetimeJson py p.generated_at)]

/-- `_decode_candidate_verification_plan` of an object. -/
def decodeCandidateVerificationPlan (py : Python) (payload : Fields) :
    Except PyError CandidateVerificationPlan := do
  let identifier ← requireStr payload "identifier"
  let workflow_session_id ← requireStr payload "workflow_session_id"
  let candidate_planning_session_id ← requireStr payload "candidate_planning_session_id"
  let candidate_id ← requireStr payload "candidate_id"
  let candidate_fingerprint ← requireStr payload "candidate_fingerprint"
  let candidate_plan_id ← requireStr payload "candidate_plan_id"
  let candidate_plan_fingerprint ← requireStr payload "candidate_plan_fingerprint"
  let implementation_request_id ← requireStr payload "implementation_request_id"
  let execution_result_id ← requireStr payload "execution_result_id"
  let repository_root ← decodePath (payload.get "repository_root")
  let repository_branch := payload.get "repository_branch"
  let base_head ← requireStr payload "base_head"
  let post_execution_head ← requireStr payload "post_execution_head"
  let baseline_status ← optionalPairs py (payload.get "baseline_status")
  let post_execution_status ← optionalPairs py (payload.get "post_execution_status")
  let changed_files ← tuplePath (payload.getD "changed_files" (.arr []))
  let changed_files_digest ← requireStr payload "changed_files_digest"
  let approved_affected_files ← tuplePath (payload.getD "approved_affected_files" (.arr []))
  let verification_checks ← objectList (decodeVerificationCheck py)
    (payload.getD "verification_checks" (.arr []))
  let verifier_version ← requireStr payload "verifier_version"
  let generated_at ← decodeDatetime py (payload.get "generated_at")
  return { identifier, workflow_session_id, candidate_planning_session_id, candidate_id,
           candidate_fingerprint, candidate_plan_id, candidate_plan_fingerprint,
           implementation_request_id, execution_result_id, repository_root, repository_branch,
           base_head, post_execution_head, baseline_status, post_execution_status, changed_files,
           changed_files_digest, approved_affected_files, verification_checks, verifier_version,
           generated_at }

/-- A verification plan with the environments of its checks redacted. -/
def CandidateVerificationPlan.redact (py : Python) (p : CandidateVerificationPlan) :
    CandidateVerificationPlan :=
  { p with verification_checks := p.verification_checks.map (·.redact py) }

/-- Whether the environments of the checks of a verification plan are well digested. -/
def CandidateVerificationPlan.WellDigested (py : Python) (p : CandidateVerificationPlan) : Prop :=
  ∀ c ∈ p.verification_checks, c.WellDigested py

@[simp] theorem encodeCandidateVerificationPlan_redact (p : CandidateVerificationPlan) :
    encodeCandidateVerificationPlan py (p.redact py) = encodeCandidateVerificationPlan py p := by
  simp [encodeCandidateVerificationPlan, CandidateVerificationPlan.redact, objects]

@[simp] theorem CandidateVerificationPlan.wellDigested_redact (p : CandidateVerificationPlan) :
    (p.redact py).WellDigested py ↔ p.WellDigested py := by
  simp [WellDigested, redact]

theorem decode_encodeCandidateVerificationPlan {p : CandidateVerificationPlan}
    (h : p.WellDigested py) :
    decodeCandidateVerificationPlan py (encodeCandidateVerificationPlan py p) =
      .ok (p.redact py) := by
  simp [decodeCandidateVerificationPlan, encodeCandidateVerificationPlan,
    objectList_objects fun c hc => decode_encodeVerificationCheck (h c hc),
    CandidateVerificationPlan.redact]

/-- A verification plan that was decoded is already redacted and well digested. -/
theorem redact_of_decodeCandidateVerificationPlan {payload : Fields}
    {p : CandidateVerificationPlan} (h : decodeCandidateVerificationPlan py payload = .ok p) :
    p.redact py = p ∧ p.WellDigested py := by
  simp only [decodeCandidateVerificationPlan, bind_eq_ok, pure_eq_ok, Except.ok.injEq] at h
  obtain ⟨_, -, _, -, _, -, _, -, _, -, _, -, _, -, _, -, _, -, _, -, _, -, _, -, _, -, _, -,
    _, -, _, -, _, -, checks, hchecks, _, -, _, -, rfl⟩ := h
  have hall := objectList_forall (fun _ _ => redact_of_decodeVerificationCheck) hchecks
  refine ⟨?_, fun c hc => (hall c hc).2⟩
  simp only [CandidateVerificationPlan.redact, CandidateVerificationPlan.mk.injEq, true_and,
    and_true]
  exact map_eq_self fun c hc => (hall c hc).1

/-- One entry of `check_results` as `_encode_candidate_verification_evidence` writes it. -/
def encodeCandidateVerificationCheckEvidence (e : CandidateVerificationCheckEvidence) : Fields :=
  [("identifier", .str e.identifier),
    ("status", .str (StrEnum.value e.status)),
    ("return_code", e.return_code),
    ("stdout_digest", .str e.stdout_digest),
    ("stderr_digest", .str e.stderr_digest),
    ("output_truncated", .bool e.output_truncated),
    ("duration_seconds", .float e.duration_seconds),
    ("error", e.error)]

/-- One entry of `check_results` as `_decode_candidate_verification_evidence` reads it. -/
def decodeCandidateVerificationCheckEvidence (py : Python) (item : Fields) :
    Except PyError CandidateVerificationCheckEvidence := do
  let identifier ← requireStr item "identifier"
  let status_text ← requireStr item "status"
  let status ← readEnum VerificationStatus (.str status_text)
  let return_code := item.get "return_code"
  let stdout_digest ← requireStr item "stdout_digest"
  let stderr_digest ← requireStr item "stderr_digest"
  let output_truncated := (item.get "output_truncated").truthy
  let duration_seconds ← py.float (item.getD "duration_seconds" (.float (.finite 0)))
  let error := item.get "error"
  return { identifier, status, return_code, stdout_digest, stderr_digest, output_truncated,
           duration_seconds, error }

theorem decode_encodeCandidateVerificationCheckEvidence (e : CandidateVerificationCheckEvidence) :
    decodeCandidateVerificationCheckEvidence py (encodeCandidateVerificationCheckEvidence e) =
      .ok e := by
  simp [decodeCandidateVerificationCheckEvidence, encodeCandidateVerificationCheckEvidence,
    Json.truthy]

/-- `_encode_candidate_verification_evidence` -/
def encodeCandidateVerificationEvidence (py : Python) (e : CandidateVerificationEvidence) :
    Fields :=
  [("identifier", .str e.identifier),
    ("verification_plan_id", .str e.verification_plan_id),
    ("workflow_id", .str e.workflow_id),
    ("candidate_id", .str e.candidate_id),
    ("candidate_fingerprint", .str e.candidate_fingerprint),
    ("plan_fingerprint", .str e.plan_fingerprint),
    ("implementation_request_id", .str e.implementation_request_id),
    ("changed_files_digest", .str e.changed_files_digest),
    ("repository_branch", e.repository_branch),
    ("repository_head", e.repository_head),
    ("check_results", objects encodeCandidateVerificationCheckEvidence e.check_results),
    ("status", .str (StrEnum.value e.status)),
    ("started_at", datetimeJson py e.started_at),
    ("completed_at", datetimeJson py e.completed_at),
    ("verifier_version", .str e.verifier_version)]

/-- `_decode_candidate_verification_evidence` of an object. -/
def decodeCandidateVerificationEvidence (py : Python) (payload : Fields) :
    Except PyError CandidateVerificationEvidence := do
  let identifier ← requireStr payload "identifier"
  let verification_plan_id ← requireStr payload "verification_plan_id"
  let workflow_id ← requireStr payload "workflow_id"
  let candidate_id ← requireStr payload "candidate_id"
  let candidate_fingerprint ← requireStr payload "candidate_fingerprint"
  let plan_fingerprint ← requireStr payload "plan_fingerprint"
  let implementation_request_id ← requireStr payload "implementation_request_id"
  let changed_files_digest ← requireStr payload "changed_files_digest"
  let repository_branch := payload.get "repository_branch"
  let repository_head := payload.get "repository_head"
  let check_results ← objectList (decodeCandidateVerificationCheckEvidence py)
    (payload.getD "check_results" (.arr []))
  let status_text ← requireStr payload "status"
  let status ← readEnum VerificationStatus (.str status_text)
  let started_at ← decodeDatetime py (payload.get "started_at")
  let completed_at ← decodeDatetime py (payload.get "completed_at")
  let verifier_version ← requireStr payload "verifier_version"
  return { identifier, verification_plan_id, workflow_id, candidate_id, candidate_fingerprint,
           plan_fingerprint, implementation_request_id, changed_files_digest, repository_branch,
           repository_head, check_results, status, started_at, completed_at, verifier_version }

theorem decode_encodeCandidateVerificationEvidence (e : CandidateVerificationEvidence) :
    decodeCandidateVerificationEvidence py (encodeCandidateVerificationEvidence py e) = .ok e := by
  simp [decodeCandidateVerificationEvidence, encodeCandidateVerificationEvidence,
    objectList_self decode_encodeCandidateVerificationCheckEvidence]

/-- `_encode_candidate_review_result` -/
def encodeCandidateReviewResult (py : Python) (r : CandidateReviewResult) : Fields :=
  [("identifier", .str r.identifier),
    ("verification_plan_id", .str r.verification_plan_id),
    ("verification_evidence_id", .str r.verification_evidence_id),
    ("workflow_id", .str r.workflow_id),
    ("status", .str (StrEnum.value r.status)),
    ("failure_code", enumOrNull r.failure_code),
    ("reviewed_content_fingerprint", r.reviewed_content_fingerprint),
    ("generated_at", datetimeJson py r.generated_at)]

/-- `Enum(value) if value else None` -/
def readTruthyEnum (α : Type) [StrEnum α] (value : Json) : Except PyError (Option α) :=
  if value.truthy then some <$> readEnum α value else .ok none

theorem readTruthyEnum_enumOrNull {α : Type} [StrEnum α] {value : Option α}
    (h : ∀ a ∈ value, StrEnum.value a ≠ "") :
    readTruthyEnum α (enumOrNull value) = .ok value := by
  cases value with
  | none => simp [readTruthyEnum, enumOrNull, Json.ofOption, Json.truthy]
  | some a =>
    have hne := h a rfl
    simp [readTruthyEnum, enumOrNull, Json.ofOption, Json.truthy, hne]

/-- `_decode_candidate_review_result` of an object. -/
def decodeCandidateReviewResult (py : Python) (payload : Fields) :
    Except PyError CandidateReviewResult := do
  let identifier ← requireStr payload "identifier"
  let verification_plan_id ← requireStr payload "verification_plan_id"
  let verification_evidence_id ← requireStr payload "verification_evidence_id"
  let workflow_id ← requireStr payload "workflow_id"
  let status_text ← requireStr payload "status"
  let status ← readEnum ReviewStatus (.str status_text)
  let failure_code ← readTruthyEnum CandidateVerificationFailureCode (payload.get "failure_code")
  let reviewed_content_fingerprint := payload.get "reviewed_content_fingerprint"
  let generated_at ← decodeDatetime py (payload.get "generated_at")
  return { identifier, verification_plan_id, verification_evidence_id, workflow_id, status,
           failure_code, reviewed_content_fingerprint, generated_at }

theorem decode_encodeCandidateReviewResult (r : CandidateReviewResult) :
    decodeCandidateReviewResult py (encodeCandidateReviewResult py r) = .ok r := by
  have hcode : readTruthyEnum CandidateVerificationFailureCode (enumOrNull r.failure_code) =
      .ok r.failure_code := readTruthyEnum_enumOrNull fun code _ => by cases code <;> decide
  simp [decodeCandidateReviewResult, encodeCandidateReviewResult, hcode]

/-! ## Operational execution -/

/-- `_encode_operational_execution_reference` -/
def encodeOperationalExecutionReference (py : Python) (r : OperationalExecutionReference) :
    Fields :=
  [("audit_events", strings r.audit_events),
    ("controlled_reason", r.controlled_reason),
    ("dispatch_status", r.dispatch_status),
    ("last_observed_at", datetimeJson py r.last_observed_at),
    ("ledger_state", r.ledger_state),
    ("provider_operation_id", r.provider_operation_id),
    ("request_digest", .str r.request_digest),
    ("request_id", .str r.request_id),
    ("stage", .str (StrEnum.value r.stage)),
    ("submitted_at", .nullable (datetimeJson py) r.submitted_at),
    ("terminal", .bool r.terminal),
    ("verification_status", r.verification_status)]

/-- The audit events of a reference, which are checked before any other field. -/
def readAuditEvents : Json → Except PyError (List String)
  | .arr items => items.mapM fun event =>
      expect (asStr? event) (.statePersistenceError "Invalid operational execution audit events")
  | _ => invalid "Invalid operational execution audit events"

@[simp] theorem readAuditEvents_strings (events : List String) :
    readAuditEvents (strings events) = .ok events :=
  mapM_map_eq_ok fun _ _ => rfl

/-- `_decode_operational_execution_reference` of an object. -/
def decodeOperationalExecutionReference (py : Python) (payload : Fields) :
    Except PyError OperationalExecutionReference := do
  let audit_events ← readAuditEvents (payload.getD "audit_events" (.arr []))
  let request_id ← requireStr payload "request_id"
  let request_digest ← requireStr payload "request_digest"
  let stage_text ← requireStr payload "stage"
  let stage ← readEnum OperationalExecutionStage (.str stage_text)
  let dispatch_status := payload.get "dispatch_status"
  let ledger_state := payload.get "ledger_state"
  let provider_operation_id := payload.get "provider_operation_id"
  let verification_status := payload.get "verification_status"
  let submitted_at ← decodeOptionalDatetime py (payload.get "submitted_at")
  let last_observed_at ← decodeDatetime py (payload.get "last_observed_at")
  let terminal := (payload.get "terminal").truthy
  let controlled_reason := payload.get "controlled_reason"
  return { request_id, request_digest, stage, dispatch_status, ledger_state,
           provider_operation_id, verification_status, submitted_at, last_observed_at, terminal,
           controlled_reason, audit_events }

theorem decode_encodeOperationalExecutionReference (r : OperationalExecutionReference) :
    decodeOperationalExecutionReference py (encodeOperationalExecutionReference py r) =
      .ok r := by
  simp [decodeOperationalExecutionReference, encodeOperationalExecutionReference, Json.truthy]

/-! ## Sessions -/

/-- `_encode_workflow_session`, once the worker records are valid. -/
def encodeWorkflowSession (py : Python) (ctx : ContextModel Ctx) (s : WorkflowSession Ctx) :
    Fields :=
  [("blocked_reason", s.blocked_reason),
    ("candidate_implementation_approval_id", s.candidate_implementation_approval_id),
    ("operational_action_approval_id", s.operational_action_approval_id),
    ("operational_execution_reference",
      objectOrNull (encodeOperationalExecutionReference py) s.operational_execution_reference),
    ("candidate_implementation_request",
      objectOrNull (encodeCandidateImplementationRequest py) s.candidate_implementation_request),
    ("candidate_metadata",
      objectOrNull (encodeCandidateWorkflowMetadata py) s.candidate_metadata),
    ("effect_kind", .str (StrEnum.value s.effect_kind)),
    ("operational_action_request",
      objectOrNull (encodeOperationalActionRequest py) s.operational_action_request),
    ("candidate_review_result",
      objectOrNull (encodeCandidateReviewResult py) s.candidate_review_result),
    ("candidate_verification_evidence",
      objectOrNull (encodeCandidateVerificationEvidence py) s.candidate_verification_evidence),
    ("candidate_verification_plan",
      objectOrNull (encodeCandidateVerificationPlan py) s.candidate_verification_plan),
    ("changed_files", paths s.changed_files),
    ("commit_request", objectOrNull encodeCommitRequest s.commit_request),
    ("commit_result", objectOrNull encodeCommitResult s.commit_result),
    ("context", .nullable ctx.dump s.context),
    ("execution_result", objectOrNull encodeExecutionResult s.execution_result),
    ("worker_execution_request",
      .nullable WorkerExecutionRequest.encode s.worker_execution_request),
    ("worker_patch_applied", .bool s.worker_patch_applied),
    ("worker_baseline_status", pairsOrNull s.worker_baseline_status),
    ("expected_branch", s.expected_branch),
    ("expected_head", s.expected_head),
    ("identifier", .str s.identifier),
    ("plan", objectOrNull encodePlan s.plan),
    ("planning_analysis", objectOrNull encodeModelResponse s.planning_analysis),
    ("request", objectOrNull (encodeWorkflowRequest py) s.request),
    ("review_analysis", objectOrNull encodeModelResponse s.review_analysis),
    ("review_report", objectOrNull encodeReviewReport s.review_report),
    ("reviewed_content_fingerprint", s.reviewed_content_fingerprint),
    ("reviewed_files", paths s.reviewed_files),
    ("source", .str (StrEnum.value s.source)),
    ("state", .str (StrEnum.value s.state)),
    ("verification_report",
      objectOrNull (encodeVerificationReport ctx) s.verification_report)]

/-- The validations that encoding a session makes of its worker records. -/
def WorkflowSession.checkEncode (py : Python) (s : WorkflowSession Ctx) : Except PyError Unit := do
  match s.execution_result with
  | none => .ok ()
  | some result => result.checkEncode py
  match s.worker_execution_request with
  | none => .ok ()
  | some request => request.validate py

/-- A field that snapshots have from version 3 on. -/
def sinceVersion3 {α : Type} (schema_version : ℕ) (default : α) (read : Except PyError α) :
    Except PyError α :=
  if 3 ≤ schema_version then read else .ok default

/-- `_decode_workflow_session` -/
def decodeWorkflowSession (py : Python) (ctx : ContextModel Ctx) (schema_version : ℕ)
    (value : Json) : Except PyError (WorkflowSession Ctx) := do
  let payload ← value.requireObject (.statePersistenceError "Invalid workflow session")
  let identifier ← requireStr payload "identifier"
  let request ← optionalObject "Invalid workflow request" (decodeWorkflowRequest py)
    (payload.get "request")
  let plan ← optionalObject "Invalid implementation plan" decodePlan (payload.get "plan")
  let state_text ← requireStr payload "state"
  let state ← readEnum WorkflowSessionState (.str state_text)
  let effect_kind ← readEffectKind schema_version payload
  let source ← readEnum WorkflowSource
    (payload.getD "source" (.str (StrEnum.value WorkflowSource.roadmap)))
  let candidate_metadata ← optionalObject "Invalid candidate workflow metadata"
    (decodeCandidateWorkflowMetadata py schema_version) (payload.get "candidate_metadata")
  let candidate_implementation_request ← optionalObject "Invalid candidate implementation request"
    (decodeCandidateImplementationRequest py) (payload.get "candidate_implementation_request")
  let operational_action_request ← sinceVersion3 schema_version none
    (optionalObject "Invalid operational action request" (decodeOperationalActionRequest py)
      (payload.get "operational_action_request"))
  let candidate_implementation_approval_id := payload.get "candidate_implementation_approval_id"
  let operational_action_approval_id ← sinceVersion3 schema_version .null
    (.ok (payload.get "operational_action_approval_id"))
  let operational_execution_reference ← optionalObject "Invalid operational execution reference"
    (decodeOperationalExecutionReference py) (payload.get "operational_execution_reference")
  let planning_analysis ← optionalObject "Invalid model response" decodeModelResponse
    (payload.get "planning_analysis")
  let review_analysis ← optionalObject "Invalid model response" decodeModelResponse
    (payload.get "review_analysis")
  let context ← decodeContext ctx (payload.get "context")
  let execution_result ← optionalObject "Invalid execution result" (decodeExecutionResult py)
    (payload.get "execution_result")
  let worker_execution_request ← optionalRead (WorkerExecutionRequest.fromDict py)
    (payload.get "worker_execution_request")
  let worker_patch_applied := (payload.getD "worker_patch_applied" (.bool false)).truthy
  let worker_baseline_status ← optionalPairs py (payload.get "worker_baseline_status")
  let changed_files ← tuplePath (payload.getD "changed_files" (.arr []))
  let verification_report ← optionalObject "Invalid verification report"
    (decodeVerificationReport py ctx) (payload.get "verification_report")
  let candidate_verification_plan ← optionalObject "Invalid candidate verification plan"
    (decodeCandidateVerificationPlan py) (payload.get "candidate_verification_plan")
  let candidate_verification_evidence ← optionalObject "Invalid candidate verification evidence"
    (decodeCandidateVerificationEvidence py) (payload.get "candidate_verification_evidence")
  let review_report ← optionalObject "Invalid review report" decodeReviewReport
    (payload.get "review_report")
  let candidate_review_result ← optionalObject "Invalid candidate review result"
    (decodeCandidateReviewResult py) (payload.get "candidate_review_result")
  let commit_request ← optionalObject "Invalid commit request" decodeCommitRequest
    (payload.get "commit_request")
  let commit_result ← optionalObject "Invalid commit result" decodeCommitResult
    (payload.get "commit_result")
  let reviewed_files ← tuplePath (payload.getD "reviewed_files" (.arr []))
  let expected_branch := payload.get "expected_branch"
  let expected_head := payload.get "expected_head"
  let reviewed_content_fingerprint := payload.get "reviewed_content_fingerprint"
  let blocked_reason := payload.get "blocked_reason"
  let session : WorkflowSession Ctx :=
    { identifier, request, plan, state, effect_kind, source, candidate_metadata,
      candidate_implementation_request, operational_action_request,
      candidate_implementation_approval_id, operational_action_approval_id,
      operational_execution_reference, planning_analysis, review_analysis, context,
      execution_result, worker_execution_request, worker_patch_applied, worker_baseline_status,
      changed_files, verification_report, candidate_verification_plan,
      candidate_verification_evidence, review_report, candidate_review_result, commit_request,
      commit_result, reviewed_files, expected_branch, expected_head,
      reviewed_content_fingerprint, blocked_reason }
  session.postInit py
  return session

namespace WorkflowSession

/-- A session with the environments of its checks redacted. -/
def redact (py : Python) (s : WorkflowSession Ctx) : WorkflowSession Ctx :=
  { s with
    request := s.request.map (·.redact py)
    candidate_verification_plan := s.candidate_verification_plan.map (·.redact py) }

/-- Whether the environments of the checks of a session are well digested. -/
structure WellDigested (py : Python) (s : WorkflowSession Ctx) : Prop where
  request : ∀ r ∈ s.request, r.WellDigested py
  verification : ∀ p ∈ s.candidate_verification_plan, p.WellDigested py

theorem encode_redact (s : WorkflowSession Ctx) :
    encodeWorkflowSession py ctx (s.redact py) = encodeWorkflowSession py ctx s := by
  simp only [encodeWorkflowSession, redact, objectOrNull_map encodeWorkflowRequest_redact,
    objectOrNull_map encodeCandidateVerificationPlan_redact]

theorem wellDigested_redact (s : WorkflowSession Ctx) :
    (s.redact py).WellDigested py ↔ s.WellDigested py := by
  constructor
  · rintro ⟨hrequest, hplan⟩
    refine ⟨fun r hr => ?_, fun p hp => ?_⟩
    · exact (r.wellDigested_redact).mp (hrequest _ (Option.mem_map_of_mem _ hr))
    · exact (p.wellDigested_redact).mp (hplan _ (Option.mem_map_of_mem _ hp))
  · rintro ⟨hrequest, hplan⟩
    refine ⟨fun r hr => ?_, fun p hp => ?_⟩
    · obtain ⟨request, hmem, rfl⟩ := Option.mem_map.mp hr
      exact request.wellDigested_redact.mpr (hrequest request hmem)
    · obtain ⟨plan, hmem, rfl⟩ := Option.mem_map.mp hp
      exact plan.wellDigested_redact.mpr (hplan plan hmem)

theorem Built.redact {s : WorkflowSession Ctx} (h : s.Built py) : (s.redact py).Built py :=
  ⟨h.operational, h.postInit⟩

/-- The validations of the worker records of a session, separately. -/
theorem checkEncode_eq_ok {s : WorkflowSession Ctx} :
    s.checkEncode py = .ok () ↔ (∀ r ∈ s.execution_result, r.checkEncode py = .ok ()) ∧
      ∀ r ∈ s.worker_execution_request, r.validate py = .ok () := by
  unfold checkEncode
  cases s.execution_result <;> cases s.worker_execution_request <;> simp [check_bind_eq_ok]

/-- A built session is written whenever its worker result is valid. -/
theorem checkEncode_of_built {s : WorkflowSession Ctx} (h : s.Built py)
    (hresult : ∀ r ∈ s.execution_result, r.checkEncode py = .ok ()) :
    s.checkEncode py = .ok () := by
  refine checkEncode_eq_ok.mpr ⟨hresult, fun r hr => ?_⟩
  have hinit := h.postInit
  simp only [postInit, check_bind_eq_ok] at hinit
  have hpost := hinit.1
  rw [Option.mem_def] at hr
  simp only [postInitWorker, hr, check_bind_eq_ok] at hpost
  exact hpost.1

end WorkflowSession

/-- A session is read back redacted. -/
theorem decode_encodeWorkflowSession {s : WorkflowSession Ctx} (hbuilt : s.Built py)
    (hclean : s.WellDigested py) (hcheck : s.checkEncode py = .ok ()) :
    decodeWorkflowSession py ctx 3 (.obj (encodeWorkflowSession py ctx s)) =
      .ok (s.redact py) := by
  have hcheck := WorkflowSession.checkEncode_eq_ok.mp hcheck
  have hrequest : optionalObject "Invalid workflow request" (decodeWorkflowRequest py)
      (objectOrNull (encodeWorkflowRequest py) s.request) =
        .ok (s.request.map (·.redact py)) :=
    optionalObject_objectOrNull fun r hr => decode_encodeWorkflowRequest (hclean.request r hr)
  have hverification : optionalObject "Invalid candidate verification plan"
      (decodeCandidateVerificationPlan py)
      (objectOrNull (encodeCandidateVerificationPlan py) s.candidate_verification_plan) =
        .ok (s.candidate_verification_plan.map (·.redact py)) :=
    optionalObject_objectOrNull fun p hp =>
      decode_encodeCandidateVerificationPlan (hclean.verification p hp)
  have hoperational : optionalObject "Invalid operational action request"
      (decodeOperationalActionRequest py)
      (objectOrNull (encodeOperationalActionRequest py) s.operational_action_request) =
        .ok s.operational_action_request :=
    optionalObject_same fun r hr =>
      decode_encodeOperationalActionRequest (hbuilt.operational r hr).postInit
  have hresult : optionalObject "Invalid execution result" (decodeExecutionResult py)
      (objectOrNull encodeExecutionResult s.execution_result) = .ok s.execution_result :=
    optionalObject_same fun r hr => decode_encodeExecutionResult (hcheck.1 r hr)
  have hworker : optionalRead (WorkerExecutionRequest.fromDict py)
      (.nullable WorkerExecutionRequest.encode s.worker_execution_request) =
        .ok s.worker_execution_request :=
    optionalRead_nullable fun r hr =>
      ⟨by simp [WorkerExecutionRequest.encode],
        WorkerExecutionRequest.fromDict_encode (hcheck.2 r hr)⟩
  simp only [decodeWorkflowSession, encodeWorkflowSession, Json.requireObject_obj, ok_bind]
  simp [readEffectKind, sinceVersion3,
    Json.truthy, hrequest, hverification, hoperational, hresult, hworker,
    optionalObject_self decode_encodePlan,
    optionalObject_self decode_encodeCandidateWorkflowMetadata,
    optionalObject_self decode_encodeCandidateImplementationRequest,
    optionalObject_self decode_encodeOperationalExecutionReference,
    optionalObject_self decode_encodeModelResponse,
    optionalObject_self decode_encodeVerificationReport,
    optionalObject_self decode_encodeCandidateVerificationEvidence,
    optionalObject_self decode_encodeReviewReport,
    optionalObject_self decode_encodeCandidateReviewResult,
    optionalObject_self decode_encodeCommitRequest,
    optionalObject_self decode_encodeCommitResult]
  change ((s.redact py).postInit py >>= fun _ => Except.ok (s.redact py)) = _
  rw [hbuilt.redact.postInit, ok_bind]

/-- A decoded session is built, redacted and well digested, and its worker records are valid. -/
theorem decodeWorkflowSession_spec {version : ℕ} {value : Json} {s : WorkflowSession Ctx}
    (h : decodeWorkflowSession py ctx version value = .ok s) :
    s.Built py ∧ s.redact py = s ∧ s.WellDigested py ∧ s.checkEncode py = .ok () := by
  simp only [decodeWorkflowSession, bind_eq_ok, exists_unit, pure_eq_ok, Except.ok.injEq] at h
  obtain ⟨_, -, _, -, request, hrequest, _, -, _, -, _, -, _, -, _, -, _, -, _, -,
    operational, hoperational, _, -, _, -, _, -, _, -, _, -, result, hresult, worker, hworker,
    _, -, _, -, _, -, verification, hverification, _, -, _, -, _, -, _, -, _, -, _, -,
    hinit, rfl⟩ := h
  have hrequests := optionalObject_forall (fun _ _ => redact_of_decodeWorkflowRequest) hrequest
  have hplans := optionalObject_forall (fun _ _ => redact_of_decodeCandidateVerificationPlan)
    hverification
  have hbuilt : ∀ r ∈ operational, r.Built py := by
    unfold sinceVersion3 at hoperational
    split at hoperational
    · exact optionalObject_forall (fun _ _ => built_of_decodeOperationalActionRequest)
        hoperational
    · cases hoperational
      simp
  refine ⟨⟨hbuilt, hinit⟩, ?_, ⟨fun r hr => (hrequests r hr).2, fun p hp => (hplans p hp).2⟩, ?_⟩
  · simp only [WorkflowSession.redact, WorkflowSession.mk.injEq, true_and, and_true]
    exact ⟨optionMap_eq_self fun r hr => (hrequests r hr).1,
      optionMap_eq_self fun p hp => (hplans p hp).1⟩
  · exact WorkflowSession.checkEncode_eq_ok.mpr
      ⟨optionalObject_forall (fun _ _ => checkEncode_of_decodeExecutionResult) hresult,
        optionalRead_forall (fun _ _ => WorkerExecutionRequest.validate_of_fromDict) hworker⟩

end AtlasOS.Agent
