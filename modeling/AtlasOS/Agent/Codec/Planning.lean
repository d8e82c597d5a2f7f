import AtlasOS.Agent.Aggregate

/-!
# The codec of plans and planning sessions

The encoders and decoders of `snapshot.py` for plans, workflow requests,
candidate snapshots and candidate planning sessions, each followed by its round
trip. Environment values of verification checks are replaced by their digests;
every other field is read back as it was.
-/

namespace AtlasOS.Agent

variable {py : Python}

/-! ## Plans and workflow requests -/

/-- `_encode_roadmap_checkpoint` -/
def encodeRoadmapCheckpoint (c : RoadmapCheckpoint) : Fields :=
  [("affected_files", paths c.affected_files),
    ("goal", .str c.goal),
    ("identifier", .str c.identifier),
    ("required_tests", strings c.required_tests),
    ("risks", strings c.risks),
    ("scope_items", strings c.scope_items),
    ("title", .str c.title)]

/-- `_decode_roadmap_checkpoint` -/
def decodeRoadmapCheckpoint (payload : Fields) : Except PyError RoadmapCheckpoint := do
  let identifier ← requireStr payload "identifier"
  let title ← requireStr payload "title"
  let goal ← requireStr payload "goal"
  let scope_items ← tupleStr (payload.getD "scope_items" (.arr []))
  let affected_files ← tuplePath (payload.getD "affected_files" (.arr []))
  let required_tests ← tupleStr (payload.getD "required_tests" (.arr []))
  let risks ← tupleStr (payload.getD "risks" (.arr []))
  return { identifier, title, goal, scope_items, affected_files, required_tests, risks }

theorem decode_encodeRoadmapCheckpoint (c : RoadmapCheckpoint) :
    decodeRoadmapCheckpoint (encodeRoadmapCheckpoint c) = .ok c := by
  simp [decodeRoadmapCheckpoint, encodeRoadmapCheckpoint]

/-- `_encode_plan_risk` -/
def encodePlanRisk (r : PlanRisk) : Fields :=
  [("code", .str r.code), ("source", .str r.source), ("summary", .str r.summary)]

/-- `_decode_plan_risk` -/
def decodePlanRisk (payload : Fields) : Except PyError PlanRisk := do
  let code ← requireStr payload "code"
  let summary ← requireStr payload "summary"
  let source ← requireStr payload "source"
  return { code, summary, source }

theorem decode_encodePlanRisk (r : PlanRisk) : decodePlanRisk (encodePlanRisk r) = .ok r := by
  simp [decodePlanRisk, encodePlanRisk]

/-- `_encode_plan` -/
def encodePlan (p : ImplementationPlan) : Fields :=
  [("affected_files", paths p.affected_files),
    ("branch", p.branch),
    ("checkpoint_id", .str p.checkpoint_id),
    ("goal", .str p.goal),
    ("head_commit", p.head_commit),
    ("repository_root", pathJson p.repository_root),
    ("required_tests", strings p.required_tests),
    ("risks", objects encodePlanRisk p.risks),
    ("scope_items", strings p.scope_items),
    ("title", .str p.title)]

/-- `_decode_plan` -/
def decodePlan (payload : Fields) : Except PyError ImplementationPlan := do
  let checkpoint_id ← requireStr payload "checkpoint_id"
  let title ← requireStr payload "title"
  let goal ← requireStr payload "goal"
  let repository_root ← decodePath (payload.get "repository_root")
  let branch := payload.get "branch"
  let head_commit := payload.get "head_commit"
  let scope_items ← tupleStr (payload.getD "scope_items" (.arr []))
  let affected_files ← tuplePath (payload.getD "affected_files" (.arr []))
  let required_tests ← tupleStr (payload.getD "required_tests" (.arr []))
  let risks ← objectList decodePlanRisk (payload.getD "risks" (.arr []))
  return { checkpoint_id, title, goal, repository_root, branch, head_commit, scope_items,
           affected_files, required_tests, risks }

theorem decode_encodePlan (p : ImplementationPlan) : decodePlan (encodePlan p) = .ok p := by
  simp [decodePlan, encodePlan, objectList_self decode_encodePlanRisk]

/-- The digest that stands for an environment value. -/
def EnvironmentVariable.digest (py : Python) (v : EnvironmentVariable) : String :=
  match v.value_digest with
  | none => py.sha256 v.value
  | some d => if d = "" then py.sha256 v.value else d

/-- `_encode_env` -/
def encodeEnv (py : Python) (v : EnvironmentVariable) : Fields :=
  [("name", .str v.name), ("redacted", .bool true), ("value_sha256", .str (v.digest py))]

/-- The digest that `_decode_env` reads or computes. -/
def readEnvDigest (py : Python) (payload : Fields) : Except PyError String :=
  if payload.get "redacted" = .bool true then do
    let digest ← requireStr payload "value_sha256"
    validateDigest digest
    return digest
  else
    match payload.get "value" with
    | .str raw_value => .ok (py.sha256 raw_value)
    | _ => invalid "Persisted environment value must be redacted"

/-- `_decode_env` -/
def decodeEnv (py : Python) (payload : Fields) : Except PyError EnvironmentVariable := do
  let digest ← readEnvDigest py payload
  let name ← requireStr payload "name"
  return { name, value := "", value_digest := some digest, redacted := true }

/-- The redacted form of an environment variable. -/
def EnvironmentVariable.redact (py : Python) (v : EnvironmentVariable) : EnvironmentVariable :=
  { name := v.name, value := "", value_digest := some (v.digest py), redacted := true }

/-- Whether the digest that stands for an environment value is well formed. -/
def EnvironmentVariable.WellDigested (py : Python) (v : EnvironmentVariable) : Prop :=
  isHexDigest (v.digest py) = true

theorem EnvironmentVariable.digest_ne_empty (v : EnvironmentVariable) : v.digest py ≠ "" := by
  have hsha : py.sha256 v.value ≠ "" := fun h => by
    have hhex := py.sha256_isHexDigest v.value
    rw [h] at hhex
    exact absurd hhex (by decide)
  unfold digest
  split
  · exact hsha
  · split
    · exact hsha
    · assumption

/-- Redacting keeps the digest. -/
@[simp] theorem EnvironmentVariable.digest_redact (v : EnvironmentVariable) :
    (v.redact py).digest py = v.digest py :=
  if_neg v.digest_ne_empty

@[simp] theorem encodeEnv_redact (v : EnvironmentVariable) :
    encodeEnv py (v.redact py) = encodeEnv py v := by
  rw [encodeEnv, EnvironmentVariable.digest_redact]
  rfl

@[simp] theorem EnvironmentVariable.wellDigested_redact (v : EnvironmentVariable) :
    (v.redact py).WellDigested py ↔ v.WellDigested py := by
  rw [WellDigested, digest_redact, WellDigested]

theorem decode_encodeEnv {v : EnvironmentVariable} (h : v.WellDigested py) :
    decodeEnv py (encodeEnv py v) = .ok (v.redact py) := by
  have hdigest : validateDigest (v.digest py) = .ok () := by
    rw [validateDigest, require_eq_ok]
    exact h
  simp [decodeEnv, encodeEnv, readEnvDigest, hdigest, EnvironmentVariable.redact]

/-- Whatever the decoder returns is already redacted and well digested. -/
theorem redact_of_decodeEnv {payload : Fields} {v : EnvironmentVariable}
    (h : decodeEnv py payload = .ok v) : v.redact py = v ∧ v.WellDigested py := by
  obtain ⟨digest, hdigest, name, -, heq⟩ : ∃ digest, readEnvDigest py payload = .ok digest ∧
      ∃ name, requireStr payload "name" = .ok name ∧
        ({ name, value := "", value_digest := some digest, redacted := true } :
          EnvironmentVariable) = v := by
    simpa only [decodeEnv, bind_eq_ok, pure_eq_ok, Except.ok.injEq] using h
  have hhex : isHexDigest digest = true := by
    unfold readEnvDigest at hdigest
    split at hdigest
    · simp only [bind_eq_ok, exists_unit, validateDigest, require_eq_ok, pure_eq_ok,
        Except.ok.injEq] at hdigest
      obtain ⟨_, -, hhex, rfl⟩ := hdigest
      exact hhex
    · split at hdigest
      · cases hdigest
        exact py.sha256_isHexDigest _
      · cases hdigest
  have hne : digest ≠ "" := by
    rintro rfl
    exact absurd hhex (by decide)
  subst heq
  simp [EnvironmentVariable.redact, EnvironmentVariable.WellDigested, EnvironmentVariable.digest,
    hne, hhex]

/-- `_encode_verification_check` -/
def encodeVerificationCheck (py : Python) (c : VerificationCheck) : Fields :=
  [("argv", strings c.argv),
    ("environment", objects (encodeEnv py) c.environment),
    ("identifier", .str c.identifier),
    ("timeout_seconds", c.timeout_seconds),
    ("working_directory", pathJson c.working_directory)]

/-- `_decode_verification_check` -/
def decodeVerificationCheck (py : Python) (payload : Fields) :
    Except PyError VerificationCheck := do
  let identifier ← requireStr payload "identifier"
  let argv ← tupleStr (payload.getD "argv" (.arr []))
  let working_directory ← decodePath (payload.get "working_directory")
  let timeout_seconds := payload.get "timeout_seconds"
  let environment ← objectList (decodeEnv py) (payload.getD "environment" (.arr []))
  return { identifier, argv, working_directory, timeout_seconds, environment }

/-- A verification check with its environment redacted. -/
def VerificationCheck.redact (py : Python) (c : VerificationCheck) : VerificationCheck :=
  { c with environment := c.environment.map (·.redact py) }

/-- Whether the environment of a verification check is well digested. -/
def VerificationCheck.WellDigested (py : Python) (c : VerificationCheck) : Prop :=
  ∀ v ∈ c.environment, v.WellDigested py

@[simp] theorem encodeVerificationCheck_redact (c : VerificationCheck) :
    encodeVerificationCheck py (c.redact py) = encodeVerificationCheck py c := by
  simp [encodeVerificationCheck, VerificationCheck.redact, objects]

@[simp] theorem VerificationCheck.wellDigested_redact (c : VerificationCheck) :
    (c.redact py).WellDigested py ↔ c.WellDigested py := by
  simp [WellDigested, redact]

theorem decode_encodeVerificationCheck {c : VerificationCheck} (h : c.WellDigested py) :
    decodeVerificationCheck py (encodeVerificationCheck py c) = .ok (c.redact py) := by
  simp [decodeVerificationCheck, encodeVerificationCheck,
    objectList_objects fun v hv => decode_encodeEnv (h v hv), VerificationCheck.redact]

/-- A check that was decoded is already redacted and well digested. -/
theorem redact_of_decodeVerificationCheck {payload : Fields} {c : VerificationCheck}
    (h : decodeVerificationCheck py payload = .ok c) : c.redact py = c ∧ c.WellDigested py := by
  simp only [decodeVerificationCheck, bind_eq_ok, pure_eq_ok, Except.ok.injEq] at h
  obtain ⟨_, -, _, -, _, -, environment, henvironment, rfl⟩ := h
  have hall := objectList_forall (fun _ _ => redact_of_decodeEnv) henvironment
  refine ⟨?_, fun v hv => (hall v hv).2⟩
  simp only [VerificationCheck.redact, VerificationCheck.mk.injEq, true_and]
  exact map_eq_self fun v hv => (hall v hv).1

/-- `_encode_architecture_assessment` -/
def encodeArchitectureAssessment (a : ArchitectureAssessment) : Fields :=
  [("evidence", .str a.evidence),
    ("identifier", .str a.identifier),
    ("passed", .bool a.passed),
    ("recommendation", a.recommendation),
    ("summary", .str a.summary)]

/-- `_decode_architecture_assessment` -/
def decodeArchitectureAssessment (payload : Fields) : Except PyError ArchitectureAssessment := do
  let identifier ← requireStr payload "identifier"
  let summary ← requireStr payload "summary"
  let passed := (payload.get "passed").truthy
  let evidence ← requireStr payload "evidence"
  let recommendation := payload.get "recommendation"
  return { identifier, summary, passed, evidence, recommendation }

theorem decode_encodeArchitectureAssessment (a : ArchitectureAssessment) :
    decodeArchitectureAssessment (encodeArchitectureAssessment a) = .ok a := by
  simp [decodeArchitectureAssessment, encodeArchitectureAssessment, Json.truthy]

/-- `_encode_test_evidence` -/
def encodeTestEvidence (e : TestEvidence) : Fields :=
  [("check_identifier", .str e.check_identifier), ("requirement", .str e.requirement)]

/-- `_decode_test_evidence` -/
def decodeTestEvidence (payload : Fields) : Except PyError TestEvidence := do
  let requirement ← requireStr payload "requirement"
  let check_identifier ← requireStr payload "check_identifier"
  return { requirement, check_identifier }

theorem decode_encodeTestEvidence (e : TestEvidence) :
    decodeTestEvidence (encodeTestEvidence e) = .ok e := by
  simp [decodeTestEvidence, encodeTestEvidence]

/-- `_encode_workflow_request` -/
def encodeWorkflowRequest (py : Python) (r : WorkflowRequest) : Fields :=
  [("architecture_assessments", objects encodeArchitectureAssessment r.architecture_assessments),
    ("checkpoint", .obj (encodeRoadmapCheckpoint r.checkpoint)),
    ("execution_argv", strings r.execution_argv),
    ("execution_identifier", .str r.execution_identifier),
    ("execution_workdir", pathJson r.execution_workdir),
    ("repository_root", pathJson r.repository_root),
    ("review_identifier", .str r.review_identifier),
    ("test_evidence", objects encodeTestEvidence r.test_evidence),
    ("verification_checks", objects (encodeVerificationCheck py) r.verification_checks)]

/-- `_decode_workflow_request` -/
def decodeWorkflowRequest (py : Python) (payload : Fields) : Except PyError WorkflowRequest := do
  let checkpoint_fields ← requireDict payload "checkpoint"
  let checkpoint ← decodeRoadmapCheckpoint checkpoint_fields
  let repository_root ← decodePath (payload.get "repository_root")
  let execution_identifier ← requireStr payload "execution_identifier"
  let execution_argv ← tupleStr (payload.getD "execution_argv" (.arr []))
  let execution_workdir ← decodePath (payload.get "execution_workdir")
  let verification_checks ← objectList (decodeVerificationCheck py)
    (payload.getD "verification_checks" (.arr []))
  let review_identifier ← requireStr payload "review_identifier"
  let architecture_assessments ← objectList decodeArchitectureAssessment
    (payload.getD "architecture_assessments" (.arr []))
  let test_evidence ← objectList decodeTestEvidence (payload.getD "test_evidence" (.arr []))
  return { checkpoint, repository_root, execution_identifier, execution_argv, execution_workdir,
           verification_checks, review_identifier, architecture_assessments, test_evidence }

/-- A workflow request with the environments of its checks redacted. -/
def WorkflowRequest.redact (py : Python) (r : WorkflowRequest) : WorkflowRequest :=
  { r with verification_checks := r.verification_checks.map (·.redact py) }

/-- Whether the environments of the checks of a workflow request are well digested. -/
def WorkflowRequest.WellDigested (py : Python) (r : WorkflowRequest) : Prop :=
  ∀ c ∈ r.verification_checks, c.WellDigested py

@[simp] theorem encodeWorkflowRequest_redact (r : WorkflowRequest) :
    encodeWorkflowRequest py (r.redact py) = encodeWorkflowRequest py r := by
  simp [encodeWorkflowRequest, WorkflowRequest.redact, objects]

@[simp] theorem WorkflowRequest.wellDigested_redact (r : WorkflowRequest) :
    (r.redact py).WellDigested py ↔ r.WellDigested py := by
  simp [WellDigested, redact]

theorem decode_encodeWorkflowRequest {r : WorkflowRequest} (h : r.WellDigested py) :
    decodeWorkflowRequest py (encodeWorkflowRequest py r) = .ok (r.redact py) := by
  simp [decodeWorkflowRequest, encodeWorkflowRequest, decode_encodeRoadmapCheckpoint,
    objectList_self decode_encodeArchitectureAssessment, objectList_self decode_encodeTestEvidence,
    objectList_objects fun c hc => decode_encodeVerificationCheck (h c hc), WorkflowRequest.redact]

/-- A request that was decoded is already redacted and well digested. -/
theorem redact_of_decodeWorkflowRequest {payload : Fields} {r : WorkflowRequest}
    (h : decodeWorkflowRequest py payload = .ok r) : r.redact py = r ∧ r.WellDigested py := by
  simp only [decodeWorkflowRequest, bind_eq_ok, pure_eq_ok, Except.ok.injEq] at h
  obtain ⟨_, -, _, -, _, -, _, -, _, -, _, -, checks, hchecks, _, -, _, -, _, -, rfl⟩ := h
  have hall := objectList_forall (fun _ _ => redact_of_decodeVerificationCheck) hchecks
  refine ⟨?_, fun c hc => (hall c hc).2⟩
  simp only [WorkflowRequest.redact, WorkflowRequest.mk.injEq, true_and, and_true]
  exact map_eq_self fun c hc => (hall c hc).1

/-! ## Candidate snapshots and plans -/

/-- `_encode_compose_mutation` -/
def encodeComposeMutation (m : ComposeMutationSpecification) : Fields :=
  [("file", pathJson m.file),
    ("service", .str m.service),
    ("property", .str m.property),
    ("operation", .str m.operation),
    ("expected_value", m.expected_value),
    ("desired_value", .str m.desired_value),
    ("preservation_constraints", strings m.preservation_constraints)]

/-- `_decode_compose_mutation` of an object. -/
def decodeComposeMutation (payload : Fields) : Except PyError ComposeMutationSpecification := do
  let file ← decodePath (payload.get "file")
  let service ← requireStr payload "service"
  let property ← requireStr payload "property"
  let operation ← requireStr payload "operation"
  let expected_value := payload.get "expected_value"
  let desired_value ← requireStr payload "desired_value"
  let preservation_constraints ← tupleStr (payload.getD "preservation_constraints" (.arr []))
  return { file, service, property, operation, desired_value, expected_value,
           preservation_constraints }

theorem decode_encodeComposeMutation (m : ComposeMutationSpecification) :
    decodeComposeMutation (encodeComposeMutation m) = .ok m := by
  simp [decodeComposeMutation, encodeComposeMutation]

/-- `_encode_operational_target` -/
def encodeOperationalTarget (t : OperationalTargetReference) : Fields :=
  [("provider_id", .str t.provider_id),
    ("resource_id", .str t.resource_id),
    ("resource_type", .str t.resource_type),
    ("resource_fingerprint", .str t.resource_fingerprint),
    ("resource_version", t.resource_version),
    ("expected_state", .str t.expected_state)]

/-- `_decode_operational_target` of an object. -/
def decodeOperationalTarget (payload : Fields) : Except PyError OperationalTargetReference := do
  let provider_id ← requireStr payload "provider_id"
  let resource_id ← requireStr payload "resource_id"
  let resource_type ← requireStr payload "resource_type"
  let resource_fingerprint ← requireStr payload "resource_fingerprint"
  let resource_version := payload.get "resource_version"
  let expected_state ← requireStr payload "expected_state"
  return { provider_id, resource_id, resource_type, resource_fingerprint, resource_version,
           expected_state }

theorem decode_encodeOperationalTarget (t : OperationalTargetReference) :
    decodeOperationalTarget (encodeOperationalTarget t) = .ok t := by
  simp [decodeOperationalTarget, encodeOperationalTarget]

/-- `_encode_candidate_snapshot` -/
def encodeCandidateSnapshot (py : Python) (s : CandidateSnapshot) : Fields :=
  [("candidate_fingerprint", .str s.candidate_fingerprint),
    ("candidate_id", .str s.candidate_id),
    ("catalog_item_id", s.catalog_item_id),
    ("compatibility_assessment_id", s.compatibility_assessment_id),
    ("compatibility_status", s.compatibility_status),
    ("constraints", strings s.constraints),
    ("evidence_ids", strings s.evidence_ids),
    ("execution_category", .str s.execution_category),
    ("execution_intent", .str s.execution_intent),
    ("effect_kind", .str (StrEnum.value s.effect_kind)),
    ("expires_at", .nullable (datetimeJson py) s.expires_at),
    ("intake_reason_codes", strings s.intake_reason_codes),
    ("intake_status", .str (StrEnum.value s.intake_status)),
    ("intake_timestamp", datetimeJson py s.intake_timestamp),
    ("rationale", .str s.rationale),
    ("recommendation_class", .str s.recommendation_class),
    ("relationship_ids", strings s.relationship_ids),
    ("required_approval_level", .str s.required_approval_level),
    ("source_recommendation_id", .str s.source_recommendation_id),
    ("source_subsystem", .str s.source_subsystem),
    ("target_id", .str s.target_id),
    ("target_type", .str s.target_type),
    ("mutation", objectOrNull encodeComposeMutation s.mutation),
    ("operational_target", objectOrNull encodeOperationalTarget s.operational_target)]

/-- `_decode_candidate_snapshot` -/
def decodeCandidateSnapshot (py : Python) (payload : Fields) :
    Except PyError CandidateSnapshot := do
  let candidate_id ← requireStr payload "candidate_id"
  let candidate_fingerprint ← requireStr payload "candidate_fingerprint"
  let source_recommendation_id ← requireStr payload "source_recommendation_id"
  let source_subsystem ← requireStr payload "source_subsystem"
  let recommendation_class ← requireStr payload "recommendation_class"
  let catalog_item_id := payload.get "catalog_item_id"
  let target_id ← requireStr payload "target_id"
  let target_type ← requireStr payload "target_type"
  let execution_category ← requireStr payload "execution_category"
  let execution_intent ← requireStr payload "execution_intent"
  let effect_kind ← readEnum WorkflowEffectKind
    (payload.getD "effect_kind" (.str (StrEnum.value WorkflowEffectKind.repositoryChange)))
  let required_approval_level ← requireStr payload "required_approval_level"
  let rationale ← requireStr payload "rationale"
  let constraints ← tupleStr (payload.getD "constraints" (.arr []))
  let evidence_ids ← tupleStr (payload.getD "evidence_ids" (.arr []))
  let compatibility_assessment_id := payload.get "compatibility_assessment_id"
  let compatibility_status := payload.get "compatibility_status"
  let relationship_ids ← tupleStr (payload.getD "relationship_ids" (.arr []))
  let expires_at ← decodeOptionalDatetime py (payload.get "expires_at")
  let intake_status_text ← requireStr payload "intake_status"
  let intake_status ← readEnum CoreCandidatePlanningIntakeStatus (.str intake_status_text)
  let intake_reason_codes ← tupleStr (payload.getD "intake_reason_codes" (.arr []))
  let intake_timestamp ← decodeDatetime py (payload.get "intake_timestamp")
  let mutation ← optionalObject "Invalid compose mutation specification" decodeComposeMutation
    (payload.get "mutation")
  let operational_target ← optionalObject "Invalid operational target reference"
    decodeOperationalTarget (payload.get "operational_target")
  return { candidate_id, candidate_fingerprint, source_recommendation_id, source_subsystem,
           recommendation_class, catalog_item_id, target_id, target_type, execution_category,
           execution_intent, required_approval_level, rationale, constraints, evidence_ids,
           compatibility_assessment_id, compatibility_status, relationship_ids, expires_at,
           intake_status, intake_reason_codes, intake_timestamp, effect_kind, mutation,
           operational_target }

theorem decode_encodeCandidateSnapshot (s : CandidateSnapshot) :
    decodeCandidateSnapshot py (encodeCandidateSnapshot py s) = .ok s := by
  simp [decodeCandidateSnapshot, encodeCandidateSnapshot,
    optionalObject_self decode_encodeComposeMutation,
    optionalObject_self decode_encodeOperationalTarget]

/-- `_encode_candidate_planning_failure` -/
def encodeCandidatePlanningFailure (f : CandidatePlanningFailure) : Fields :=
  [("code", .str (StrEnum.value f.code)), ("message", .str f.message)]

/-- `_decode_candidate_planning_failure` of an object. -/
def decodeCandidatePlanningFailure (payload : Fields) :
    Except PyError CandidatePlanningFailure := do
  let code_text ← requireStr payload "code"
  let code ← readEnum CandidatePlanningFailureCode (.str code_text)
  let message ← requireStr payload "message"
  return { code, message }

theorem decode_encodeCandidatePlanningFailure (f : CandidatePlanningFailure) :
    decodeCandidatePlanningFailure (encodeCandidatePlanningFailure f) = .ok f := by
  simp [decodeCandidatePlanningFailure, encodeCandidatePlanningFailure]

/-- `_encode_candidate_plan` -/
def encodeCandidatePlan (py : Python) (p : CandidatePlan) : Fields :=
  [("assumptions", strings p.assumptions),
    ("candidate_fingerprint", .str p.candidate_fingerprint),
    ("candidate_id", .str p.candidate_id),
    ("constraints", strings p.constraints),
    ("created_at", datetimeJson py p.created_at),
    ("evidence_ids", strings p.evidence_ids),
    ("identifier", .str p.identifier),
    ("likely_affected_components", strings p.likely_affected_components),
    ("likely_affected_files", paths p.likely_affected_files),
    ("objective", .str p.objective),
    ("proposed_steps", strings p.proposed_steps),
    ("repository_branch", p.repository_branch),
    ("repository_head", p.repository_head),
    ("repository_root", pathJson p.repository_root),
    ("revalidated_candidate_fingerprint", .str p.revalidated_candidate_fingerprint),
    ("rollback_considerations", strings p.rollback_considerations),
    ("session_id", .str p.session_id),
    ("title", .str p.title),
    ("unresolved_questions", strings p.unresolved_questions),
    ("verification_strategy", strings p.verification_strategy),
    ("mutation", objectOrNull encodeComposeMutation p.mutation)]

/-- `_decode_candidate_plan` of an object. -/
def decodeCandidatePlan (py : Python) (payload : Fields) : Except PyError CandidatePlan := do
  let identifier ← requireStr payload "identifier"
  let session_id ← requireStr payload "session_id"
  let candidate_id ← requireStr payload "candidate_id"
  let candidate_fingerprint ← requireStr payload "candidate_fingerprint"
  let title ← requireStr payload "title"
  let objective ← requireStr payload "objective"
  let assumptions ← tupleStr (payload.getD "assumptions" (.arr []))
  let constraints ← tupleStr (payload.getD "constraints" (.arr []))
  let proposed_steps ← tupleStr (payload.getD "proposed_steps" (.arr []))
  let likely_affected_components ← tupleStr
    (payload.getD "likely_affected_components" (.arr []))
  let likely_affected_files ← tuplePath (payload.getD "likely_affected_files" (.arr []))
  let verification_strategy ← tupleStr (payload.getD "verification_strategy" (.arr []))
  let rollback_considerations ← tupleStr (payload.getD "rollback_considerations" (.arr []))
  let unresolved_questions ← tupleStr (payload.getD "unresolved_questions" (.arr []))
  let evidence_ids ← tupleStr (payload.getD "evidence_ids" (.arr []))
  let created_at ← decodeDatetime py (payload.get "created_at")
  let repository_root ← decodePath (payload.get "repository_root")
  let repository_branch := payload.get "repository_branch"
  let repository_head := payload.get "repository_head"
  let revalidated_candidate_fingerprint ← requireStr payload "revalidated_candidate_fingerprint"
  let mutation ← optionalObject "Invalid compose mutation specification" decodeComposeMutation
    (payload.get "mutation")
  return { identifier, session_id, candidate_id, candidate_fingerprint, title, objective,
           assumptions, constraints, proposed_steps, likely_affected_components,
           likely_affected_files, verification_strategy, rollback_considerations,
           unresolved_questions, evidence_ids, created_at, repository_root, repository_branch,
           repository_head, revalidated_candidate_fingerprint, mutation }

theorem decode_encodeCandidatePlan (p : CandidatePlan) :
    decodeCandidatePlan py (encodeCandidatePlan py p) = .ok p := by
  simp [decodeCandidatePlan, encodeCandidatePlan, optionalObject_self decode_encodeComposeMutation]

/-! ## Operational plans and planning sessions -/

/-- `_encode_operational_verification` -/
def encodeOperationalVerification (v : OperationalVerificationSpecification) : Fields :=
  [("pre_state", .str v.pre_state),
    ("expected_post_state", .str v.expected_post_state),
    ("identity_fingerprint", .str v.identity_fingerprint),
    ("health_requirement", .str v.health_requirement),
    ("unknown_outcome_policy", .str v.unknown_outcome_policy)]

/-- `_decode_operational_verification` -/
def decodeOperationalVerification (value : Json) :
    Except PyError OperationalVerificationSpecification := do
  let payload ← value.requireObject
    (.statePersistenceError "Invalid operational verification specification")
  let pre_state ← requireStr payload "pre_state"
  let expected_post_state ← requireStr payload "expected_post_state"
  let identity_fingerprint ← requireStr payload "identity_fingerprint"
  let health_requirement ← requireStr payload "health_requirement"
  let unknown_outcome_policy ← requireStr payload "unknown_outcome_policy"
  return { pre_state, expected_post_state, identity_fingerprint, health_requirement,
           unknown_outcome_policy }

@[simp] theorem decode_encodeOperationalVerification (v : OperationalVerificationSpecification) :
    decodeOperationalVerification (.obj (encodeOperationalVerification v)) = .ok v := by
  simp [decodeOperationalVerification, encodeOperationalVerification]

/-- `_encode_operational_plan` -/
def encodeOperationalPlan (py : Python) (p : OperationalCandidatePlan) : Fields :=
  [("identifier", .str p.identifier),
    ("session_id", .str p.session_id),
    ("candidate_id", .str p.candidate_id),
    ("candidate_fingerprint", .str p.candidate_fingerprint),
    ("effect_kind", .str (StrEnum.value p.effect_kind)),
    ("execution_intent", .str p.execution_intent),
    ("provider_id", .str p.provider_id),
    ("resource_id", .str p.resource_id),
    ("resource_type", .str p.resource_type),
    ("target_fingerprint", .str p.target_fingerprint),
    ("target_version", p.target_version),
    ("expected_pre_state", .str p.expected_pre_state),
    ("intended_action", .str p.intended_action),
    ("disruption_scope", .str p.disruption_scope),
    ("verification", .obj (encodeOperationalVerification p.verification)),
    ("failure_considerations", strings p.failure_considerations),
    ("evidence_ids", strings p.evidence_ids),
    ("created_at", datetimeJson py p.created_at),
    ("revalidated_candidate_fingerprint", .str p.revalidated_candidate_fingerprint)]

/-- `_decode_operational_plan` of an object. -/
def decodeOperationalPlan (py : Python) (payload : Fields) :
    Except PyError OperationalCandidatePlan := do
  let identifier ← requireStr payload "identifier"
  let session_id ← requireStr payload "session_id"
  let candidate_id ← requireStr payload "candidate_id"
  let candidate_fingerprint ← requireStr payload "candidate_fingerprint"
  let effect_kind_text ← requireStr payload "effect_kind"
  let effect_kind ← readEnum WorkflowEffectKind (.str effect_kind_text)
  let execution_intent ← requireStr payload "execution_intent"
  let provider_id ← requireStr payload "provider_id"
  let resource_id ← requireStr payload "resource_id"
  let resource_type ← requireStr payload "resource_type"
  let target_fingerprint ← requireStr payload "target_fingerprint"
  let target_version := payload.get "target_version"
  let expected_pre_state ← requireStr payload "expected_pre_state"
  let intended_action ← requireStr payload "intended_action"
  let disruption_scope ← requireStr payload "disruption_scope"
  let verification ← decodeOperationalVerification (payload.get "verification")
  let failure_considerations ← tupleStr (payload.getD "failure_considerations" (.arr []))
  let evidence_ids ← tupleStr (payload.getD "evidence_ids" (.arr []))
  let created_at ← decodeDatetime py (payload.get "created_at")
  let revalidated_candidate_fingerprint ← requireStr payload "revalidated_candidate_fingerprint"
  let plan : OperationalCandidatePlan :=
    { identifier, session_id, candidate_id, candidate_fingerprint, effect_kind, execution_intent,
      provider_id, resource_id, resource_type, target_fingerprint, target_version,
      expected_pre_state, intended_action, disruption_scope, verification,
      failure_considerations, evidence_ids, created_at, revalidated_candidate_fingerprint }
  plan.postInit
  return plan

theorem decode_encodeOperationalPlan {p : OperationalCandidatePlan} (h : p.postInit = .ok ()) :
    decodeOperationalPlan py (encodeOperationalPlan py p) = .ok p := by
  simp [decodeOperationalPlan, encodeOperationalPlan, h]

theorem postInit_of_decodeOperationalPlan {payload : Fields} {p : OperationalCandidatePlan}
    (h : decodeOperationalPlan py payload = .ok p) : p.postInit = .ok () := by
  simp only [decodeOperationalPlan, bind_eq_ok, exists_unit, pure_eq_ok, Except.ok.injEq] at h
  obtain ⟨_, -, _, -, _, -, _, -, _, -, _, -, _, -, _, -, _, -, _, -, _, -, _, -, _, -, _, -, _, -,
    _, -, _, -, _, -, _, -, hinit, rfl⟩ := h
  exact hinit

/-- `_encode_candidate_planning_session` -/
def encodeCandidatePlanningSession (py : Python) (s : CandidatePlanningSession) : Fields :=
  [("candidate_fingerprint", .str s.candidate_fingerprint),
    ("candidate_id", .str s.candidate_id),
    ("candidate_plan_fingerprint", s.candidate_plan_fingerprint),
    ("created_at", datetimeJson py s.created_at),
    ("identifier", .str s.identifier),
    ("exact_implementation_approval_request_id", s.exact_implementation_approval_request_id),
    ("implementation_request_id", s.implementation_request_id),
    ("implementation_translation_completed_at",
      .nullable (datetimeJson py) s.implementation_translation_completed_at),
    ("implementation_translation_status", enumOrNull s.implementation_translation_status),
    ("implementation_approval_request_id", s.implementation_approval_request_id),
    ("last_revalidation_fingerprint", s.last_revalidation_fingerprint),
    ("last_revalidation_status", enumOrNull s.last_revalidation_status),
    ("plan", objectOrNull (encodeCandidatePlan py) s.plan),
    ("operational_plan", objectOrNull (encodeOperationalPlan py) s.operational_plan),
    ("planning_completed_at", .nullable (datetimeJson py) s.planning_completed_at),
    ("planning_failure", objectOrNull encodeCandidatePlanningFailure s.planning_failure),
    ("planning_started_at", .nullable (datetimeJson py) s.planning_started_at),
    ("planning_status", .str (StrEnum.value s.planning_status)),
    ("predecessor_session_id", s.predecessor_session_id),
    ("successor_session_id", s.successor_session_id),
    ("snapshot", .obj (encodeCandidateSnapshot py s.snapshot)),
    ("status", .str (StrEnum.value s.status)),
    ("unsupported_reason", s.unsupported_reason),
    ("workflow_conversion_completed_at",
      .nullable (datetimeJson py) s.workflow_conversion_completed_at),
    ("workflow_conversion_status", enumOrNull s.workflow_conversion_status),
    ("workflow_session_id", s.workflow_session_id)]

/-- The operational plan of a session, which snapshots of version 1 do not have. -/
def readOperationalPlan (py : Python) (schema_version : ℕ) (payload : Fields) :
    Except PyError (Option OperationalCandidatePlan) :=
  if 2 ≤ schema_version then
    optionalObject "Invalid operational candidate plan" (decodeOperationalPlan py)
      (payload.get "operational_plan")
  else .ok none

/-- `_decode_candidate_planning_session` -/
def decodeCandidatePlanningSession (py : Python) (schema_version : ℕ) (value : Json) :
    Except PyError CandidatePlanningSession := do
  let payload ← value.requireObject (.statePersistenceError "Invalid candidate planning session")
  let identifier ← requireStr payload "identifier"
  let candidate_id ← requireStr payload "candidate_id"
  let candidate_fingerprint ← requireStr payload "candidate_fingerprint"
  let status_text ← requireStr payload "status"
  let status ← readEnum CandidatePlanningSessionStatus (.str status_text)
  let snapshot_fields ← requireDict payload "snapshot"
  let snapshot ← decodeCandidateSnapshot py snapshot_fields
  let created_at ← decodeDatetime py (payload.get "created_at")
  let unsupported_reason := payload.get "unsupported_reason"
  let planning_status ← readEnum CandidatePlanningSessionStatus (payload.getD "planning_status"
    (.str (StrEnum.value CandidatePlanningSessionStatus.readyForPlanning)))
  let plan ← optionalObject "Invalid candidate plan" (decodeCandidatePlan py) (payload.get "plan")
  let operational_plan ← readOperationalPlan py schema_version payload
  let planning_failure ← optionalObject "Invalid candidate planning failure"
    decodeCandidatePlanningFailure (payload.get "planning_failure")
  let planning_started_at ← decodeOptionalDatetime py (payload.get "planning_started_at")
  let planning_completed_at ← decodeOptionalDatetime py (payload.get "planning_completed_at")
  let last_revalidation_fingerprint := payload.get "last_revalidation_fingerprint"
  let last_revalidation_status ← readOptionalEnum CoreCandidatePlanningIntakeStatus
    (payload.get "last_revalidation_status")
  let workflow_session_id := payload.get "workflow_session_id"
  let implementation_approval_request_id := payload.get "implementation_approval_request_id"
  let candidate_plan_fingerprint := payload.get "candidate_plan_fingerprint"
  let workflow_conversion_status ← readOptionalEnum CandidatePlanningSessionStatus
    (payload.get "workflow_conversion_status")
  let workflow_conversion_completed_at ← decodeOptionalDatetime py
    (payload.get "workflow_conversion_completed_at")
  let implementation_request_id := payload.get "implementation_request_id"
  let exact_implementation_approval_request_id :=
    payload.get "exact_implementation_approval_request_id"
  let implementation_translation_status ← readOptionalEnum CandidatePlanningSessionStatus
    (payload.get "implementation_translation_status")
  let implementation_translation_completed_at ← decodeOptionalDatetime py
    (payload.get "implementation_translation_completed_at")
  let predecessor_session_id := payload.get "predecessor_session_id"
  let successor_session_id := payload.get "successor_session_id"
  let session : CandidatePlanningSession :=
    { identifier, candidate_id, candidate_fingerprint, status, snapshot, created_at,
      unsupported_reason, planning_status, plan, operational_plan, planning_failure,
      planning_started_at, planning_completed_at, last_revalidation_fingerprint,
      last_revalidation_status, workflow_session_id, implementation_approval_request_id,
      candidate_plan_fingerprint, workflow_conversion_status, workflow_conversion_completed_at,
      implementation_request_id, exact_implementation_approval_request_id,
      implementation_translation_status, implementation_translation_completed_at,
      predecessor_session_id, successor_session_id }
  session.postInit
  return session

theorem decode_encodeCandidatePlanningSession {s : CandidatePlanningSession}
    (h : s.construct = .ok ()) :
    decodeCandidatePlanningSession py 3 (.obj (encodeCandidatePlanningSession py s)) = .ok s := by
  obtain ⟨hplan, hinit⟩ := CandidatePlanningSession.construct_eq_ok.mp h
  have hoperational : optionalObject "Invalid operational candidate plan"
      (decodeOperationalPlan py) (objectOrNull (encodeOperationalPlan py) s.operational_plan) =
        .ok s.operational_plan :=
    optionalObject_same fun p hp => decode_encodeOperationalPlan (hplan p hp)
  simp [decodeCandidatePlanningSession, encodeCandidatePlanningSession, readOperationalPlan,
    decode_encodeCandidateSnapshot, optionalObject_self decode_encodeCandidatePlan, hoperational,
    optionalObject_self decode_encodeCandidatePlanningFailure, hinit]

/-- A decoded planning session and its plan passed their checks. -/
theorem construct_of_decodeCandidatePlanningSession {version : ℕ} {value : Json}
    {s : CandidatePlanningSession} (h : decodeCandidatePlanningSession py version value = .ok s) :
    s.construct = .ok () := by
  simp only [decodeCandidatePlanningSession, bind_eq_ok, exists_unit, pure_eq_ok,
    Except.ok.injEq] at h
  obtain ⟨_, -, _, -, _, -, _, -, _, -, _, -, _, -, _, -, _, -, _, -, _, -, plan, hplan, _, -,
    _, -, _, -, _, -, _, -, _, -, _, -, _, -, hinit, rfl⟩ := h
  refine CandidatePlanningSession.construct_eq_ok.mpr ⟨?_, hinit⟩
  unfold readOperationalPlan at hplan
  split at hplan
  · exact optionalObject_forall (fun _ _ => postInit_of_decodeOperationalPlan) hplan
  · cases hplan
    simp

end AtlasOS.Agent
