import AtlasOS.Lib.Json

/-!
# The enumerations of the Agent

Each enumeration lists its members under the texts that are persisted. The
order of the members is the order of the source.
-/

namespace AtlasOS.Agent

/-- Lifecycle phase of one sprint. -/
inductive SprintPhase where
  | planned | awaitingApproval | inProgress | awaitingVerificationApproval | verifying
  | awaitingCommitApproval | committing | reviewing | completed | blocked
  deriving DecidableEq

instance : StrEnum SprintPhase where
  value
    | .planned => "planned"
    | .awaitingApproval => "awaiting_approval"
    | .inProgress => "in_progress"
    | .awaitingVerificationApproval => "awaiting_verification_approval"
    | .verifying => "verifying"
    | .awaitingCommitApproval => "awaiting_commit_approval"
    | .committing => "committing"
    | .reviewing => "reviewing"
    | .completed => "completed"
    | .blocked => "blocked"
  members := [.planned, .awaitingApproval, .inProgress, .awaitingVerificationApproval, .verifying,
    .awaitingCommitApproval, .committing, .reviewing, .completed, .blocked]
  find_value a := find?_text (by simp) (by cases a <;> decide)

/-- Lifecycle state of one stored workflow session. -/
inductive WorkflowSessionState where
  | planned | awaitingApproval | awaitingImplementationApproval | executing
  | patchAppliedPendingVerification | awaitingVerificationApproval | verifying
  | awaitingCommitApproval | committing | blocked | completed
  deriving DecidableEq

instance : StrEnum WorkflowSessionState where
  value
    | .planned => "planned"
    | .awaitingApproval => "awaiting_approval"
    | .awaitingImplementationApproval => "awaiting_implementation_approval"
    | .executing => "executing"
    | .patchAppliedPendingVerification => "patch_applied_pending_verification"
    | .awaitingVerificationApproval => "awaiting_verification_approval"
    | .verifying => "verifying"
    | .awaitingCommitApproval => "awaiting_commit_approval"
    | .committing => "committing"
    | .blocked => "blocked"
    | .completed => "completed"
  members := [.planned, .awaitingApproval, .awaitingImplementationApproval, .executing,
    .patchAppliedPendingVerification, .awaitingVerificationApproval, .verifying,
    .awaitingCommitApproval, .committing, .blocked, .completed]
  find_value a := find?_text (by simp) (by cases a <;> decide)

/-- Authoritative origin of a workflow session. -/
inductive WorkflowSource where
  | roadmap | candidate | manual
  deriving DecidableEq

instance : StrEnum WorkflowSource where
  value
    | .roadmap => "roadmap"
    | .candidate => "candidate"
    | .manual => "manual"
  members := [.roadmap, .candidate, .manual]
  find_value a := find?_text (by simp) (by cases a <;> decide)

/-- Kind of side effect represented by a workflow. -/
inductive WorkflowEffectKind where
  | repositoryChange | operationalAction
  deriving DecidableEq

instance : StrEnum WorkflowEffectKind where
  value
    | .repositoryChange => "repository_change"
    | .operationalAction => "operational_action"
  members := [.repositoryChange, .operationalAction]
  find_value a := find?_text (by simp) (by cases a <;> decide)

/-- Agent projection of one Core-owned operational lifecycle. -/
inductive OperationalExecutionStage where
  | executionBlocked | submissionOutcomeUnknown | dispatchPending | verificationPending | verified
  | failed | verificationFailed | targetReplaced | outcomeUnknown
  deriving DecidableEq

instance : StrEnum OperationalExecutionStage where
  value
    | .executionBlocked => "execution_blocked"
    | .submissionOutcomeUnknown => "submission_outcome_unknown"
    | .dispatchPending => "dispatch_pending"
    | .verificationPending => "verification_pending"
    | .verified => "verified"
    | .failed => "failed"
    | .verificationFailed => "verification_failed"
    | .targetReplaced => "target_replaced"
    | .outcomeUnknown => "outcome_unknown"
  members := [.executionBlocked, .submissionOutcomeUnknown, .dispatchPending,
    .verificationPending, .verified, .failed, .verificationFailed, .targetReplaced,
    .outcomeUnknown]
  find_value a := find?_text (by simp) (by cases a <;> decide)

/-- State of a human approval decision. -/
inductive ApprovalStatus where
  | pending | approved | rejected
  deriving DecidableEq

instance : StrEnum ApprovalStatus where
  value
    | .pending => "pending"
    | .approved => "approved"
    | .rejected => "rejected"
  members := [.pending, .approved, .rejected]
  find_value a := find?_text (by simp) (by cases a <;> decide)

/-- Purpose of one human approval boundary. -/
inductive ApprovalPurpose where
  | implementation | candidateWorkflowShell | verification | commit | operationalAction
  deriving DecidableEq

instance : StrEnum ApprovalPurpose where
  value
    | .implementation => "implementation"
    | .candidateWorkflowShell => "candidate_workflow_shell"
    | .verification => "verification"
    | .commit => "commit"
    | .operationalAction => "operational_action"
  members := [.implementation, .candidateWorkflowShell, .verification, .commit,
    .operationalAction]
  find_value a := find?_text (by simp) (by cases a <;> decide)

/-- Lifecycle state of a candidate-planning session. -/
inductive CandidatePlanningSessionStatus where
  | intakeRejected | unsupportedIntent | readyForPlanning | planning | planReady | planningFailed
  | planningNotSupported | staleBeforePlanning | workflowCreated | staleBeforeWorkflow
  | workflowConversionFailed | implementationReady | implementationNotSupported
  | implementationTranslationFailed | staleBeforeImplementation
  deriving DecidableEq

instance : StrEnum CandidatePlanningSessionStatus where
  value
    | .intakeRejected => "intake_rejected"
    | .unsupportedIntent => "unsupported_intent"
    | .readyForPlanning => "ready_for_planning"
    | .planning => "planning"
    | .planReady => "plan_ready"
    | .planningFailed => "planning_failed"
    | .planningNotSupported => "planning_not_supported"
    | .staleBeforePlanning => "stale_before_planning"
    | .workflowCreated => "workflow_created"
    | .staleBeforeWorkflow => "stale_before_workflow"
    | .workflowConversionFailed => "workflow_conversion_failed"
    | .implementationReady => "implementation_ready"
    | .implementationNotSupported => "implementation_not_supported"
    | .implementationTranslationFailed => "implementation_translation_failed"
    | .staleBeforeImplementation => "stale_before_implementation"
  members := [.intakeRejected, .unsupportedIntent, .readyForPlanning, .planning, .planReady,
    .planningFailed, .planningNotSupported, .staleBeforePlanning, .workflowCreated,
    .staleBeforeWorkflow, .workflowConversionFailed, .implementationReady,
    .implementationNotSupported, .implementationTranslationFailed, .staleBeforeImplementation]
  find_value a := find?_text (by simp) (by cases a <;> decide)

/-- Planning-intake status reported by Atlas Core. -/
inductive CoreCandidatePlanningIntakeStatus where
  | acceptedForPlanning | notFound | stale | notEligible | evidenceUnavailable
  | targetUnavailable | expired | policyDenied | rejected
  deriving DecidableEq

instance : StrEnum CoreCandidatePlanningIntakeStatus where
  value
    | .acceptedForPlanning => "accepted_for_planning"
    | .notFound => "not_found"
    | .stale => "stale"
    | .notEligible => "not_eligible"
    | .evidenceUnavailable => "evidence_unavailable"
    | .targetUnavailable => "target_unavailable"
    | .expired => "expired"
    | .policyDenied => "policy_denied"
    | .rejected => "rejected"
  members := [.acceptedForPlanning, .notFound, .stale, .notEligible, .evidenceUnavailable,
    .targetUnavailable, .expired, .policyDenied, .rejected]
  find_value a := find?_text (by simp) (by cases a <;> decide)

/-- Sanitized service-level failure code. -/
inductive CandidatePlanningFailureCode where
  | atlasCoreUnavailable | intakeRejected | missingCandidateSnapshot
  | missingCandidateFingerprint | unsupportedIntent | conflictingActiveSession
  | persistenceFailed | sessionNotFound | invalidSessionStatus | candidateStale
  | candidateExpired | candidateNotEligible | evidenceUnavailable | targetUnavailable
  | repositoryMappingUnavailable | repositoryInspectionFailed | planningValidationFailed
  | unsafePlanContent | planNotReady | candidateFingerprintMismatch | planFingerprintMismatch
  | planIntegrityFailed | workflowTranslationUnsupported | approvalCreationFailed
  | implementationNotSupported | repositoryStale | unsafeTranslation | workflowNotFound
  | workflowNotCandidate | workflowStateInvalid | missingMutationSpecification
  deriving DecidableEq

instance : StrEnum CandidatePlanningFailureCode where
  value
    | .atlasCoreUnavailable => "atlas_core_unavailable"
    | .intakeRejected => "intake_rejected"
    | .missingCandidateSnapshot => "missing_candidate_snapshot"
    | .missingCandidateFingerprint => "missing_candidate_fingerprint"
    | .unsupportedIntent => "unsupported_intent"
    | .conflictingActiveSession => "conflicting_active_session"
    | .persistenceFailed => "persistence_failed"
    | .sessionNotFound => "session_not_found"
    | .invalidSessionStatus => "invalid_session_status"
    | .candidateStale => "candidate_stale"
    | .candidateExpired => "candidate_expired"
    | .candidateNotEligible => "candidate_not_eligible"
    | .evidenceUnavailable => "evidence_unavailable"
    | .targetUnavailable => "target_unavailable"
    | .repositoryMappingUnavailable => "repository_mapping_unavailable"
    | .repositoryInspectionFailed => "repository_inspection_failed"
    | .planningValidationFailed => "planning_validation_failed"
    | .unsafePlanContent => "unsafe_plan_content"
    | .planNotReady => "plan_not_ready"
    | .candidateFingerprintMismatch => "candidate_fingerprint_mismatch"
    | .planFingerprintMismatch => "plan_fingerprint_mismatch"
    | .planIntegrityFailed => "plan_integrity_failed"
    | .workflowTranslationUnsupported => "workflow_translation_unsupported"
    | .approvalCreationFailed => "approval_creation_failed"
    | .implementationNotSupported => "implementation_not_supported"
    | .repositoryStale => "repository_stale"
    | .unsafeTranslation => "unsafe_translation"
    | .workflowNotFound => "workflow_not_found"
    | .workflowNotCandidate => "workflow_not_candidate"
    | .workflowStateInvalid => "workflow_state_invalid"
    | .missingMutationSpecification => "missing_mutation_specification"
  members := [.atlasCoreUnavailable, .intakeRejected, .missingCandidateSnapshot,
    .missingCandidateFingerprint, .unsupportedIntent, .conflictingActiveSession,
    .persistenceFailed, .sessionNotFound, .invalidSessionStatus, .candidateStale,
    .candidateExpired, .candidateNotEligible, .evidenceUnavailable, .targetUnavailable,
    .repositoryMappingUnavailable, .repositoryInspectionFailed, .planningValidationFailed,
    .unsafePlanContent, .planNotReady, .candidateFingerprintMismatch, .planFingerprintMismatch,
    .planIntegrityFailed, .workflowTranslationUnsupported, .approvalCreationFailed,
    .implementationNotSupported, .repositoryStale, .unsafeTranslation, .workflowNotFound,
    .workflowNotCandidate, .workflowStateInvalid, .missingMutationSpecification]
  find_value a := find?_text (by simp) (by cases a <;> decide)

/-- Status of a verification check or report. -/
inductive VerificationStatus where
  | passed | failed | timedOut | launchFailed
  deriving DecidableEq

instance : StrEnum VerificationStatus where
  value
    | .passed => "passed"
    | .failed => "failed"
    | .timedOut => "timed_out"
    | .launchFailed => "launch_failed"
  members := [.passed, .failed, .timedOut, .launchFailed]
  find_value a := find?_text (by simp) (by cases a <;> decide)

/-- Final status of one execution attempt. -/
inductive ExecutionStatus where
  | succeeded | failed | timedOut | launchFailed | unknown
  deriving DecidableEq

instance : StrEnum ExecutionStatus where
  value
    | .succeeded => "succeeded"
    | .failed => "failed"
    | .timedOut => "timed_out"
    | .launchFailed => "launch_failed"
    | .unknown => "unknown"
  members := [.succeeded, .failed, .timedOut, .launchFailed, .unknown]
  find_value a := find?_text (by simp) (by cases a <;> decide)

/-- Overall status of an implementation review. -/
inductive ReviewStatus where
  | approved | changesRequired
  deriving DecidableEq

instance : StrEnum ReviewStatus where
  value
    | .approved => "approved"
    | .changesRequired => "changes_required"
  members := [.approved, .changesRequired]
  find_value a := find?_text (by simp) (by cases a <;> decide)

/-- Category of one review finding. -/
inductive ReviewCategory where
  | architecture | scope | testCoverage | verification
  deriving DecidableEq

instance : StrEnum ReviewCategory where
  value
    | .architecture => "architecture"
    | .scope => "scope"
    | .testCoverage => "test_coverage"
    | .verification => "verification"
  members := [.architecture, .scope, .testCoverage, .verification]
  find_value a := find?_text (by simp) (by cases a <;> decide)

/-- Severity of one review finding. -/
inductive ReviewSeverity where
  | warning | error
  deriving DecidableEq

instance : StrEnum ReviewSeverity where
  value
    | .warning => "warning"
    | .error => "error"
  members := [.warning, .error]
  find_value a := find?_text (by simp) (by cases a <;> decide)

/-- Stable candidate verification and review failure code. -/
inductive CandidateVerificationFailureCode where
  | verificationApprovalMissing | verificationNotApproved | verificationEvidenceMismatch
  | changedFilesOutOfScope | changedFilesDigestMismatch | repositoryStale | candidateStale
  | planStale | implementationRequestMismatch | coreUnavailable | verificationFailed
  | reviewFailed | secretLikeChangeDetected | commitApprovalCreationFailed | persistenceFailed
  deriving DecidableEq

instance : StrEnum CandidateVerificationFailureCode where
  value
    | .verificationApprovalMissing => "verification_approval_missing"
    | .verificationNotApproved => "verification_not_approved"
    | .verificationEvidenceMismatch => "verification_evidence_mismatch"
    | .changedFilesOutOfScope => "changed_files_out_of_scope"
    | .changedFilesDigestMismatch => "changed_files_digest_mismatch"
    | .repositoryStale => "repository_stale"
    | .candidateStale => "candidate_stale"
    | .planStale => "plan_stale"
    | .implementationRequestMismatch => "implementation_request_mismatch"
    | .coreUnavailable => "core_unavailable"
    | .verificationFailed => "verification_failed"
    | .reviewFailed => "review_failed"
    | .secretLikeChangeDetected => "secret_like_change_detected"
    | .commitApprovalCreationFailed => "commit_approval_creation_failed"
    | .persistenceFailed => "persistence_failed"
  members := [.verificationApprovalMissing, .verificationNotApproved,
    .verificationEvidenceMismatch, .changedFilesOutOfScope, .changedFilesDigestMismatch,
    .repositoryStale, .candidateStale, .planStale, .implementationRequestMismatch,
    .coreUnavailable, .verificationFailed, .reviewFailed, .secretLikeChangeDetected,
    .commitApprovalCreationFailed, .persistenceFailed]
  find_value a := find?_text (by simp) (by cases a <;> decide)

theorem CandidateVerificationFailureCode.value_ne_empty (c : CandidateVerificationFailureCode) :
    StrEnum.value c ≠ "" := by
  cases c <;> decide

end AtlasOS.Agent
