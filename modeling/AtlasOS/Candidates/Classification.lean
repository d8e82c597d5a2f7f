import AtlasOS.Candidates.Models

/-!
# Classification and eligibility

A recommendation class is advisory or belongs to an execution intent. Whether a
candidate may be planned is decided by a sequence of checks, each of which adds
a finding; the candidate is eligible when none does.
-/

namespace AtlasOS.Candidates

/-! ## Classification -/

inductive RecommendationClass where
  | restartService
  | restartContainer
  | restartProvider
  | configureService
  | enableIntegration
  | disableIntegration
  | installContainer
  | installProvider
  | updateComposeStack
  | rc1ValidationSmoke
  | updateContainerImage
  | createBackup
  | restoreBackup
  | removeResource
  | removeIntegration
  | investigateCompatibility
  | reviewIncompatibility
  | reviewCompatibilityWarning
  | reviewLogs
  | inspectDiagnostics
  | readDocumentation
  | compareOptions
  | monitorTrend
  | validateUnknownFacts
  deriving DecidableEq

namespace RecommendationClass

def value : RecommendationClass → String
  | restartService => "restart_service"
  | restartContainer => "restart_container"
  | restartProvider => "restart_provider"
  | configureService => "configure_service"
  | enableIntegration => "enable_integration"
  | disableIntegration => "disable_integration"
  | installContainer => "install_container"
  | installProvider => "install_provider"
  | updateComposeStack => "update_compose_stack"
  | rc1ValidationSmoke => "rc1_validation_smoke"
  | updateContainerImage => "update_container_image"
  | createBackup => "create_backup"
  | restoreBackup => "restore_backup"
  | removeResource => "remove_resource"
  | removeIntegration => "remove_integration"
  | investigateCompatibility => "investigate_compatibility"
  | reviewIncompatibility => "review_incompatibility"
  | reviewCompatibilityWarning => "review_compatibility_warning"
  | reviewLogs => "review_logs"
  | inspectDiagnostics => "inspect_diagnostics"
  | readDocumentation => "read_documentation"
  | compareOptions => "compare_options"
  | monitorTrend => "monitor_trend"
  | validateUnknownFacts => "validate_unknown_facts"

/-- The members of the enumeration, in order. -/
def all : List RecommendationClass :=
  [restartService, restartContainer, restartProvider, configureService, enableIntegration,
    disableIntegration, installContainer, installProvider, updateComposeStack, rc1ValidationSmoke,
    updateContainerImage, createBackup, restoreBackup, removeResource, removeIntegration,
    investigateCompatibility, reviewIncompatibility, reviewCompatibilityWarning, reviewLogs,
    inspectDiagnostics, readDocumentation, compareOptions, monitorTrend, validateUnknownFacts]

/-- `RecommendationClass(value)`, `none` for its `ValueError`. -/
def ofValue (text : String) : Option RecommendationClass := all.find? fun c => c.value == text

/-- `recommendation_class.value.replace("_", "-")` -/
def hyphenated (c : RecommendationClass) : String := replaceChar '_' '-' c.value

/-- Membership in `_ADVISORY_RECOMMENDATION_CLASSES`. -/
def isAdvisory : RecommendationClass → Bool
  | compareOptions | inspectDiagnostics | investigateCompatibility | monitorTrend
  | readDocumentation | reviewCompatibilityWarning | reviewIncompatibility | reviewLogs
  | validateUnknownFacts => true
  | _ => false

/-- `_EXECUTABLE_RECOMMENDATION_CLASSES` -/
def executable : RecommendationClass →
    Option (ExecutionIntent × ApprovalLevel × List ExecutionConstraint)
  | configureService => some (.configureService, .standard, [.requiresProvider])
  | createBackup => some (.createBackup, .standard, [])
  | disableIntegration => some (.disableIntegration, .destructive, [.destructiveChange])
  | enableIntegration => some (.enableIntegration, .elevated, [.requiresProvider])
  | installContainer => some (.installContainer, .elevated,
      [.requiresCompatibility, .requiresProvider, .requiresResolvedRelationships])
  | installProvider => some (.installProvider, .elevated, [.requiresCompatibility])
  | removeIntegration => some (.removeIntegration, .destructive,
      [.destructiveChange, .requiresBackup])
  | removeResource => some (.removeResource, .destructive, [.destructiveChange, .requiresBackup])
  | restartContainer => some (.restartContainer, .standard, [.serviceDisruption])
  | restartProvider => some (.restartProvider, .elevated, [.serviceDisruption])
  | restartService => some (.restartService, .standard, [.serviceDisruption])
  | restoreBackup => some (.restoreBackup, .destructive,
      [.destructiveChange, .requiresBackup, .serviceDisruption])
  | updateComposeStack => some (.updateComposeStack, .elevated,
      [.requiresBackup, .serviceDisruption])
  | rc1ValidationSmoke => some (.rc1ValidationSmoke, .standard, [.requiresCurrentEvidence])
  | updateContainerImage => some (.updateContainerImage, .elevated,
      [.requiresBackup, .serviceDisruption])
  | _ => none

end RecommendationClass

/-- What an executable class stands for. -/
structure ExecutionClassification where
  recommendation_class : RecommendationClass
  execution_category : ExecutionCategory
  execution_intent : ExecutionIntent
  required_approval_level : ApprovalLevel
  constraints : List ExecutionConstraint
  deriving DecidableEq

/-- `classify_recommendation_class` of a member of the enumeration. -/
def classifyRecommendationClass (parsed : RecommendationClass) : Option ExecutionClassification :=
  if parsed.isAdvisory then none
  else parsed.executable.map fun mapped => {
    recommendation_class := parsed
    execution_category := mapped.1.category
    execution_intent := mapped.1
    required_approval_level := mapped.2.1
    constraints := mapped.2.2 }

section Lowered

variable (lower : String → String)

/-- `normalize_recommendation_class` -/
def normalizeRecommendationClass (recommendation_class : String) : String :=
  replaceChar '-' '_' (lower (strip recommendation_class))

/-- `parse_recommendation_class`, `none` for its `ValueError`. -/
def parseRecommendationClass (recommendation_class : String) : Option RecommendationClass :=
  RecommendationClass.ofValue (normalizeRecommendationClass lower recommendation_class)

/-! ## Eligibility -/

/-- `SUPPORTED_SOURCE_SUBSYSTEMS` -/
def SUPPORTED_SOURCE_SUBSYSTEMS : List String :=
  ["orion", "discovery", "intelligence", "operator-intent"]

/-- `_AMBIGUOUS_TARGET_IDS` -/
def AMBIGUOUS_TARGET_IDS : List String := ["*", "all", "unknown", "ambiguous"]

/-- `_BYPASS_MARKERS` -/
def BYPASS_MARKERS : List String :=
  ["bypass approval", "skip approval", "execute directly", "without approval", "skip atlas agent",
    "bypass agent"]

inductive ExecutionEligibilityReason where
  | candidateNotEligible
  | nonExecutableRecommendation
  | missingTarget
  | ambiguousTarget
  | missingEvidence
  | unreferencedEvidence
  | missingCatalogIdentity
  | insufficientCompatibility
  | incompatibleCompatibility
  | unresolvedRequiredRelationship
  | unsupportedSourceSubsystem
  | expiredCandidate
  | unsupportedIntentCategory
  | unsafePayload
  | bypassesAgentOrApproval
  | destructiveApprovalRequired
  | serviceDisruptionConstraintRequired
  | operationalTargetRequired
  deriving DecidableEq

def ExecutionEligibilityReason.value : ExecutionEligibilityReason → String
  | candidateNotEligible => "candidate-not-eligible"
  | nonExecutableRecommendation => "non-executable-recommendation"
  | missingTarget => "missing-target"
  | ambiguousTarget => "ambiguous-target"
  | missingEvidence => "missing-evidence"
  | unreferencedEvidence => "unreferenced-evidence"
  | missingCatalogIdentity => "missing-catalog-identity"
  | insufficientCompatibility => "insufficient-compatibility"
  | incompatibleCompatibility => "incompatible-compatibility"
  | unresolvedRequiredRelationship => "unresolved-required-relationship"
  | unsupportedSourceSubsystem => "unsupported-source-subsystem"
  | expiredCandidate => "expired-candidate"
  | unsupportedIntentCategory => "unsupported-intent-category"
  | unsafePayload => "unsafe-payload"
  | bypassesAgentOrApproval => "bypasses-agent-or-approval"
  | destructiveApprovalRequired => "destructive-approval-required"
  | serviceDisruptionConstraintRequired => "service-disruption-constraint-required"
  | operationalTargetRequired => "operational-target-required"

/-- A reason why a candidate cannot be planned. -/
structure ExecutionEligibilityFinding where
  reason : ExecutionEligibilityReason
  message : String
  evidence_ids : List String
  relationship_ids : List String
  deriving DecidableEq

/-- `_sorted_tuple` -/
def sortedTuple (values : List String) : List String :=
  sortedSet ((values.filter fun value => strip value ≠ "").map fun value => lower (strip value))

/-- A finding that refers to no evidence and no relationship. -/
def plainFinding (reason : ExecutionEligibilityReason) (message : String) :
    ExecutionEligibilityFinding :=
  ⟨reason, message, [], []⟩

/-- The findings about the class, the source and the target of a candidate. -/
def subjectFindings (candidate : ExecutionCandidate) : List ExecutionEligibilityFinding :=
  let normalized_target := lower (strip candidate.target_id)
  (if candidate.status = .notEligible then
    [plainFinding .candidateNotEligible "The candidate status is not eligible for planning."]
  else []) ++
  (if (parseRecommendationClass lower candidate.recommendation_class).bind
      classifyRecommendationClass = none then
    [plainFinding .nonExecutableRecommendation
      "The source recommendation class is not executable."]
  else []) ++
  (if candidate.source_subsystem ∉ sortedTuple lower SUPPORTED_SOURCE_SUBSYSTEMS then
    [plainFinding .unsupportedSourceSubsystem
      "The source subsystem is not supported for planning eligibility."]
  else []) ++
  (if normalized_target = "" then [plainFinding .missingTarget "A target is required."]
  else if normalized_target ∈ AMBIGUOUS_TARGET_IDS then
    [plainFinding .ambiguousTarget "The target must identify one deterministic planning target."]
  else []) ++
  (if candidate.execution_category ≠ candidate.execution_intent.category then
    [plainFinding .unsupportedIntentCategory
      "The execution intent is not supported by the execution category."]
  else []) ++
  (if candidate.execution_intent = .restartService ∧ candidate.operational_target = none then
    [plainFinding .operationalTargetRequired
      "Operational planning requires an authoritative provider resource identity."]
  else [])

/-- The findings about the evidence and the compatibility of a candidate. -/
def evidenceFindings (candidate : ExecutionCandidate)
    (available_evidence_ids unresolved_required_relationship_ids : List String) :
    List ExecutionEligibilityFinding :=
  let unresolved_required := sortedTuple lower unresolved_required_relationship_ids
  let missing := candidate.evidence_ids.filter fun evidence_id =>
    evidence_id ∉ sortedTuple lower available_evidence_ids
  let discovery_backed := candidate.source_subsystem = "discovery" ∨
    candidate.compatibility_assessment_id ≠ none ∨ .requiresCompatibility ∈ candidate.constraints
  (if candidate.evidence_ids = [] then
    [plainFinding .missingEvidence
      "At least one evidence reference is required before planning."]
  else if missing ≠ [] then
    [⟨.unreferencedEvidence,
      "Every candidate evidence reference must be present in the source assessment.",
      sortedTuple lower missing, []⟩]
  else []) ++
  (if discovery_backed ∧ candidate.catalog_item_id = none then
    [plainFinding .missingCatalogIdentity
      "Discovery-backed planning candidates require a catalog item identity."]
  else []) ++
  (if candidate.compatibility_status = some "insufficient_information" then
    [plainFinding .insufficientCompatibility
      "Insufficient compatibility information cannot be treated as planning eligibility."]
  else if candidate.compatibility_status = some "incompatible" then
    [plainFinding .incompatibleCompatibility
      "An incompatible compatibility assessment blocks planning eligibility."]
  else []) ++
  (if unresolved_required ≠ [] then
    [⟨.unresolvedRequiredRelationship, "Required relationships must be resolved before planning.",
      [], unresolved_required⟩]
  else [])

/-- The findings about the expiry, the texts and the approval of a candidate. Both times are aware,
as `datetime.now(UTC)` is. -/
def approvalFindings (candidate : ExecutionCandidate) (now : DateTime) :
    List ExecutionEligibilityFinding :=
  (if candidate.expires_at.any fun expires_at => decide (expires_at.instant ≤ now.instant) then
    [plainFinding .expiredCandidate "The candidate has expired and requires fresh evidence."]
  else []) ++
  (if containsUnsafePayload lower candidate.target_id ||
      containsUnsafePayload lower candidate.rationale then
    [plainFinding .unsafePayload "Candidates must not contain commands or secret-like payloads."]
  else []) ++
  (if BYPASS_MARKERS.any fun marker => occursIn marker (lower candidate.rationale) then
    [plainFinding .bypassesAgentOrApproval
      "Candidates must not bypass Atlas Agent planning or approval boundaries."]
  else []) ++
  (if candidate.execution_intent.isDestructive ∧
      candidate.required_approval_level ≠ .destructive then
    [plainFinding .destructiveApprovalRequired "Destructive intents require destructive approval."]
  else []) ++
  (if candidate.execution_intent.isDisruptive ∧ .serviceDisruption ∉ candidate.constraints ∧
      candidate.execution_category ∈ [.restart, .update, .restore, .remove] then
    [plainFinding .serviceDisruptionConstraintRequired
      "Disruptive intents must declare the service-disruption constraint."]
  else [])

/-- Whether a candidate may be planned, and why not. -/
structure ExecutionEligibilityResult where
  candidate_id : String
  status : ExecutionCandidateStatus
  findings : List ExecutionEligibilityFinding
  deriving DecidableEq

/-- `validate_candidate_for_planning` -/
def validateCandidateForPlanning (candidate : ExecutionCandidate)
    (available_evidence_ids unresolved_required_relationship_ids : List String) (now : DateTime) :
    ExecutionEligibilityResult :=
  let findings := subjectFindings lower candidate ++
    evidenceFindings lower candidate available_evidence_ids unresolved_required_relationship_ids ++
    approvalFindings lower candidate now
  { candidate_id := candidate.id
    status := if findings = [] then .eligible else .notEligible
    findings := Rows.orderBy (fun finding => finding.reason.value) findings }

end Lowered

end AtlasOS.Candidates
