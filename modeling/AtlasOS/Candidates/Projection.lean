import AtlasOS.Candidates.Classification

/-!
# Projection of findings into candidates

A finding of an executable class is converted inside a guard, which turns a
refusal of the constructor into a rejected result. The candidate of an advisory
class is built without one.
-/

namespace AtlasOS.Candidates

/-- The fields of a finding that the projection reads. -/
structure Finding where
  id : String
  source : String
  message : String
  details : Dict Json

/-- `TRUSTED_SOURCE_SUBSYSTEMS` -/
def TRUSTED_SOURCE_SUBSYSTEMS : List String := ["discovery", "intelligence", "orion"]

inductive ProjectionStatus where
  | projected
  | notExecutable
  | insufficientData
  | unsupported
  | rejected
  deriving DecidableEq

inductive ProjectionReasonCode where
  | projected
  | advisoryRecommendationClass
  | candidateNotEligible
  | invalidRecommendationClass
  | missingEvidence
  | missingRecommendationClass
  | missingSourceIdentity
  | missingTarget
  | untrustedSourceSubsystem
  | unsafePayload
  | validationFailed
  deriving DecidableEq

/-- What became of a finding. -/
structure ProjectionResult where
  status : ProjectionStatus
  source_finding_id : String
  candidate : Option ExecutionCandidate
  reason_code : ProjectionReasonCode
  message : String
  deriving DecidableEq

/-! ## Details -/

/-- `_string_detail` -/
def stringDetail (details : Dict Json) (key : String) : Option String :=
  match details.get key with
  | some (.str value) => if strip value = "" then none else some (strip value)
  | _ => none

/-- The texts among the items of a detail; a single text stands for itself. -/
def textItems : Option Json → List String
  | some (.str value) => [value]
  | some (.arr items) => items.filterMap fun item =>
      match item with
      | .str text => some text
      | _ => none
  | some (.obj fields) => Fields.keys fields
  | _ => []

section Lowered

variable (lower : String → String)

/-- `_tuple_detail` -/
def tupleDetail (details : Dict Json) (key : String) : List String :=
  sortedTuple lower (textItems (details.get key))

/-- `_tuple_detail(details, key) or _tuple_detail(details, other)` -/
def tupleDetailOr (details : Dict Json) (key other : String) : List String :=
  if tupleDetail lower details key = [] then tupleDetail lower details other
  else tupleDetail lower details key

/-- `_compose_mutation` -/
def composeMutation (details : Dict Json) :
    Except PyError (Option ComposeMutationSpecification) :=
  match stringDetail details "compose_file", stringDetail details "compose_service",
    stringDetail details "compose_property", stringDetail details "compose_operation",
    stringDetail details "compose_desired_value" with
  | some file, some service, some property, some operation, some desired_value =>
      some <$> ComposeMutationSpecification.construct {
        file, service, property, operation, desired_value
        expected_value := stringDetail details "compose_expected_value"
        preservation_constraints := tupleDetail lower details "compose_preservation_constraints" }
  | _, _, _, _, _ => return none

/-- `_contains_unsafe_projection_payload` -/
def containsUnsafeProjectionPayload (finding : Finding) : Bool :=
  let text_values := [finding.id, finding.message, finding.source] ++
    finding.details.items.filterMap fun item =>
      match item.2 with
      | .str text => some text
      | _ => none
  text_values.any (containsUnsafePayload lower)

/-! ## Building candidates -/

/-- What the checks before the construction have read from a finding. -/
structure Subject where
  source_finding_id : String
  source_subsystem : String
  recommendation_class : RecommendationClass
  target_id : String
  target_type : String
  evidence_ids : List String
  deriving DecidableEq

/-- The identity of the candidate of a finding. -/
def candidateIdentity (finding : Finding) (subject : Subject) (category : ExecutionCategory)
    (intent : ExecutionIntent) : Identity where
  source_subsystem := subject.source_subsystem
  source_recommendation_id := subject.source_finding_id
  catalog_item_id := stringDetail finding.details "catalog_item_id"
  target_id := subject.target_id
  execution_category := category
  execution_intent := intent

/-- `_unsupported_candidate` -/
def unsupportedCandidate (finding : Finding) (subject : Subject) (now : DateTime) :
    Except PyError ExecutionCandidate := do
  let details := finding.details
  let raw_target_type := replaceChar '_' '-' subject.target_type
  let id ← buildExecutionCandidateId lower
    (candidateIdentity finding subject .unsupported .unsupportedRecommendation)
  ExecutionCandidate.construct lower {
    id
    source_recommendation_id := subject.source_finding_id
    source_subsystem := subject.source_subsystem
    recommendation_class := subject.recommendation_class.hyphenated
    catalog_item_id := stringDetail details "catalog_item_id"
    target_id := subject.target_id
    target_type := raw_target_type
    execution_category := .unsupported
    execution_intent := .unsupportedRecommendation
    effect_kind := .repositoryChange
    status := .notEligible
    required_approval_level := .standard
    rationale := finding.message
    constraints := []
    evidence_ids := subject.evidence_ids
    compatibility_assessment_id := stringDetail details "compatibility_assessment_id"
    compatibility_status := stringDetail details "compatibility_status"
    relationship_ids := tupleDetailOr lower details "relationship_ids" "compatibility_finding_ids"
    created_at := now
    expires_at := none
    mutation := none
    operational_target := none
    operational_target_resolution_reason := none }

/-- The candidate of `_build_candidate_result`, inside its guard. -/
def classifiedCandidate (finding : Finding) (subject : Subject)
    (classification : ExecutionClassification) (now : DateTime) :
    Except PyError ExecutionCandidate := do
  let details := finding.details
  let id ← buildExecutionCandidateId lower (candidateIdentity finding subject
    classification.execution_category classification.execution_intent)
  let mutation ← composeMutation lower details
  ExecutionCandidate.construct lower {
    id
    source_recommendation_id := subject.source_finding_id
    source_subsystem := subject.source_subsystem
    recommendation_class := subject.recommendation_class.hyphenated
    catalog_item_id := stringDetail details "catalog_item_id"
    target_id := subject.target_id
    target_type := subject.target_type
    execution_category := classification.execution_category
    execution_intent := classification.execution_intent
    effect_kind :=
      if classification.execution_intent = .restartService then .operationalAction
      else .repositoryChange
    status := .eligible
    required_approval_level := classification.required_approval_level
    rationale := finding.message
    constraints := classification.constraints
    evidence_ids := subject.evidence_ids
    compatibility_assessment_id := stringDetail details "compatibility_assessment_id"
    compatibility_status := stringDetail details "compatibility_status"
    relationship_ids := tupleDetailOr lower details "relationship_ids" "compatibility_finding_ids"
    created_at := now
    expires_at := none
    mutation
    operational_target := none
    operational_target_resolution_reason := none }

/-- The result for a class that is not executable. -/
def advisoryResult (source_finding_id : String) (candidate : Option ExecutionCandidate) :
    ProjectionResult where
  status := .notExecutable
  source_finding_id
  candidate
  reason_code := .advisoryRecommendationClass
  message := "Finding recommendation class is advisory and not executable."

/-- A result without a candidate. -/
def plainResult (status : ProjectionStatus) (source_finding_id : String)
    (reason_code : ProjectionReasonCode) (message : String) : ProjectionResult where
  status
  source_finding_id
  candidate := none
  reason_code
  message

variable (available_evidence_ids : List String) (now : DateTime)

/-- What `_build_candidate_result` makes of a candidate that was built. -/
def judgeCandidate (subject : Subject) (candidate : ExecutionCandidate) : ProjectionResult :=
  let eligibility := validateCandidateForPlanning lower candidate available_evidence_ids [] now
  let candidate := { candidate with status := eligibility.status }
  if eligibility.status = .eligible then
    { status := .projected
      source_finding_id := subject.source_finding_id
      candidate := some candidate
      reason_code := .projected
      message := "Finding projected to an eligible execution candidate." }
  else
    { status := .insufficientData
      source_finding_id := subject.source_finding_id
      candidate := some candidate
      reason_code := .candidateNotEligible
      message := "Finding projected to a candidate that is not eligible for planning." }

/-- `_build_candidate_result`: a `ValueError` of the construction is caught. -/
def buildCandidateResult (finding : Finding) (subject : Subject) :
    Except PyError ProjectionResult :=
  match classifyRecommendationClass subject.recommendation_class with
  | none => .ok (advisoryResult subject.source_finding_id none)
  | some classification =>
      match classifiedCandidate lower finding subject classification now with
      | .ok candidate => .ok (judgeCandidate lower available_evidence_ids now subject candidate)
      | .error (.valueError _) => .ok (plainResult .rejected subject.source_finding_id
          .validationFailed "Finding could not be safely converted into an execution candidate.")
      | .error error => .error error

/-- `_not_eligible_candidate_result` for a finding without evidence. -/
def notEligibleCandidateResult (finding : Finding) (subject : Subject) :
    Except PyError ProjectionResult := do
  let result ← buildCandidateResult lower available_evidence_ids now finding subject
  match result.candidate with
  | none => return result
  | some candidate => return {
      status := .insufficientData
      source_finding_id := subject.source_finding_id
      candidate := some candidate
      reason_code := .missingEvidence
      message := "Executable findings require at least one evidence reference." }

/-! ## The projection -/

/-- The checks that come before a candidate is built: the subject of the finding, or the result
that ends its projection. -/
def projectionSubject (finding : Finding) : Except ProjectionResult Subject :=
  let source_finding_id := strip finding.id
  let details := finding.details
  let source_subsystem := (stringDetail details "source_subsystem").getD finding.source
  if source_finding_id = "" then
    .error (plainResult .rejected "missing" .missingSourceIdentity
      "Finding identity is required for execution candidate projection.")
  else if source_subsystem ∉ TRUSTED_SOURCE_SUBSYSTEMS then
    .error (plainResult .rejected source_finding_id .untrustedSourceSubsystem
      "Finding source subsystem is not trusted for execution candidate projection.")
  else match stringDetail details "recommendation_class" with
    | none => .error (plainResult .unsupported source_finding_id .missingRecommendationClass
        "Finding does not declare a structured recommendation class.")
    | some raw_recommendation_class =>
        match parseRecommendationClass lower raw_recommendation_class with
        | none => .error (plainResult .unsupported source_finding_id .invalidRecommendationClass
            "Finding declares an unsupported recommendation class.")
        | some recommendation_class =>
            match stringDetail details "target_id", stringDetail details "target_type" with
            | some target_id, some target_type => .ok {
                source_finding_id, source_subsystem, recommendation_class, target_id, target_type
                evidence_ids :=
                  tupleDetailOr lower details "evidence_ids" "compatibility_evidence_ids" }
            | _, _ => .error (plainResult .insufficientData source_finding_id .missingTarget
                "Executable findings require target_id and target_type details.")

/-- `execution_candidate_from_finding` -/
def executionCandidateFromFinding (finding : Finding) : Except PyError ProjectionResult :=
  match projectionSubject lower finding with
  | .error result => .ok result
  | .ok subject =>
      if subject.recommendation_class.isAdvisory then do
        let candidate ← unsupportedCandidate lower finding subject now
        return advisoryResult subject.source_finding_id (some candidate)
      else if classifyRecommendationClass subject.recommendation_class = none then
        .ok (advisoryResult subject.source_finding_id none)
      else if subject.evidence_ids = [] then
        notEligibleCandidateResult lower available_evidence_ids now finding subject
      else if containsUnsafeProjectionPayload lower finding then
        .ok (plainResult .rejected subject.source_finding_id .unsafePayload
          "Finding contains command-like or secret-like payloads.")
      else buildCandidateResult lower available_evidence_ids now finding subject

/-- The loop of `project_execution_candidates`, with the identifiers of the candidates it has
kept. -/
def projectFrom (projected_candidate_ids : List String) :
    List Finding → Except PyError (List ProjectionResult)
  | [] => return []
  | finding :: findings => do
      let result ← executionCandidateFromFinding lower available_evidence_ids now finding
      match result.candidate with
      | none => return result :: (← projectFrom projected_candidate_ids findings)
      | some candidate =>
          if candidate.id ∈ projected_candidate_ids then
            projectFrom projected_candidate_ids findings
          else return result :: (← projectFrom (candidate.id :: projected_candidate_ids) findings)

/-- `project_execution_candidates` -/
def projectExecutionCandidates (findings : List Finding) : Except PyError (List ProjectionResult) :=
  projectFrom lower available_evidence_ids now [] findings

end Lowered

end AtlasOS.Candidates
