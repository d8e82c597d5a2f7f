import AtlasOS.Lib.Rows
import AtlasOS.Lib.Text

/-!
# Execution candidates

An execution candidate is what a finding proposes to do. Its identifier is
computed from its identity, and its constructor normalizes texts and refuses
what is not well formed. `str.lower` is a parameter, since lower-casing is a
table of the language. Of the errors that a constructor collects, the first one
stands for the exception.
-/

namespace AtlasOS.Candidates

/-! ## Controlled values -/

inductive ExecutionCandidateStatus where
  | eligible
  | notEligible
  deriving DecidableEq

inductive ExecutionCandidateEffectKind where
  | repositoryChange
  | operationalAction
  deriving DecidableEq

inductive ExecutionCategory where
  | install
  | configure
  | update
  | restart
  | backup
  | restore
  | remove
  | unsupported
  deriving DecidableEq

namespace ExecutionCategory

def value : ExecutionCategory → String
  | install => "install"
  | configure => "configure"
  | update => "update"
  | restart => "restart"
  | backup => "backup"
  | restore => "restore"
  | remove => "remove"
  | unsupported => "unsupported"

end ExecutionCategory

inductive ExecutionIntent where
  | installContainer
  | installProvider
  | configureService
  | enableIntegration
  | disableIntegration
  | updateComposeStack
  | rc1ValidationSmoke
  | updateContainerImage
  | restartService
  | restartContainer
  | restartProvider
  | createBackup
  | restoreBackup
  | removeResource
  | removeIntegration
  | unsupportedRecommendation
  deriving DecidableEq

namespace ExecutionIntent

def value : ExecutionIntent → String
  | installContainer => "install-container"
  | installProvider => "install-provider"
  | configureService => "configure-service"
  | enableIntegration => "enable-integration"
  | disableIntegration => "disable-integration"
  | updateComposeStack => "update-compose-stack"
  | rc1ValidationSmoke => "rc1-validation-smoke"
  | updateContainerImage => "update-container-image"
  | restartService => "restart-service"
  | restartContainer => "restart-container"
  | restartProvider => "restart-provider"
  | createBackup => "create-backup"
  | restoreBackup => "restore-backup"
  | removeResource => "remove-resource"
  | removeIntegration => "remove-integration"
  | unsupportedRecommendation => "unsupported-recommendation"

/-- `INTENT_CATEGORY_MAP`, which `category_for_intent` reads. -/
def category : ExecutionIntent → ExecutionCategory
  | installContainer | installProvider => .install
  | configureService | enableIntegration | disableIntegration => .configure
  | updateComposeStack | rc1ValidationSmoke | updateContainerImage => .update
  | restartService | restartContainer | restartProvider => .restart
  | createBackup => .backup
  | restoreBackup => .restore
  | removeResource | removeIntegration => .remove
  | unsupportedRecommendation => .unsupported

/-- Membership in `DESTRUCTIVE_INTENTS`. -/
def isDestructive : ExecutionIntent → Bool
  | disableIntegration | restoreBackup | removeResource | removeIntegration => true
  | _ => false

/-- Membership in `DISRUPTIVE_INTENTS`. -/
def isDisruptive : ExecutionIntent → Bool
  | updateComposeStack | updateContainerImage | restartService | restartContainer
  | restartProvider | restoreBackup | removeResource | removeIntegration => true
  | _ => false

end ExecutionIntent

inductive ApprovalLevel where
  | standard
  | elevated
  | destructive
  deriving DecidableEq

inductive ExecutionConstraint where
  | requiresBackup
  | requiresProvider
  | requiresConnectivity
  | requiresCompatibility
  | requiresResolvedRelationships
  | requiresCurrentEvidence
  | manualStepRequired
  | destructiveChange
  | serviceDisruption
  deriving DecidableEq

def ExecutionConstraint.value : ExecutionConstraint → String
  | requiresBackup => "requires-backup"
  | requiresProvider => "requires-provider"
  | requiresConnectivity => "requires-connectivity"
  | requiresCompatibility => "requires-compatibility"
  | requiresResolvedRelationships => "requires-resolved-relationships"
  | requiresCurrentEvidence => "requires-current-evidence"
  | manualStepRequired => "manual-step-required"
  | destructiveChange => "destructive-change"
  | serviceDisruption => "service-disruption"

/-- Why an operational selector could not be resolved. -/
inductive OperationalTargetResolutionReason where
  | notFound
  | ambiguous
  | typeMismatch
  | markedMissing
  | identityUnavailable
  | selectorInvalid
  deriving DecidableEq

/-! ## Checks -/

/-- `_UNSAFE_TEXT_MARKERS` -/
def UNSAFE_TEXT_MARKERS : List String :=
  ["&&", "||", "`", "$(", ";", "rm -rf", "bash ", " sh ", "sudo ", "curl ", "wget ", "password=",
    "token=", "secret=", "api_key", "private_key"]

/-- `_COMPATIBILITY_STATUSES` -/
def COMPATIBILITY_STATUSES : List String :=
  ["compatible", "compatible_with_warnings", "insufficient_information", "incompatible"]

/-- The error of a field that its pattern refuses. -/
def patternError (field : String) : PyError := .valueError (field ++ ": string_pattern_mismatch")

/-- The error of a field that is empty. -/
def lengthError (field : String) : PyError := .valueError (field ++ ": string_too_short")

/-- `Field(pattern=EXECUTION_CANDIDATE_ID_PATTERN)` -/
def checkPattern (field value : String) : Except PyError Unit :=
  require (isSlug value) (patternError field)

/-- `checkPattern` for a field that may be `None`. -/
def checkOptionalPattern (field : String) (value : Option String) : Except PyError Unit :=
  require (value.all isSlug) (patternError field)

/-- `Field(min_length=1)` -/
def checkLength (field value : String) : Except PyError Unit :=
  require (decide (value ≠ "")) (lengthError field)

/-- `tuple(sorted(set(values)))` -/
def sortedSet (values : List String) : List String := values.dedup.insertionSort (· ≤ ·)

section Lowered

variable (lower : String → String)

/-- `contains_unsafe_payload` -/
def containsUnsafePayload (value : String) : Bool :=
  UNSAFE_TEXT_MARKERS.any fun marker => occursIn marker (lower value)

/-- One round of `_normalize_unique_string_tuple`. -/
def normalizeUniqueString (candidate : String) : Except PyError String := do
  let item := lower (strip candidate)
  require (decide (item ≠ "")) (.valueError "values must not be empty.")
  require (!containsUnsafePayload lower item)
    (.valueError "values must not contain command or secret-like payloads.")
  return item

/-- `_normalize_unique_string_tuple` -/
def normalizeUniqueStringTuple (values : List String) : Except PyError (List String) := do
  let normalized ← values.mapM (normalizeUniqueString lower)
  return sortedSet normalized

/-- `_normalize_unique_constraints` -/
def normalizeUniqueConstraints (constraints : List ExecutionConstraint) :
    List ExecutionConstraint :=
  Rows.orderBy ExecutionConstraint.value constraints.dedup

/-- `ExecutionCandidate.validate_safe_text` -/
def validateSafeText (value : String) : Except PyError String := do
  let normalized := strip value
  require (decide (normalized ≠ "")) (.valueError "value must not be empty.")
  require (!containsUnsafePayload lower normalized)
    (.valueError "value must not contain command or secret-like payloads.")
  return normalized

/-- `ExecutionCandidate.validate_compatibility_status` -/
def validateCompatibilityStatus : Option String → Except PyError (Option String)
  | none => return none
  | some value => do
      let normalized := lower (strip value)
      require (decide (normalized ∈ COMPATIBILITY_STATUSES))
        (.valueError "compatibility_status is unsupported.")
      return some normalized

/-! ## Candidate identifiers -/

/-- `normalize_candidate_id_part` -/
def normalizeCandidateIdPart : Option String → Except PyError String
  | none => return "none"
  | some value => do
      let words := hyphenate (fun c => !isSlugChar c) (lower (strip value)).toList
      let normalized := String.ofList (stripBy (· == '-') (hyphenate (· == '-') words))
      require (decide (normalized ≠ ""))
        (.valueError "candidate identity parts must not be empty.")
      return normalized

/-- What an identifier is computed from. -/
structure Identity where
  source_subsystem : String
  source_recommendation_id : String
  catalog_item_id : Option String
  target_id : String
  execution_category : ExecutionCategory
  execution_intent : ExecutionIntent
  deriving DecidableEq

/-- The texts that `build_execution_candidate_id` normalizes, in order. -/
def Identity.parts (identity : Identity) : List (Option String) :=
  [some identity.source_subsystem, some identity.source_recommendation_id,
    identity.catalog_item_id, some identity.target_id, some identity.execution_category.value,
    some identity.execution_intent.value]

/-- `build_execution_candidate_id` -/
def buildExecutionCandidateId (identity : Identity) : Except PyError String := do
  let parts ← identity.parts.mapM (normalizeCandidateIdPart lower)
  return join "-" ("candidate" :: parts)

end Lowered

/-! ## Models -/

/-- What an update of a compose stack changes. -/
structure ComposeMutationSpecification where
  file : String
  service : String
  property : String
  operation : String
  desired_value : String
  expected_value : Option String
  preservation_constraints : List String
  deriving DecidableEq

/-- The constructor of a mutation. -/
def ComposeMutationSpecification.construct (m : ComposeMutationSpecification) :
    Except PyError ComposeMutationSpecification := do
  checkLength "file" m.file
  checkLength "service" m.service
  checkLength "property" m.property
  checkLength "operation" m.operation
  checkLength "desired_value" m.desired_value
  return m

/-- The resource of a provider that an operational action is for. -/
structure OperationalTargetReference where
  provider_id : String
  resource_id : String
  resource_type : String
  resource_fingerprint : String
  resource_version : Option String
  expected_state : String
  deriving DecidableEq

namespace OperationalTargetReference

/-- `validate_safe_operational_value` -/
def validateSafeOperationalValue (lower : String → String) (value : String) :
    Except PyError String := do
  let normalized := strip value
  require (decide (normalized ≠ "")) (.valueError "operational target values must not be empty.")
  require (!containsUnsafePayload lower normalized) (.valueError
    "operational target values must not contain command or secret-like payloads.")
  return normalized

/-- The constructor of a reference. -/
def construct (lower : String → String) (r : OperationalTargetReference) :
    Except PyError OperationalTargetReference := do
  checkPattern "provider_id" r.provider_id
  checkPattern "resource_id" r.resource_id
  checkPattern "resource_type" r.resource_type
  checkLength "resource_fingerprint" r.resource_fingerprint
  let resource_fingerprint ← validateSafeOperationalValue lower r.resource_fingerprint
  let resource_version ← match r.resource_version with
    | none => pure none
    | some version => some <$> validateSafeOperationalValue lower version
  checkLength "expected_state" r.expected_state
  let expected_state ← validateSafeOperationalValue lower r.expected_state
  return { r with resource_fingerprint, resource_version, expected_state }

end OperationalTargetReference

/-- A recommendation that may be eligible for planning. -/
structure ExecutionCandidate where
  id : String
  source_recommendation_id : String
  source_subsystem : String
  recommendation_class : String
  catalog_item_id : Option String
  target_id : String
  target_type : String
  execution_category : ExecutionCategory
  execution_intent : ExecutionIntent
  effect_kind : ExecutionCandidateEffectKind
  status : ExecutionCandidateStatus
  required_approval_level : ApprovalLevel
  rationale : String
  constraints : List ExecutionConstraint
  evidence_ids : List String
  compatibility_assessment_id : Option String
  compatibility_status : Option String
  relationship_ids : List String
  created_at : DateTime
  expires_at : Option DateTime
  mutation : Option ComposeMutationSpecification
  operational_target : Option OperationalTargetReference
  operational_target_resolution_reason : Option OperationalTargetResolutionReason
  deriving DecidableEq

namespace ExecutionCandidate

variable (lower : String → String)

/-- What the identifier of the candidate is computed from. -/
def identity (c : ExecutionCandidate) : Identity where
  source_subsystem := c.source_subsystem
  source_recommendation_id := c.source_recommendation_id
  catalog_item_id := c.catalog_item_id
  target_id := c.target_id
  execution_category := c.execution_category
  execution_intent := c.execution_intent

/-- `validate_candidate` -/
def validateCandidate (c : ExecutionCandidate) : Except PyError Unit := do
  require (decide (c.execution_category = c.execution_intent.category))
    (.valueError "execution_intent must map to execution_category.")
  let expected_id ← buildExecutionCandidateId lower c.identity
  require (decide (c.id = expected_id))
    (.valueError "id must match deterministic execution candidate identity.")
  match c.expires_at with
  | none => pure ()
  | some expires_at =>
      let late ← expires_at.le c.created_at
      require (!late) (.valueError "expires_at must be after created_at.")
  (if c.execution_intent = .restartService then
    require (decide (c.effect_kind = .operationalAction))
      (.valueError "restart-service candidates require operational_action effect kind.")
  else
    require (decide (c.effect_kind ≠ .operationalAction))
      (.valueError "operational_action effect kind is not supported for this intent."))
  require (c.operational_target.isNone || c.operational_target_resolution_reason.isNone)
    (.valueError "resolved operational targets cannot carry a resolution failure.")

/-- The constructor of a candidate. -/
def construct (c : ExecutionCandidate) : Except PyError ExecutionCandidate := do
  checkPattern "id" c.id
  checkPattern "source_recommendation_id" c.source_recommendation_id
  checkPattern "source_subsystem" c.source_subsystem
  checkPattern "recommendation_class" c.recommendation_class
  checkOptionalPattern "catalog_item_id" c.catalog_item_id
  let target_id ← validateSafeText lower c.target_id
  checkPattern "target_type" c.target_type
  let rationale ← validateSafeText lower c.rationale
  let constraints := normalizeUniqueConstraints c.constraints
  let evidence_ids ← normalizeUniqueStringTuple lower c.evidence_ids
  checkOptionalPattern "compatibility_assessment_id" c.compatibility_assessment_id
  let compatibility_status ← validateCompatibilityStatus lower c.compatibility_status
  let relationship_ids ← normalizeUniqueStringTuple lower c.relationship_ids
  let candidate := { c with
    target_id, rationale, constraints, evidence_ids, compatibility_status, relationship_ids }
  candidate.validateCandidate lower
  return candidate

end ExecutionCandidate

end AtlasOS.Candidates
