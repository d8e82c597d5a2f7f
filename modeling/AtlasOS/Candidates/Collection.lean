import AtlasOS.Candidates.Projection

/-!
# Collection of the current candidates

The candidates of the current findings are projected, those that restart a
service are enriched with the resource they are for, and the whole is sorted by
identifier. The provider of a candidate is read from the finding that the table
of findings has under the source identifier of the candidate.
-/

namespace AtlasOS.Candidates

/-- The errors of `resolve_operational_target`. -/
inductive OperationalTargetError where
  | resourceNotFound
  | ambiguous
  | typeMismatch
  | markedMissing
  | identityUnavailable
  | selector
  | providerNotFound
  | resourceOperation
  | resourcesNotSupported
  deriving DecidableEq

/-- `_OPERATIONAL_RESOLUTION_REASONS`: the errors that become a reason of the candidate. -/
def OperationalTargetError.reason :
    OperationalTargetError → Option OperationalTargetResolutionReason
  | resourceNotFound => some .notFound
  | ambiguous => some .ambiguous
  | typeMismatch => some .typeMismatch
  | markedMissing => some .markedMissing
  | identityUnavailable => some .identityUnavailable
  | selector => some .selectorInvalid
  | providerNotFound | resourceOperation | resourcesNotSupported => none

/-- What is read from a resolved target. -/
structure ResolvedOperationalTarget where
  provider_id : String
  resource_id : String
  resource_type : String
  resource_fingerprint : String
  current_state : String
  deriving DecidableEq

/-- What a collection depends on beside the findings. -/
structure Environment where
  /-- `str.lower` -/
  lower : String → String
  /-- `available_evidence_ids`, where `None` stands for none of them. -/
  available_evidence_ids : List String
  /-- `fixture_evidence_ids()` -/
  fixture_evidence_ids : List String
  /-- The time of the projection. -/
  now : DateTime
  /-- `resolve_operational_target`, for a provider, a resource and its type. -/
  resolveOperationalTarget :
    String → String → String → Except OperationalTargetError ResolvedOperationalTarget

/-- How a collection fails. -/
inductive CollectionError where
  /-- An exception of the projection or of a constructor, which is not caught. -/
  | raised (error : PyError)
  /-- `ExecutionCandidateCollectionError` -/
  | collection (message : String)
  deriving DecidableEq

namespace Environment

variable (env : Environment)

/-- `augmented_evidence_ids` -/
def augmentedEvidenceIds : List String :=
  sortedSet (env.available_evidence_ids ++ env.fixture_evidence_ids)

/-- `_OPERATIONAL_RESOLUTION_REASONS` applied to the candidate. -/
def unresolved (candidate : ExecutionCandidate) (reason : OperationalTargetResolutionReason) :
    ExecutionCandidate :=
  { candidate with
    status := .notEligible
    operational_target_resolution_reason := some reason }

/-- The reference to a resolved target. -/
def targetReference (resolved : ResolvedOperationalTarget) :
    Except PyError OperationalTargetReference :=
  OperationalTargetReference.construct env.lower {
    provider_id := resolved.provider_id
    resource_id := resolved.resource_id
    resource_type := resolved.resource_type
    resource_fingerprint := resolved.resource_fingerprint
    resource_version := none
    expected_state := resolved.current_state }

/-- A candidate with the reference of its target, judged again. -/
def enriched (candidate : ExecutionCandidate) (reference : OperationalTargetReference) :
    ExecutionCandidate :=
  let enriched := { candidate with
    status := .eligible
    operational_target := some reference
    operational_target_resolution_reason := none }
  let eligibility :=
    validateCandidateForPlanning env.lower enriched env.augmentedEvidenceIds [] env.now
  { enriched with status := eligibility.status }

/-- `_enrich_operational_candidate` -/
def enrichOperationalCandidate (candidate : ExecutionCandidate) (finding : Finding) :
    Except CollectionError ExecutionCandidate :=
  if candidate.execution_intent ≠ .restartService then .ok candidate
  else match stringDetail finding.details "provider_id" with
    | none => .ok (unresolved candidate .selectorInvalid)
    | some provider_id =>
        match env.resolveOperationalTarget provider_id candidate.target_id
            candidate.target_type with
        | .error error =>
            match error.reason with
            | some reason => .ok (unresolved candidate reason)
            | none => .error (.collection "Unable to determine current operational target state.")
        | .ok resolved => do
            let reference ← (env.targetReference resolved).mapError .raised
            return env.enriched candidate reference

/-- `findings_by_id` -/
def findingsById (findings : List Finding) : Dict Finding :=
  Dict.ofItems (findings.map fun finding => (finding.id, finding))

/-- One round of the loop over the results. -/
def collectResult (findings_by_id : Dict Finding) (source_finding_id : String)
    (candidate : ExecutionCandidate) : Except CollectionError ExecutionCandidate :=
  match findings_by_id.get source_finding_id with
  | some finding => env.enrichOperationalCandidate candidate finding
  | none => .ok candidate

/-- `collect_current_execution_candidates` without a store of operator intents. -/
def collectCurrentExecutionCandidates (findings : List Finding) :
    Except CollectionError (List ExecutionCandidate) := do
  let results ← (projectExecutionCandidates env.lower env.augmentedEvidenceIds env.now
    findings).mapError .raised
  let candidates ← (results.filterMap fun result =>
      result.candidate.map fun candidate => (result.source_finding_id, candidate)).mapM
    fun item => env.collectResult (findingsById findings) item.1 item.2
  return Rows.orderBy ExecutionCandidate.id candidates

end Environment

end AtlasOS.Candidates
