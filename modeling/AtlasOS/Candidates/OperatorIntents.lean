import AtlasOS.Candidates.Collection

/-!
# Candidates of operator intents

An operator can ask for the restart of one machine. The stored record of the intent
becomes a candidate, which is eligible while the record has not expired and its
target is the one that was recorded. These candidates follow those of the findings
in a collection, and a candidate is looked up by its identifier.
-/

namespace AtlasOS.Candidates

/-- `OPERATOR_INTENT_SOURCE` -/
def OPERATOR_INTENT_SOURCE : String := "operator-intent"

/-- `OPERATOR_INTENT_RECOMMENDATION` -/
def OPERATOR_INTENT_RECOMMENDATION : String := "restart-service"

/-- `OperatorOperationalIntentRecord`, without the operator and the fixed fields. -/
structure OperatorOperationalIntentRecord where
  record_id : String
  request_digest : String
  provider_id : String
  resource_id : String
  resource_type : String
  target_fingerprint : String
  target_version : Option String
  expected_state : String
  created_at : DateTime
  expires_at : DateTime
  deriving DecidableEq

/-- The target of an intent as `validate_restart_target` reads it. -/
structure IntentTarget where
  provider_id : String
  resource_type : String
  resource_fingerprint : String
  current_state : String
  /-- Whether the resource has an authoritative identity. -/
  has_identity : Bool
  metadata : Dict Json

/-- `metadata.get("lock") not in {None, ""}`, which hashes the value. -/
def isUnlocked : Json → Except PyError Bool
  | .arr _ => .error (.typeError "unhashable type: 'list'")
  | .obj _ => .error (.typeError "unhashable type: 'dict'")
  | lock => .ok (lock = .null || lock = .str "")

/-- `validate_restart_target` -/
def validateRestartTarget (target : IntentTarget) : Except PyError Unit := do
  let metadata key := (target.metadata.get key).getD .null
  require (target.provider_id = "proxmox" && target.resource_type = "qemu") (.valueError
    "operator intent target does not match the supported provider resource tuple")
  require target.has_identity
    (.valueError "operator intent target lacks authoritative identity")
  require (target.current_state = "running") (.valueError "operator intent target is not running")
  require (!(metadata "template").truthy) (.valueError "operator intent target is a template")
  require (← isUnlocked (metadata "lock"))
    (.valueError "operator intent target is locked or migrating")
  require (!(metadata "migrating").truthy) (.valueError "operator intent target is migrating")
  require (metadata "qmp" = .null || metadata "qmp" = .str "running")
    (.valueError "operator intent target QMP state is unavailable")

/-- `text.rsplit(":", 1)[1]` -/
def afterColon (text : String) : Except PyError String :=
  match (text.toList.splitOn ':').reverse with
  | last :: _ :: _ => .ok (String.ofList last)
  | _ => .error .indexError

/-- `OperatorIntentProjection.reason` -/
inductive IntentReason where
  | eligible | expired | targetStale | targetUnavailable
  deriving DecidableEq

section Lowered

variable (lower : String → String)

/-- What identifies the candidate of a record. -/
def recordIdentity (record : OperatorOperationalIntentRecord) : Identity where
  source_subsystem := OPERATOR_INTENT_SOURCE
  source_recommendation_id := record.record_id
  catalog_item_id := none
  target_id := record.resource_id
  execution_category := .restart
  execution_intent := .restartService

/-- `candidate_from_record` -/
def candidateFromRecord (record : OperatorOperationalIntentRecord)
    (status : ExecutionCandidateStatus) : Except PyError ExecutionCandidate := do
  let digest ← afterColon record.request_digest
  let id ← buildExecutionCandidateId lower (recordIdentity record)
  let operational_target ← OperationalTargetReference.construct lower {
    provider_id := record.provider_id
    resource_id := record.resource_id
    resource_type := record.resource_type
    resource_fingerprint := record.target_fingerprint
    resource_version := record.target_version
    expected_state := record.expected_state }
  ExecutionCandidate.construct lower {
    id
    source_recommendation_id := record.record_id
    source_subsystem := OPERATOR_INTENT_SOURCE
    recommendation_class := OPERATOR_INTENT_RECOMMENDATION
    catalog_item_id := none
    target_id := record.resource_id
    target_type := record.resource_type
    execution_category := .restart
    execution_intent := .restartService
    effect_kind := .operationalAction
    status
    required_approval_level := .standard
    rationale := "An authenticated operator requested bounded maintenance for this exact resource."
    constraints := [.serviceDisruption]
    evidence_ids := ["operator-intent-evidence-" ++ digest]
    compatibility_assessment_id := none
    compatibility_status := none
    relationship_ids := []
    created_at := record.created_at
    expires_at := some record.expires_at
    mutation := none
    operational_target := some operational_target
    operational_target_resolution_reason := none }

variable (resolver : String → String → String → Except OperationalTargetError IntentTarget)

/-- The target that is resolved and validated; the handled errors make it unavailable. -/
def availableTarget (record : OperatorOperationalIntentRecord) :
    Except PyError (Option IntentTarget) :=
  match resolver record.provider_id record.resource_id record.resource_type with
  | .error _ => .ok none
  | .ok target =>
      match validateRestartTarget target with
      | .ok () => .ok (some target)
      | .error (.valueError _) => .ok none
      | .error error => .error error

/-- `project_operator_intent_with_reason` -/
def projectOperatorIntentWithReason (record : OperatorOperationalIntentRecord) (now : DateTime) :
    Except PyError (ExecutionCandidate × IntentReason) := do
  let candidate ← candidateFromRecord lower record .notEligible
  if ← record.expires_at.le now then return (candidate, .expired)
  match ← availableTarget resolver record with
  | none => return (candidate, .targetUnavailable)
  | some target =>
      if target.resource_fingerprint ≠ record.target_fingerprint then
        return (candidate, .targetStale)
      else
        let candidate := { candidate with status := .eligible }
        let eligibility :=
          validateCandidateForPlanning lower candidate candidate.evidence_ids [] now
        return ({ candidate with status := eligibility.status },
          if eligibility.status = .eligible then .eligible else .targetUnavailable)

end Lowered

namespace Environment

variable (env : Environment)
  (resolver : String → String → String → Except OperationalTargetError IntentTarget)

/-- The candidates of the findings in the order of their results. -/
def findingCandidates (findings : List Finding) : Except CollectionError (List ExecutionCandidate) := do
  let results ← (projectExecutionCandidates env.lower env.augmentedEvidenceIds env.now
    findings).mapError .raised
  (results.filterMap fun result =>
      result.candidate.map fun candidate => (result.source_finding_id, candidate)).mapM
    fun item => env.collectResult (findingsById findings) item.1 item.2

/-- `collect_current_execution_candidates` with the records of a store of operator intents. -/
def collectWithIntents (findings : List Finding) (records : List OperatorOperationalIntentRecord) :
    Except CollectionError (List ExecutionCandidate) := do
  let candidates ← env.findingCandidates findings
  let intents ← (records.mapM fun record =>
    projectOperatorIntentWithReason env.lower resolver record env.now).mapError .raised
  return Rows.orderBy ExecutionCandidate.id (candidates ++ intents.map Prod.fst)

/-- Without records, the collection is that of the findings. -/
theorem collectWithIntents_nil (findings : List Finding) :
    env.collectWithIntents resolver findings [] = env.collectCurrentExecutionCandidates findings := by
  unfold collectWithIntents collectCurrentExecutionCandidates findingCandidates
  cases (projectExecutionCandidates env.lower env.augmentedEvidenceIds env.now findings).mapError
      CollectionError.raised with
  | error e => rfl
  | ok results =>
    simp only [ok_bind, List.mapM_nil, pure_eq_ok, Except.mapError, List.map_nil, List.append_nil]

/-- The outcome of the search in `get_current_execution_candidate`; `none` stands for
`ExecutionCandidateNotFoundError`. -/
def findCandidate (candidates : List ExecutionCandidate) (candidate_id : String) :
    Option ExecutionCandidate :=
  candidates.find? fun candidate => candidate.id = candidate_id

/-- `get_current_execution_candidate` -/
def getCurrentExecutionCandidate (findings : List Finding)
    (records : List OperatorOperationalIntentRecord) (candidate_id : String) :
    Except CollectionError (Option ExecutionCandidate) := do
  let candidates ← env.collectWithIntents resolver findings records
  return findCandidate candidates candidate_id

end Environment

end AtlasOS.Candidates
