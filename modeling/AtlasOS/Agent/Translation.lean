import AtlasOS.Agent.Records
import AtlasOS.Lib.Text

/-!
# Plans and requests of candidate workflows

The fingerprints of the two kinds of plan, the safety check of a repository plan,
and the translations of a plan into the exact request that a human approves.
-/

namespace AtlasOS.Agent

open Worker

variable {py : Python} {Ctx : Type}

/-- The operations on text that plans are fingerprinted and checked with. -/
structure PlanText where
  /-- `json.dumps(value, sort_keys=True, separators=(",", ":"))`, which escapes what is not
  ASCII. -/
  dumpsAscii : Json → String
  /-- `str.lower` -/
  lower : String → String
  /-- `\w` -/
  isWord : Char → Bool

/-- `sorted(values)` on strings. -/
def sortedTexts (values : List String) : List String := values.insertionSort (· ≤ ·)

/-- A JSON array of strings. -/
def textArray (values : List String) : Json := .arr (values.map .str)

/-! ## Fingerprints -/

/-- `_normalize_text` -/
def normalizeText (value : String) : String :=
  join " " (((value.toList.splitOnP isSpace).filter (· ≠ [])).map String.ofList)

/-- `PLAN_FINGERPRINT_VERSION` -/
def PLAN_FINGERPRINT_VERSION : String := "candidate-plan-fingerprint-v1"

/-- `OPERATIONAL_PLAN_FINGERPRINT_VERSION` -/
def OPERATIONAL_PLAN_FINGERPRINT_VERSION : String := "operational-plan-fingerprint-v1"

/-- The part of a plan's fingerprint for its mutation. -/
def ComposeMutationSpecification.fingerprintPayload (m : ComposeMutationSpecification) : Json :=
  .obj
    [("desired_value", .str m.desired_value),
      ("expected_value", m.expected_value),
      ("file", .str m.file.text),
      ("operation", .str m.operation),
      ("preservation_constraints", textArray (sortedTexts m.preservation_constraints)),
      ("property", .str m.property),
      ("service", .str m.service)]

/-- `candidate_plan_fingerprint` -/
def candidatePlanFingerprint (py : Python) (text : PlanText) (plan : CandidatePlan) : String :=
  PLAN_FINGERPRINT_VERSION ++ ":" ++ py.sha256 (text.dumpsAscii (.obj
    [("candidate_fingerprint", .str plan.candidate_fingerprint),
      ("candidate_id", .str plan.candidate_id),
      ("constraints", textArray (sortedTexts plan.constraints)),
      ("evidence_ids", textArray (sortedTexts plan.evidence_ids)),
      ("identifier", .str plan.identifier),
      ("likely_affected_components", textArray (sortedTexts plan.likely_affected_components)),
      ("likely_affected_files",
        textArray (sortedTexts (plan.likely_affected_files.map Path.text))),
      ("mutation", (plan.mutation.map (·.fingerprintPayload)).getD .null),
      ("objective", .str (normalizeText plan.objective)),
      ("planning_assumptions", textArray (sortedTexts (plan.assumptions.map normalizeText))),
      ("proposed_descriptive_steps", textArray (plan.proposed_steps.map normalizeText)),
      ("repository_branch", plan.repository_branch),
      ("repository_head", plan.repository_head),
      ("revalidated_candidate_fingerprint", .str plan.revalidated_candidate_fingerprint),
      ("rollback_considerations", textArray (plan.rollback_considerations.map normalizeText)),
      ("session_id", .str plan.session_id),
      ("title", .str (normalizeText plan.title)),
      ("unresolved_questions", textArray (plan.unresolved_questions.map normalizeText)),
      ("verification_strategy", textArray (plan.verification_strategy.map normalizeText)),
      ("version", .str PLAN_FINGERPRINT_VERSION)]))

/-- `operational_plan_fingerprint` -/
def operationalPlanFingerprint (py : Python) (plan : OperationalCandidatePlan) : String :=
  versionedDigest py OPERATIONAL_PLAN_FINGERPRINT_VERSION
    [("candidate_fingerprint", .str plan.candidate_fingerprint),
      ("candidate_id", .str plan.candidate_id),
      ("created_at", .str (py.isoformat plan.created_at)),
      ("disruption_scope", .str plan.disruption_scope),
      ("effect_kind", .str (StrEnum.value plan.effect_kind)),
      ("evidence_ids", textArray (sortedTexts plan.evidence_ids)),
      ("execution_intent", .str plan.execution_intent),
      ("expected_pre_state", .str plan.expected_pre_state),
      ("failure_considerations", textArray (sortedTexts plan.failure_considerations)),
      ("identifier", .str plan.identifier),
      ("intended_action", .str plan.intended_action),
      ("provider_id", .str plan.provider_id),
      ("resource_id", .str plan.resource_id),
      ("resource_type", .str plan.resource_type),
      ("revalidated_candidate_fingerprint", .str plan.revalidated_candidate_fingerprint),
      ("session_id", .str plan.session_id),
      ("target_fingerprint", .str plan.target_fingerprint),
      ("target_version", plan.target_version),
      ("verification", .obj
        [("expected_post_state", .str plan.verification.expected_post_state),
          ("health_requirement", .str plan.verification.health_requirement),
          ("identity_fingerprint", .str plan.verification.identity_fingerprint),
          ("pre_state", .str plan.verification.pre_state),
          ("unknown_outcome_policy", .str plan.verification.unknown_outcome_policy)]),
      ("version", .str OPERATIONAL_PLAN_FINGERPRINT_VERSION)]

/-- `build_candidate_workflow_id` -/
def buildCandidateWorkflowId (py : Python) (candidate_planning_session_id candidate_fingerprint
    plan_fingerprint : String) : String :=
  "candidate-workflow-" ++ py.sha256
    (candidate_planning_session_id ++ "\x00" ++ candidate_fingerprint ++ "\x00" ++ plan_fingerprint)

/-! ## The safety of a plan -/

/-- Whether `\bword\b` is found, after a character that is or is not of a word. -/
def findsWord (isWord : Char → Bool) (word : List Char) : Bool → List Char → Bool
  | _, [] => false
  | inside, c :: cs =>
      (!inside && word.isPrefixOf (c :: cs) &&
        !((c :: cs).drop word.length).head?.any isWord) ||
      findsWord isWord word (isWord c) cs

/-- The words of the first of the `_UNSAFE_PLAN_PATTERNS`. -/
def UNSAFE_PLAN_WORDS : List String :=
  ["sudo", "bash", "sh", "python", "node", "npm", "docker", "docker-compose", "kubectl"]

/-- Whether one of the `_UNSAFE_PLAN_PATTERNS` is found. -/
def matchesUnsafePattern (text : PlanText) (value : String) : Bool :=
  (UNSAFE_PLAN_WORDS.any fun word => findsWord text.isWord word.toList false value.toList) ||
    (["&&", "||", ";", "`", "$("].any fun part => occursIn part value) ||
    findsWord text.isWord "exec".toList false value.toList

/-- `value or ""`, as text. -/
def textOrEmpty (py : Python) : Unchecked → String
  | .null => ""
  | value => py.str value

/-- The texts that `validate_candidate_plan_safe` looks at. -/
def CandidatePlan.checkedTexts (py : Python) (plan : CandidatePlan) : List String :=
  [plan.title, plan.objective] ++ plan.assumptions ++ plan.constraints ++ plan.proposed_steps ++
    plan.likely_affected_components ++ plan.verification_strategy ++
    plan.rollback_considerations ++ plan.unresolved_questions ++
    plan.likely_affected_files.map Path.text ++
    match plan.mutation with
    | none => []
    | some m =>
        ([m.file.text, m.service, m.property, m.operation, textOrEmpty py m.expected_value,
          m.desired_value] ++ m.preservation_constraints).filter (· ≠ "")

/-- `validate_candidate_plan_safe` -/
def validateCandidatePlanSafe (py : Python) (text : PlanText) (plan : CandidatePlan) :
    Except PyError Unit :=
  (plan.checkedTexts py).forM fun value =>
    require (!matchesUnsafePattern text (text.lower (normalizeText value)))
      (.valueError "Candidate plan contains executable command-like content.")

/-! ## Implementation requests -/

/-- `RepositorySnapshot`, without the state of the working tree. -/
structure RepositorySnapshot where
  root : Path
  branch : Option String
  head_commit : Option String
  deriving DecidableEq

/-- `str | None` as the value of a field that its reader does not check. -/
def uncheckedText : Option String → Unchecked
  | none => .null
  | some value => .str value

/-- `CandidateImplementationDecision`: a request, or why there is none. -/
abbrev CandidateImplementationDecision :=
  Except CandidatePlanningFailure CandidateImplementationRequest

/-- `CandidateImplementationTranslator`, with what it asks the execution policy. -/
structure CandidateImplementationTranslator where
  text : PlanText
  /-- Whether `tool_policy.validate` answers a command. -/
  tool_policy_allows : CandidateImplementationRequest → Bool

/-- `TRANSLATOR_VERSION` -/
def TRANSLATOR_VERSION : String := "candidate-update-compose-stack-v2"

/-- `_SUPPORTED_INTENT` -/
def SUPPORTED_INTENT : String := "update-compose-stack"

/-- `RC1_VALIDATION_SMOKE_INTENT` -/
def RC1_VALIDATION_SMOKE_INTENT : String := "rc1-validation-smoke"

/-- `_ALLOWED_TARGETS` -/
def ALLOWED_TARGETS : List String := ["atlas-compose", "atlas-repository"]

/-- `implementation_request_id` -/
def implementationRequestId (py : Python) (workflow_id candidate_id candidate_fingerprint
    plan_fingerprint repository_head translator_version : String) : String :=
  "candidate-implementation-v1-" ++ py.sha256
    (workflow_id ++ "\x00" ++ candidate_id ++ "\x00" ++ candidate_fingerprint ++ "\x00" ++
      plan_fingerprint ++ "\x00" ++ repository_head ++ "\x00" ++ translator_version)

/-- The affected files that a request may have. -/
def allowedAffectedFiles (smoke : Bool) : List Path :=
  [.ofString (if smoke then RC1_SMOKE_TARGET else "compose.production.yaml")]

/-- Whether a path stays below the repository root. -/
def Path.isRelativeInside (path : Path) : Bool :=
  (path.text.toList.head?.all (· ≠ '/')) && !(pathParts path.text.toList).contains ['.', '.']

/-- `_validate_affected_files` -/
def validateAffectedFiles (paths : List Path) (smoke : Bool) : Except PyError (List Path) := do
  require (!paths.isEmpty) (.valueError "Candidate implementation requires affected files.")
  paths.forM fun path => require (Path.isRelativeInside path)
    (.valueError "Candidate affected files must be repository-relative.")
  let result := Path.sorted paths.dedup
  require (result.all (· ∈ allowedAffectedFiles smoke) &&
      (allowedAffectedFiles smoke).all (· ∈ result))
    (.valueError "Candidate affected files are not allowlisted.")
  return result

/-- `value or '<unspecified>'` in a formatted string. -/
def textOrUnspecified (py : Python) (value : Unchecked) : String :=
  if textOrEmpty py value = "" then "<unspecified>" else textOrEmpty py value

/-- The prompt of `_argv_for_candidate`. -/
def promptForCandidate (py : Python) (text : PlanText) (session : CandidatePlanningSession)
    (plan : CandidatePlan) (mutation : ComposeMutationSpecification) (affected_files : List Path) :
    String :=
  join "\n"
    ["Atlas Agent candidate implementation request.",
      "Implement only the approved update-compose-stack candidate.",
      "Candidate ID: " ++ session.candidate_id,
      "Candidate fingerprint: " ++ session.candidate_fingerprint,
      "Candidate plan ID: " ++ plan.identifier,
      "Candidate plan fingerprint: " ++ candidatePlanFingerprint py text plan,
      "Target: " ++ session.snapshot.target_type ++ ":" ++ session.snapshot.target_id,
      "Affected repository files: " ++ join ", " (affected_files.map Path.text),
      "File: " ++ mutation.file.text,
      "Service: " ++ mutation.service,
      "Operation: " ++ mutation.operation,
      "Property: " ++ mutation.property,
      "Expected value: " ++ textOrUnspecified py mutation.expected_value,
      "Desired value: " ++ mutation.desired_value,
      "Preservation constraints: " ++ join ", " mutation.preservation_constraints,
      "Preserve unrelated services and configuration.",
      "Do not modify runtime data, secrets, logs, or jcode directories.",
      "Stop after preparing the repository change for later verification and review."]

/-- `_argv_for_candidate` -/
def argvForCandidate (py : Python) (text : PlanText) (session : CandidatePlanningSession)
    (plan : CandidatePlan) (mutation : ComposeMutationSpecification) (affected_files : List Path) :
    List String :=
  if session.snapshot.execution_intent = RC1_VALIDATION_SMOKE_INTENT then RC1_SMOKE_ARGV
  else CODEX_WORKSPACE_EXEC_ARGV_PREFIX ++
    [promptForCandidate py text session plan mutation affected_files]

namespace CandidateImplementationTranslator

/-- The request that `translate` builds once its checks have passed. -/
def request (py : Python) (t : CandidateImplementationTranslator)
    (session : CandidatePlanningSession) (plan : CandidatePlan)
    (mutation : ComposeMutationSpecification) (workflow : WorkflowSession Ctx)
    (repository : RepositorySnapshot) (head : String) (affected_files : List Path)
    (generated_at : DateTime) : CandidateImplementationRequest where
  identifier := implementationRequestId py workflow.identifier session.candidate_id
    session.candidate_fingerprint (candidatePlanFingerprint py t.text plan) head TRANSLATOR_VERSION
  workflow_session_id := workflow.identifier
  candidate_planning_session_id := session.identifier
  candidate_id := session.candidate_id
  candidate_fingerprint := session.candidate_fingerprint
  candidate_plan_id := plan.identifier
  candidate_plan_fingerprint := candidatePlanFingerprint py t.text plan
  execution_intent := session.snapshot.execution_intent
  repository_root := repository.root
  repository_branch := uncheckedText repository.branch
  repository_head := head
  argv := argvForCandidate py t.text session plan mutation affected_files
  working_directory := repository.root
  affected_files := affected_files
  evidence_ids := session.snapshot.evidence_ids
  compatibility_assessment_id := session.snapshot.compatibility_assessment_id
  compatibility_status := session.snapshot.compatibility_status
  translator_version := TRANSLATOR_VERSION
  generated_at := generated_at

/-- The checks of the plan that `translate` makes inside its `try`. -/
def checkedFiles (py : Python) (t : CandidateImplementationTranslator) (plan : CandidatePlan)
    (smoke : Bool) : Except PyError (List Path) := do
  validateCandidatePlanSafe py t.text plan
  validateAffectedFiles plan.likely_affected_files smoke

/-- `CandidateImplementationTranslator.translate` -/
def translate (py : Python) (t : CandidateImplementationTranslator)
    (session : CandidatePlanningSession) (workflow : WorkflowSession Ctx)
    (repository : RepositorySnapshot) (generated_at : DateTime) : CandidateImplementationDecision :=
  match session.plan with
  | none => .error ⟨.planNotReady,
      "Candidate plan is not available for implementation translation."⟩
  | some plan =>
  match plan.mutation with
  | none => .error ⟨.missingMutationSpecification,
      "Candidate plan lacks an actionable compose mutation specification."⟩
  | some mutation =>
  if workflow.candidate_metadata.isNone then
    .error ⟨.workflowNotCandidate, "Workflow is missing candidate audit metadata."⟩
  else if session.snapshot.execution_intent ∉ [SUPPORTED_INTENT, RC1_VALIDATION_SMOKE_INTENT] then
    .error ⟨.implementationNotSupported,
      "Atlas Agent cannot translate this candidate intent yet."⟩
  else if session.snapshot.target_type ≠ "repository" ∨
      session.snapshot.target_id ∉ ALLOWED_TARGETS then
    .error ⟨.implementationNotSupported,
      "Candidate target is not supported for implementation translation."⟩
  else
  match repository.head_commit with
  | none => .error ⟨.repositoryStale, "Trusted repository HEAD is unavailable."⟩
  | some head =>
  if .str head ≠ plan.repository_head then
    .error ⟨.repositoryStale,
      "Trusted repository HEAD differs from the reviewed candidate plan."⟩
  else if uncheckedText repository.branch ≠ plan.repository_branch then
    .error ⟨.repositoryStale,
      "Trusted repository branch differs from the reviewed candidate plan."⟩
  else
  let smoke := decide (session.snapshot.execution_intent = RC1_VALIDATION_SMOKE_INTENT)
  match t.checkedFiles py plan smoke with
  | .error _ => .error ⟨.unsafeTranslation,
      "Candidate plan is not safe for implementation translation."⟩
  | .ok affected_files =>
  let request := t.request py session plan mutation workflow repository head affected_files
    generated_at
  if !smoke && !t.tool_policy_allows request then
    .error ⟨.unsafeTranslation,
      "Translated implementation request was rejected by execution policy."⟩
  else .ok request

end CandidateImplementationTranslator

/-! ## Operational requests -/

/-- `OPERATIONAL_TRANSLATOR_VERSION` -/
def OPERATIONAL_TRANSLATOR_VERSION : String := "operational-action-translator-v1"

/-- `text.rsplit(":", 1)[-1]` -/
def afterLastColon (text : String) : String :=
  String.ofList (text.toList.rtakeWhile (· ≠ ':'))

/-- `translate_operational_action_request`, up to the constructor's own checks. -/
def translateOperationalActionRequest (py : Python) (plan : OperationalCandidatePlan)
    (workflow_session_id : String) (generated_at expires_at : DateTime) :
    Except PyError OperationalActionRequest := do
  require (decide (plan.effect_kind = .operationalAction))
    (.valueError "operational translation requires operational_action effect kind")
  require (!isBlank plan.target_fingerprint)
    (.valueError "operational translation requires authoritative target fingerprint")
  let provider_action_id ←
    resolveProviderActionId plan.execution_intent plan.provider_id plan.resource_type
  let plan_fingerprint := operationalPlanFingerprint py plan
  OperationalActionRequest.postInit py
    { request_id := "operational-action-" ++ afterLastColon plan_fingerprint
      request_digest := ""
      idempotency_key := ""
      workflow_session_id
      candidate_planning_session_id := plan.session_id
      candidate_id := plan.candidate_id
      candidate_fingerprint := plan.candidate_fingerprint
      candidate_plan_id := plan.identifier
      candidate_plan_fingerprint := plan_fingerprint
      effect_kind := .operationalAction
      execution_intent := plan.execution_intent
      provider_id := plan.provider_id
      resource_id := plan.resource_id
      resource_type := plan.resource_type
      provider_action_id
      target_fingerprint := plan.target_fingerprint
      target_version := plan.target_version
      disruption_scope := plan.disruption_scope
      evidence_ids := plan.evidence_ids
      expected_pre_state := plan.expected_pre_state
      verification := plan.verification
      expires_at
      translator_version := OPERATIONAL_TRANSLATOR_VERSION
      generated_at }

end AtlasOS.Agent
