import AtlasOS.Agent.Conditional
import AtlasOS.Agent.Translation

/-!
# Candidate workflows in the planning service

A reviewed plan becomes a workflow shell, and after the shell the exact request
that is executed. Both are stored by one transaction of the coordinator. The
translation first reads the planning session and asks Core about the candidate,
and stores only once Core has answered; what it had read may have changed by then.
-/

namespace AtlasOS.Agent

open Effect

variable {py : Python} {Ctx : Type}

/-- `replace(session, **artifacts)` of a planning session. -/
def PlanningSession.replace (session : PlanningSession)
    (artifacts : CandidatePlanningSession → CandidatePlanningSession) :
    Except PyError PlanningSession :=
  attach (artifacts session.toCandidatePlanningSession).construct fun _ h =>
    ⟨artifacts session.toCandidatePlanningSession, h⟩

/-- The constructor of an approval request, with the checks of its operational metadata. -/
def Request.build (r : ApprovalRequest) : Except PyError Request :=
  match h : r.operational_metadata with
  | none => .ok ⟨r, by simp [ApprovalRequest.Built, h]⟩
  | some m => attach m.postInit fun _ hm => ⟨r, fun m' hm' => by
      rw [h] at hm'
      cases hm'
      exact hm⟩

/-- The service, with the parts of it that the translation uses. -/
structure CandidatePlanningService (Ctx : Type) where
  state_persistence : Coordinator Ctx
  implementation_translator : CandidateImplementationTranslator

/-! ## Workflow shells -/

/-- The metadata that a conversion gives to its workflow. -/
def conversionMetadata (session : CandidatePlanningSession) (plan_id plan_fingerprint : String)
    (revalidated : CandidateSnapshot) (converted_at : DateTime) (effect_kind : WorkflowEffectKind) :
    CandidateWorkflowMetadata where
  candidate_planning_session_id := session.identifier
  candidate_id := session.candidate_id
  candidate_fingerprint := session.candidate_fingerprint
  candidate_plan_id := plan_id
  candidate_plan_fingerprint := plan_fingerprint
  source_recommendation_id := session.snapshot.source_recommendation_id
  source_subsystem := session.snapshot.source_subsystem
  catalog_item_id := session.snapshot.catalog_item_id
  target_id := session.snapshot.target_id
  target_type := session.snapshot.target_type
  execution_category := session.snapshot.execution_category
  execution_intent := session.snapshot.execution_intent
  evidence_ids := session.snapshot.evidence_ids
  compatibility_assessment_id := session.snapshot.compatibility_assessment_id
  compatibility_status := session.snapshot.compatibility_status
  relationship_ids := session.snapshot.relationship_ids
  conversion_timestamp := converted_at
  core_revalidation_status := StrEnum.value revalidated.intake_status
  core_revalidation_fingerprint := revalidated.candidate_fingerprint
  effect_kind := effect_kind

/-- The workflow shell of a conversion. -/
def shellWorkflow (workflow_id : String) (metadata : CandidateWorkflowMetadata) :
    WorkflowSession Ctx where
  identifier := workflow_id
  request := none
  plan := none
  state := .awaitingApproval
  effect_kind := metadata.effect_kind
  source := .candidate
  candidate_metadata := some metadata

/-- The approval of a workflow shell. -/
def shellApproval (workflow_id checkpoint_id title : String) (directory : Option Path)
    (rationale : String) : Request where
  identifier := "approval-" ++ workflow_id
  workflow_id := .str workflow_id
  checkpoint_id := checkpoint_id
  title := title
  requested_tool := "atlas-agent"
  requested_command := []
  requested_working_directory := directory
  rationale := rationale
  purpose := .candidateWorkflowShell
  built := ApprovalRequest.built_of_none rfl

/-- The transaction of both conversions, with the check that each makes of the current
planning session. -/
def persistShell (session_id : String) (check : CandidatePlanningSession → Except PyError Unit)
    (workflow_id plan_fingerprint : String) (metadata : CandidateWorkflowMetadata)
    (approval : Request) (revalidated : CandidateSnapshot) (converted_at : DateTime) :
    Mutation py Ctx PlanningSession := do
  let current ← Aggregate.getPlanningSession session_id
  let current ← StateT.lift (expect current
    (.valueError "Candidate planning session disappeared during conversion"))
  if current.workflow_session_id ≠ .null then return current
  else do
    StateT.lift (check current.toCandidatePlanningSession)
    let workflow ← StateT.lift (Session.build py (shellWorkflow workflow_id metadata))
    Aggregate.createSession workflow
    let _ ← Aggregate.saveRequest approval
    let updated ← StateT.lift <| current.replace fun s =>
      { s with
        workflow_session_id := .str workflow_id
        implementation_approval_request_id := .str approval.identifier
        candidate_plan_fingerprint := .str plan_fingerprint
        workflow_conversion_status := some .workflowCreated
        workflow_conversion_completed_at := some converted_at
        last_revalidation_fingerprint := .str revalidated.candidate_fingerprint
        last_revalidation_status := some revalidated.intake_status }
    Aggregate.replacePlanningSession updated
    return updated

/-- What `_persist_workflow_shell` checks of the current planning session. -/
def checkPlan (py : Python) (text : PlanText) (plan_fingerprint : String)
    (current : CandidatePlanningSession) : Except PyError Unit := do
  require (decide (current.planning_status = .planReady))
    (.valueError "Candidate planning session is no longer plan-ready")
  let plan ← expect current.plan (.valueError "Candidate planning session no longer has a plan")
  require (decide (candidatePlanFingerprint py text plan = plan_fingerprint))
    (.valueError "Candidate plan fingerprint changed during conversion")

/-- What `_persist_operational_workflow_shell` checks of the current planning session. -/
def checkOperationalPlan (py : Python) (plan_fingerprint : String)
    (current : CandidatePlanningSession) : Except PyError Unit := do
  let plan ← expect current.operational_plan
    (.valueError "Operational plan disappeared during conversion")
  require (decide (operationalPlanFingerprint py plan = plan_fingerprint))
    (.valueError "Operational plan fingerprint changed during conversion")

namespace CandidatePlanningService

variable (svc : CandidatePlanningService Ctx)

/-- The mutation of `_persist_workflow_shell`. -/
def persistWorkflowShell (session : CandidatePlanningSession) (plan : CandidatePlan)
    (plan_fingerprint : String) (revalidated : CandidateSnapshot) (converted_at : DateTime) :
    Mutation py Ctx PlanningSession :=
  let workflow_id := buildCandidateWorkflowId py session.identifier session.candidate_fingerprint
    plan_fingerprint
  persistShell session.identifier
    (checkPlan py svc.implementation_translator.text plan_fingerprint) workflow_id plan_fingerprint
    (conversionMetadata session plan.identifier plan_fingerprint revalidated converted_at
      .repositoryChange)
    (shellApproval workflow_id plan.identifier
      ("Approve candidate workflow shell for " ++ plan.title) (some plan.repository_root)
      ("Approve preparation of future implementation work from the reviewed " ++
        "candidate plan. No executable command is approved by this request."))
    revalidated converted_at

end CandidatePlanningService

/-- The mutation of `_persist_operational_workflow_shell`. -/
def persistOperationalWorkflowShell (session : CandidatePlanningSession)
    (plan : OperationalCandidatePlan) (plan_fingerprint : String) (revalidated : CandidateSnapshot)
    (converted_at : DateTime) : Mutation py Ctx PlanningSession :=
  let workflow_id := buildCandidateWorkflowId py session.identifier session.candidate_fingerprint
    plan_fingerprint
  persistShell session.identifier (checkOperationalPlan py plan_fingerprint) workflow_id
    plan_fingerprint
    (conversionMetadata session plan.identifier plan_fingerprint revalidated converted_at
      .operationalAction)
    (shellApproval workflow_id plan.identifier "Approve operational action preparation" none
      ("Approve preparation of an exact immutable operational request. " ++
        "This approval authorizes no execution."))
    revalidated converted_at

/-! ## Translation responses -/

/-- Response for candidate implementation translation. -/
structure CandidateImplementationTranslationResponse where
  candidate_planning_session_id : String
  workflow_session_id : Unchecked
  translation_status : CandidatePlanningSessionStatus
  implementation_request_id : Unchecked
  exact_approval_request_id : Unchecked
  candidate_fingerprint : Unchecked
  plan_fingerprint : Unchecked
  repository_head : Unchecked
  translator_version : String
  reason_codes : List String
  failure : Option CandidatePlanningFailure

/-- `_implementation_failure` -/
def implementationFailure (session_id : String) (status : CandidatePlanningSessionStatus)
    (code : CandidatePlanningFailureCode) (message : String)
    (workflow_id candidate_fingerprint plan_fingerprint repository_head : Unchecked) :
    CandidateImplementationTranslationResponse where
  candidate_planning_session_id := session_id
  workflow_session_id := workflow_id
  translation_status := status
  implementation_request_id := .null
  exact_approval_request_id := .null
  candidate_fingerprint := candidate_fingerprint
  plan_fingerprint := plan_fingerprint
  repository_head := repository_head
  translator_version := TRANSLATOR_VERSION
  reason_codes := [StrEnum.value code]
  failure := some ⟨code, message⟩

/-- `_implementation_response_from_session` -/
def implementationResponseFromSession (session : CandidatePlanningSession)
    (repository_head : Unchecked) : CandidateImplementationTranslationResponse where
  candidate_planning_session_id := session.identifier
  workflow_session_id := session.workflow_session_id
  translation_status := session.implementation_translation_status.getD .implementationReady
  implementation_request_id := session.implementation_request_id
  exact_approval_request_id := session.exact_implementation_approval_request_id
  candidate_fingerprint := .str session.candidate_fingerprint
  plan_fingerprint := session.candidate_plan_fingerprint
  repository_head := repository_head
  translator_version := TRANSLATOR_VERSION
  reason_codes := []
  failure := none

/-- `_conversion_code_for_intake` -/
def conversionCodeForIntake : CoreCandidatePlanningIntakeStatus → CandidatePlanningFailureCode
  | .stale => .candidateStale
  | .expired => .candidateExpired
  | .notEligible => .candidateNotEligible
  | .evidenceUnavailable => .evidenceUnavailable
  | .notFound => .sessionNotFound
  | _ => .workflowTranslationUnsupported

/-! ## The translation of an operational plan -/

/-- The approval of an operational request. -/
def operationalApproval (py : Python) (workflow_id : String) (action : OperationalActionRequest) :
    ApprovalRequest where
  identifier := "approval-operational-" ++ workflow_id
  workflow_id := .str workflow_id
  checkpoint_id := action.request_id
  title := "Approve exact operational action request"
  requested_tool := "atlas-agent-operational-contract"
  requested_command := []
  requested_working_directory := none
  rationale := "Approve this exact immutable operational request; " ++
    "execution remains capability-gated."
  purpose := .operationalAction
  operational_metadata := some
    { action_request_id := action.request_id
      action_request_digest := action.request_digest
      candidate_id := action.candidate_id
      candidate_fingerprint := action.candidate_fingerprint
      operational_plan_fingerprint := action.candidate_plan_fingerprint
      provider_id := action.provider_id
      resource_id := action.resource_id
      resource_type := action.resource_type
      target_fingerprint := action.target_fingerprint
      target_version := action.target_version
      operation_intent := action.execution_intent
      disruption_scope := action.disruption_scope
      verification_digest := operationalVerificationDigest py action.verification
      generated_at := action.generated_at
      expires_at := action.expires_at }

/-- What a translation stores on its planning session. -/
def translated (request_id approval_id : String) (completed_at : DateTime)
    (s : CandidatePlanningSession) : CandidatePlanningSession :=
  { s with
    implementation_request_id := .str request_id
    exact_implementation_approval_request_id := .str approval_id
    implementation_translation_status := some .implementationReady
    implementation_translation_completed_at := some completed_at }

/-- The end of the mutation of `_persist_operational_translation`, which stores the request of
the workflow that it found. -/
def storeOperational (current : PlanningSession) (plan : OperationalCandidatePlan)
    (workflow : Session py Ctx) (generated_at expires_at : DateTime) :
    Mutation py Ctx CandidateImplementationTranslationResponse := do
  let action ← StateT.lift
    (translateOperationalActionRequest py plan workflow.identifier generated_at expires_at)
  let approval ← StateT.lift (Request.build (operationalApproval py workflow.identifier action))
  let _ ← Aggregate.saveRequest approval
  let updated_workflow ← StateT.lift <| workflow.replace fun s =>
    { s with
      state := .awaitingImplementationApproval
      operational_action_request := some action
      operational_action_approval_id := .str approval.identifier }
  modify fun a => { a with sessions := a.sessions.set workflow.identifier updated_workflow }
  let updated ← StateT.lift
    (current.replace (translated action.request_id approval.identifier generated_at))
  Aggregate.replacePlanningSession updated
  return implementationResponseFromSession updated.toCandidatePlanningSession .null

/-- `value or ""` as a key. -/
def keyOrEmpty (value : Unchecked) : Unchecked := if value.truthy then value else .str ""

/-- Whether an approval was found and is approved. -/
def isApproved (found : Option Approval) : Bool :=
  found.any fun shell => decide (shell.status = .approved)

/-- The mutation of `_persist_operational_translation`. -/
def persistOperationalTranslation (session_id plan_fingerprint : String)
    (generated_at expires_at : DateTime) :
    Mutation py Ctx CandidateImplementationTranslationResponse := fun a => do
  let current ← expect (a.planning.get session_id)
    (.valueError "Operational planning session disappeared")
  let plan ← expect current.operational_plan
    (.valueError "Operational planning session disappeared")
  let found ← lookupUnchecked a.sessions (keyOrEmpty current.workflow_session_id)
  let workflow ← expect found (.valueError "Operational workflow disappeared")
  require (decide (workflow.effect_kind = .operationalAction))
    (.valueError "Operational workflow disappeared")
  require (isApproved (a.approvals.get ("approval-" ++ workflow.identifier)))
    (.valueError "Operational preparation approval is required")
  if workflow.operational_action_request.isSome then
    return (implementationResponseFromSession current.toCandidatePlanningSession .null, a)
  else do
    require (decide (operationalPlanFingerprint py plan = plan_fingerprint))
      (.valueError "Operational plan changed during translation")
    storeOperational current plan workflow generated_at expires_at a

/-! ## The translation of a repository plan -/

/-- The approval of an implementation request. -/
def exactApproval (workflow_id : String) (request : CandidateImplementationRequest) : Request where
  identifier := "approval-implementation-" ++ workflow_id
  workflow_id := .str workflow_id
  checkpoint_id := request.identifier
  title := "Approve exact candidate implementation request"
  requested_tool := request.argv.headD ""
  requested_command := request.argv
  requested_working_directory := some request.working_directory
  rationale := "Approve the exact immutable candidate implementation request. " ++
    "candidate_fingerprint=" ++ request.candidate_fingerprint ++
    " plan_fingerprint=" ++ request.candidate_plan_fingerprint ++
    " repository_head=" ++ request.repository_head ++
    " translator=" ++ request.translator_version ++ "."
  purpose := .implementation
  built := ApprovalRequest.built_of_none rfl

/-- The end of the mutation of `_persist_implementation_translation`, once its approval is
stored. -/
def storeImplementation (current : PlanningSession) (workflow_id : String)
    (workflow : Session py Ctx) (request : CandidateImplementationRequest) :
    Mutation py Ctx CandidateImplementationTranslationResponse := do
  let approval_id := (exactApproval workflow_id request).identifier
  let updated_workflow ← StateT.lift <| workflow.replace fun s =>
    { s with
      state := .awaitingImplementationApproval
      candidate_implementation_request := some request
      candidate_implementation_approval_id := .str approval_id }
  modify fun a => { a with sessions := a.sessions.set workflow_id updated_workflow }
  let updated_session ← StateT.lift
    (current.replace (translated request.identifier approval_id request.generated_at))
  Aggregate.replacePlanningSession updated_session
  return implementationResponseFromSession updated_session.toCandidatePlanningSession
    (.str request.repository_head)

/-- The part of the mutation of `_persist_implementation_translation` that stores the approval of
the request, unless its identifier is taken by a decided one. -/
def storeExact (current : PlanningSession) (workflow_id : String) (workflow : Session py Ctx)
    (request : CandidateImplementationRequest) (repository_head : Unchecked) :
    Mutation py Ctx CandidateImplementationTranslationResponse := do
  let exact_approval := exactApproval workflow_id request
  let failed (message : String) := implementationFailure current.identifier
    .implementationTranslationFailed .approvalCreationFailed message (.str workflow_id)
    (.str current.candidate_fingerprint) current.candidate_plan_fingerprint repository_head
  match ← Aggregate.getRequest exact_approval.identifier with
  | none => do
      let _ ← Aggregate.saveRequest exact_approval
      storeImplementation current workflow_id workflow request
  | some existing =>
      if existing.request = exact_approval.toApprovalRequest then
        storeImplementation current workflow_id workflow request
      else if existing.status = .pending then do
        let replaced ← Aggregate.supersedePendingRequest exact_approval.identifier
          existing.request exact_approval
        (if replaced then storeImplementation current workflow_id workflow request
        else return failed ("Exact implementation approval could not replace an existing " ++
          "pending approval request."))
      else return failed "Implementation approval request id is already in use."

namespace CandidatePlanningService

variable (svc : CandidatePlanningService Ctx)

/-- The part of the mutation of `_persist_implementation_translation` about the workflow that it
found. -/
def translateFound (current : PlanningSession) (workflow_id : String) (workflow : Session py Ctx)
    (repository : RepositorySnapshot) (now : DateTime) :
    Mutation py Ctx CandidateImplementationTranslationResponse :=
  let failed (status : CandidatePlanningSessionStatus) (code : CandidatePlanningFailureCode)
      (message : String) := implementationFailure current.identifier status code message
    (.str workflow_id) (.str current.candidate_fingerprint)
  if workflow.source ≠ .candidate then
    return failed .implementationNotSupported .workflowNotCandidate
      "Workflow is not candidate-derived." .null .null
  else match workflow.candidate_implementation_request with
  | some request =>
      return implementationResponseFromSession current.toCandidatePlanningSession
        (.str request.repository_head)
  | none =>
      if workflow.state ≠ .awaitingApproval then
        return failed .implementationTranslationFailed .workflowStateInvalid
          "Candidate workflow is not awaiting implementation translation." .null .null
      else match svc.implementation_translator.translate py current.toCandidatePlanningSession
          workflow.toWorkflowSession repository now with
      | .error failure =>
          return failed
            (if failure.code = .implementationNotSupported then .implementationNotSupported
            else .implementationTranslationFailed)
            failure.code failure.message current.candidate_plan_fingerprint
            (uncheckedText repository.head_commit)
      | .ok request =>
          storeExact current workflow_id workflow request (uncheckedText repository.head_commit)

/-- The mutation of `_persist_implementation_translation`. Only a key that is a string finds a
workflow. -/
def persistImplementationTranslation (session_id : String) (repository : RepositorySnapshot)
    (now : DateTime) : Mutation py Ctx CandidateImplementationTranslationResponse := fun a =>
  match a.planning.get session_id with
  | none => .ok (implementationFailure session_id .implementationTranslationFailed .sessionNotFound
      "Candidate planning session disappeared during translation." .null .null .null .null, a)
  | some current =>
      let notFound := implementationFailure current.identifier .implementationTranslationFailed
        .workflowNotFound "Candidate workflow shell was not found." current.workflow_session_id
        (.str current.candidate_fingerprint) .null .null
      if current.workflow_session_id = .null then .ok (notFound, a)
      else do
        let found ← lookupUnchecked a.sessions current.workflow_session_id
        match found, current.workflow_session_id with
        | some workflow, .str workflow_id =>
            svc.translateFound current workflow_id workflow repository now a
        | _, _ => return (notFound, a)

end CandidatePlanningService

end AtlasOS.Agent
