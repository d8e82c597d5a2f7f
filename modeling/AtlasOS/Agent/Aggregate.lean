import AtlasOS.Agent.Codec.Reader

/-!
# The aggregate state

The workflow state, the approvals and the candidate planning sessions that one
snapshot holds, the operations of the candidate stores of `snapshot.py` on them,
and the validation that every write and every start makes. The validation goes
through the records in key order, which only decides which of several errors is
reported.
-/

namespace AtlasOS.Agent

variable {py : Python} {Ctx : Type}

/-- The contents of the three stores. -/
structure Aggregate (py : Python) (Ctx : Type) where
  sprint : Option SprintStatus
  verification : Option (VerificationReport Ctx)
  review : Option ReviewReport
  sessions : Dict (Session py Ctx)
  approvals : Dict Approval
  planning : Dict PlanningSession

/-- A mutation of the candidate stores. One that raises leaves no candidate behind. -/
abbrev Mutation (py : Python) (Ctx α : Type) := StateT (Aggregate py Ctx) (Except PyError) α

namespace Aggregate

/-- The stores of a fresh Agent. -/
def empty (py : Python) (Ctx : Type) : Aggregate py Ctx :=
  { sprint := none, verification := none, review := none, sessions := ∅, approvals := ∅,
    planning := ∅ }

/-! ## The candidate stores -/

/-- `CandidateWorkflowState.create_session` -/
def createSession (session : Session py Ctx) : Mutation py Ctx Unit := fun a => do
  require (!isBlank session.identifier)
    (.valueError "Workflow session identifier must not be blank")
  require (a.sessions.get session.identifier).isNone
    (.valueError ("Workflow session identifier already exists: " ++ session.identifier))
  return ((), { a with sessions := a.sessions.set session.identifier session })

/-- `CandidateWorkflowState.delete_session` -/
def deleteSession (identifier : String) : Mutation py Ctx Bool := fun a =>
  .ok ((a.sessions.get identifier).isSome, { a with sessions := a.sessions.pop identifier })

/-- `CandidateWorkflowState.get_session` -/
def getSession (identifier : String) : Mutation py Ctx (Option (Session py Ctx)) := fun a =>
  .ok (a.sessions.get identifier, a)

/-- `CandidateWorkflowState.transition_session`, with the artifacts as an update of the
session's fields. -/
def transitionSession (identifier : String) (expected_state new_state : WorkflowSessionState)
    (artifacts : WorkflowSession Ctx → WorkflowSession Ctx) : Mutation py Ctx Bool := fun a =>
  match a.sessions.get identifier with
  | none => .ok (false, a)
  | some session =>
      if session.state = expected_state then do
        let session ← session.replace fun s => artifacts { s with state := new_state }
        return (true, { a with sessions := a.sessions.set identifier session })
      else .ok (false, a)

/-- `CandidateWorkflowState.publish_sprint` -/
def publishSprint (status : SprintStatus) : Mutation py Ctx Unit := fun a =>
  .ok ((), { a with sprint := some status })

/-- `CandidateWorkflowState.publish_verification` -/
def publishVerification (report : VerificationReport Ctx) : Mutation py Ctx Unit := fun a =>
  .ok ((), { a with verification := some report })

/-- `CandidateWorkflowState.publish_review` -/
def publishReview (report : ReviewReport) : Mutation py Ctx Unit := fun a =>
  .ok ((), { a with review := some report })

/-- `CandidateApprovalRepository.save_request` -/
def saveRequest (request : Request) : Mutation py Ctx String := fun a => do
  require (a.approvals.get request.identifier).isNone
    (.valueError ("Approval request already exists: " ++ request.identifier))
  return (request.identifier,
    { a with approvals := a.approvals.set request.identifier (.pending request) })

/-- `CandidateApprovalRepository.get_request` -/
def getRequest (identifier : String) : Mutation py Ctx (Option Approval) := fun a =>
  .ok (a.approvals.get identifier, a)

/-- `CandidateApprovalRepository.update_decision` with the result that holds the decision. -/
def updateDecision (identifier : String) (result : Approval) : Mutation py Ctx Bool := fun a =>
  match a.approvals.get identifier with
  | none => .ok (false, a)
  | some current =>
      if current.status = .pending ∧ result.request = current.request then
        .ok (true, { a with approvals := a.approvals.set identifier result })
      else .ok (false, a)

/-- `CandidateApprovalRepository.supersede_pending_request` -/
def supersedePendingRequest (identifier : String) (expected_request : ApprovalRequest)
    (replacement_request : Request) : Mutation py Ctx Bool := fun a =>
  if replacement_request.identifier = identifier then
    match a.approvals.get identifier with
    | none => .ok (false, a)
    | some current =>
        if current.status = .pending ∧ current.request = expected_request then
          .ok (true,
            { a with approvals := a.approvals.set identifier (.pending replacement_request) })
        else .ok (false, a)
  else .ok (false, a)

/-- `CandidatePlanningSessionsState.create_session` -/
def createPlanningSession (session : PlanningSession) : Mutation py Ctx Unit := fun a => do
  require (!isBlank session.identifier)
    (.valueError "Candidate planning session identifier must not be blank")
  require (a.planning.get session.identifier).isNone
    (.valueError ("Candidate planning session identifier already exists: " ++
      session.identifier))
  return ((), { a with planning := a.planning.set session.identifier session })

/-- `CandidatePlanningSessionsState.get_session` -/
def getPlanningSession (identifier : String) : Mutation py Ctx (Option PlanningSession) :=
  fun a => .ok (a.planning.get identifier, a)

/-- `CandidatePlanningSessionsState.replace_session` -/
def replacePlanningSession (session : PlanningSession) : Mutation py Ctx Unit := fun a => do
  require (!isBlank session.identifier)
    (.valueError "Candidate planning session identifier must not be blank")
  require (a.planning.get session.identifier).isSome
    (.valueError ("Candidate planning session identifier does not exist: " ++
      session.identifier))
  return ((), { a with planning := a.planning.set session.identifier session })

end Aggregate

/-! ## Validation -/

/-- `dict.get(key)` with a key whose type was not checked. -/
def lookupUnchecked {α : Type} (d : Dict α) : Unchecked → Except PyError (Option α)
  | .str key => .ok (d.get key)
  | .arr _ => .error (.typeError "unhashable type: 'list'")
  | .obj _ => .error (.typeError "unhashable type: 'dict'")
  | _ => .ok none

/-- `_WAITING_PURPOSES` -/
def WAITING_PURPOSES : WorkflowSessionState → Option ApprovalPurpose
  | .awaitingApproval => some .implementation
  | .awaitingImplementationApproval => some .implementation
  | .awaitingVerificationApproval => some .verification
  | .awaitingCommitApproval => some .commit
  | _ => none

/-- `_approval_id_for` -/
def approvalIdFor (workflow_id : String) : ApprovalPurpose → String
  | .candidateWorkflowShell => "approval-" ++ workflow_id
  | .implementation => "approval-" ++ workflow_id
  | .verification => "approval-verification-" ++ workflow_id
  | .operationalAction => "approval-operational-" ++ workflow_id
  | .commit => "approval-commit-" ++ workflow_id

/-- `_validate_digest` -/
def validateDigest (value : String) : Except PyError Unit :=
  require (isHexDigest value) (.statePersistenceError "Malformed SHA-256 digest metadata")

/-- `_validate_commit_approval_matches_session` -/
def validateCommitApprovalMatchesSession (request : ApprovalRequest)
    (session : WorkflowSession Ctx) : Except PyError Unit := do
  let metadata ← expect request.commit_metadata
    (.statePersistenceError "Commit approval metadata is missing")
  require (decide (session.reviewed_content_fingerprint =
      .str metadata.reviewed_content_fingerprint))
    (.statePersistenceError "Commit approval fingerprint mismatch")
  require (decide (session.expected_branch = metadata.expected_branch))
    (.statePersistenceError "Commit approval branch mismatch")
  require (decide (session.expected_head = metadata.expected_head))
    (.statePersistenceError "Commit approval head mismatch")
  require (decide (Path.sorted session.reviewed_files = metadata.reviewed_files))
    (.statePersistenceError "Commit approval reviewed files mismatch")
  let commit_request ← expect session.commit_request
    (.statePersistenceError "Commit approval session request is missing")
  require (decide (commit_request.message = metadata.commit_message))
    (.statePersistenceError "Commit approval message mismatch")

/-- The part of `_validate_approval_request` about commit metadata. -/
def validateCommitMetadata (request : ApprovalRequest) : Except PyError Unit :=
  if request.purpose = .commit then do
    let metadata ← expect request.commit_metadata
      (.statePersistenceError "Commit approval metadata is required")
    validateDigest metadata.reviewed_content_fingerprint
  else
    require request.commit_metadata.isNone
      (.statePersistenceError "Only commit approvals may contain commit metadata")

/-- The part of `_validate_approval_request` about operational metadata. -/
def validateOperationalMetadata (request : ApprovalRequest) : Except PyError Unit :=
  if request.purpose = .operationalAction then
    require request.operational_metadata.isSome
      (.statePersistenceError "Operational approval metadata is required")
  else
    require request.operational_metadata.isNone
      (.statePersistenceError "Only operational approvals may contain operational metadata")

/-- `_validate_approval_request` -/
def validateApprovalRequest (request : ApprovalRequest) : Except PyError Unit := do
  validateCommitMetadata request
  validateOperationalMetadata request
  request.verification_checks.forM fun check =>
    check.environment.forM fun entry => validateDigest entry.value_digest

/-- Whether operational metadata bind exactly one operational request. -/
def OperationalApprovalMetadata.binds (py : Python) (metadata : OperationalApprovalMetadata)
    (action : OperationalActionRequest) : Bool :=
  decide (metadata.action_request_id = action.request_id) &&
    decide (metadata.action_request_digest = action.request_digest) &&
    decide (metadata.candidate_id = action.candidate_id) &&
    decide (metadata.candidate_fingerprint = action.candidate_fingerprint) &&
    decide (metadata.operational_plan_fingerprint = action.candidate_plan_fingerprint) &&
    decide (metadata.provider_id = action.provider_id) &&
    decide (metadata.resource_id = action.resource_id) &&
    decide (metadata.resource_type = action.resource_type) &&
    decide (metadata.target_fingerprint = action.target_fingerprint) &&
    decide (metadata.target_version = action.target_version) &&
    decide (metadata.operation_intent = action.execution_intent) &&
    decide (metadata.disruption_scope = action.disruption_scope) &&
    decide (metadata.verification_digest = operationalVerificationDigest py action.verification) &&
    metadata.generated_at.same action.generated_at && metadata.expires_at.same action.expires_at

/-- `_validate_operational_approval_matches_session` -/
def validateOperationalApprovalMatchesSession (py : Python) (request : ApprovalRequest)
    (session : WorkflowSession Ctx) : Except PyError Unit :=
  match session.operational_action_request, request.operational_metadata with
  | some action, some metadata =>
      require (metadata.binds py action)
        (.statePersistenceError "Operational approval does not bind exact request")
  | _, _ =>
      .error (.statePersistenceError "Operational approval request artifact is missing")

namespace Aggregate

/-- The purpose of the approval that a session waits for. -/
def waitingPurpose (a : Aggregate py Ctx) (session : WorkflowSession Ctx) :
    Option ApprovalPurpose :=
  if session.state = .awaitingApproval ∧ session.source = .candidate ∧
      (a.approvals.get ("approval-" ++ session.identifier)).any
        (fun shell => shell.request.purpose = .candidateWorkflowShell) then
    some .candidateWorkflowShell
  else if session.state = .awaitingImplementationApproval ∧
      session.effect_kind = .operationalAction then
    some .operationalAction
  else WAITING_PURPOSES session.state

end Aggregate

/-- The identifier of the approval that a session waits for. -/
def WorkflowSession.waitingApprovalId (session : WorkflowSession Ctx) (purpose : ApprovalPurpose) :
    Unchecked :=
  if purpose = .operationalAction ∧ session.operational_action_approval_id ≠ .null then
    session.operational_action_approval_id
  else if purpose = .implementation ∧ session.source = .candidate ∧
      session.candidate_implementation_approval_id ≠ .null then
    session.candidate_implementation_approval_id
  else .str (approvalIdFor session.identifier purpose)

namespace Aggregate

/-- The approval that a session waits for. Older candidate workflows keep it under the
identifier of the shell. -/
def waitingApproval (a : Aggregate py Ctx) (session : WorkflowSession Ctx)
    (purpose : ApprovalPurpose) : Except PyError (Option Approval) := do
  let result ← lookupUnchecked a.approvals (session.waitingApprovalId purpose)
  if result.isNone ∧ purpose = .implementation ∧ session.source = .candidate then
    return a.approvals.get ("approval-" ++ session.identifier)
  else return result

/-- The check of a waiting session against the contents of its approval. -/
def validateMatch (py : Python) (purpose : ApprovalPurpose) (request : ApprovalRequest)
    (session : WorkflowSession Ctx) : Except PyError Unit :=
  match purpose with
  | .commit => validateCommitApprovalMatchesSession request session
  | .operationalAction => validateOperationalApprovalMatchesSession py request session
  | _ => .ok ()

/-- The part of `_validate_aggregate` for a session that waits for an approval. -/
def validateWaiting (a : Aggregate py Ctx) (session : WorkflowSession Ctx)
    (purpose : ApprovalPurpose) : Except PyError Unit := do
  let found ← a.waitingApproval session purpose
  let result ← expect found
    (.statePersistenceError "Waiting workflow is missing approval request")
  require (decide (result.request.workflow_id = .str session.identifier) &&
      decide (result.request.purpose = purpose))
    (.statePersistenceError "Waiting workflow approval does not match")
  validateMatch py purpose result.request session

/-- The part of `_validate_aggregate` for one session. -/
def validateSession (a : Aggregate py Ctx) (identifier : String) (session : WorkflowSession Ctx) :
    Except PyError Unit := do
  require (decide (identifier = session.identifier))
    (.statePersistenceError "Workflow session key does not match identifier")
  match a.waitingPurpose session with
  | none => .ok ()
  | some purpose => a.validateWaiting session purpose

/-- The part of `_validate_aggregate` for one approval. The comparison of the request with
itself that the source makes there always succeeds. -/
def validateApproval (a : Aggregate py Ctx) (identifier : String) (result : ApprovalResult) :
    Except PyError Unit := do
  let request := result.decision.request
  require (decide (identifier = request.identifier))
    (.statePersistenceError "Approval key does not match request identifier")
  require (decide (result.decision.request = request))
    (.statePersistenceError "Approval decision request mismatch")
  validateApprovalRequest request
  if request.workflow_id = .null then .ok ()
  else do
    let session ← lookupUnchecked a.sessions request.workflow_id
    require session.isSome
      (.statePersistenceError "Workflow approval references missing workflow")

/-- `_validate_aggregate` -/
def validateAggregate (a : Aggregate py Ctx) : Except PyError Unit := do
  a.sessions.items.forM fun entry => a.validateSession entry.1 entry.2.toWorkflowSession
  a.approvals.items.forM fun entry => a.validateApproval entry.1 entry.2.toApprovalResult

/-- A valid aggregate is one whose every record is valid. -/
theorem validateAggregate_eq_ok {a : Aggregate py Ctx} :
    a.validateAggregate = .ok () ↔
      (∀ id s, a.sessions.get id = some s → a.validateSession id s.toWorkflowSession = .ok ()) ∧
        ∀ id r, a.approvals.get id = some r →
          a.validateApproval id r.toApprovalResult = .ok () := by
  rw [validateAggregate, check_bind_eq_ok, forM_eq_ok, forM_eq_ok]
  simp only [Prod.forall, Dict.mem_items]

end Aggregate

end AtlasOS.Agent
