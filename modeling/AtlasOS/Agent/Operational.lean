import AtlasOS.Agent.Persistence
import AtlasOS.Core.Dispatch.Ledger

/-!
# Operational execution

`OperationalExecutionOrchestrator.resume` submits an approved operational request
to Core or reads how Core's dispatch of it stands, and stores what it learned as
the reference of the workflow session. The call stops at its request to Core:
what it had read before is then held by the call, and other calls can run. The
statuses and ledger states of Core's answers are the literals of the client's
models, which are those of Core.
-/

namespace AtlasOS.Agent

open Effect
open Core (OperationalDispatchStatus OperationalLedgerState OperationalVerificationStatus)

variable {py : Python} {Ctx : Type}

/-! ## What Core answers -/

/-- `CoreOperationalDispatchResult`, as far as it is used. -/
structure CoreOperationalDispatchResult where
  status : OperationalDispatchStatus
  request_id : String
  request_digest : String
  provider_operation_id : Option String
  sanitized_message : Option String
  deriving DecidableEq

/-- `CoreOperationalLifecycleStatus`, as far as it is used; `verification_result` is its status. -/
structure CoreOperationalLifecycleStatus where
  request_digest : String
  ledger_state : OperationalLedgerState
  dispatch_result : Option CoreOperationalDispatchResult
  verification_result : Option OperationalVerificationStatus
  deriving DecidableEq

/-- The text of an optional field. -/
def optionalText : Option String → Unchecked
  | none => .null
  | some text => .str text

/-! ## The orchestrator -/

/-- `OperationalExecutionOrchestrator`, without its stores and its client. -/
structure OperationalExecutionOrchestrator (Ctx : Type) where
  /-- The coordinator that makes changes durable, if there is one. -/
  persistence : Option (Coordinator Ctx)
  execution_policy : String → Bool

/-- Where a call stands while it waits for Core. -/
inductive Awaiting (py : Python) (Ctx : Type) where
  | dispatch (session : Session py Ctx) (request : OperationalActionRequest) (approval : Approval)
  | status (session : Session py Ctx) (request : OperationalActionRequest)
      (reference : OperationalExecutionReference)

/-- What a call comes to. -/
inductive Progress (py : Python) (Ctx : Type) where
  /-- It returned, with the message of its result. -/
  | returned (error_message : Option String)
  | awaits (awaiting : Awaiting py Ctx)

namespace OperationalExecutionOrchestrator

/-- The stages at which `resume` submits instead of reading the status. -/
def submits (stage : OperationalExecutionStage) : Bool :=
  decide (stage ∈ [.executionBlocked, .submissionOutcomeUnknown])

/-- `_validated_approval`, which answers the approval or why there is none to use. -/
def validatedApproval (a : Aggregate py Ctx) (now : DateTime) (session : WorkflowSession Ctx)
    (request : OperationalActionRequest) : Except PyError (Except String Approval) :=
  if session.operational_action_approval_id = .null then .ok (.error "operational_approval_missing")
  else do
    match ← lookupUnchecked a.approvals session.operational_action_approval_id with
    | none => return .error "operational_approval_missing"
    | some approval =>
        let stored := approval.request
        match stored.purpose, stored.operational_metadata with
        | .operationalAction, some metadata =>
            if .str stored.identifier ≠ session.operational_action_approval_id ∨
                stored.workflow_id ≠ .str session.identifier then
              return .error "operational_approval_mismatch"
            else if approval.status ≠ .approved then return .error "operational_approval_required"
            else if ← request.expires_at.le now then return .error "operational_approval_expired"
            else if ← metadata.expires_at.le now then return .error "operational_approval_expired"
            else if metadata.binds py request then return .ok approval
            else return .error "operational_approval_mismatch"
        | _, _ => return .error "operational_approval_invalid"

/-- The reference that is stored when the Agent does not submit. -/
def blockedReference (request : OperationalActionRequest) (now : DateTime) :
    OperationalExecutionReference where
  request_id := request.request_id
  request_digest := request.request_digest
  stage := .executionBlocked
  dispatch_status := .null
  ledger_state := .null
  provider_operation_id := .null
  verification_status := .null
  submitted_at := none
  last_observed_at := now
  terminal := false
  controlled_reason := .str "operational_execution_not_enabled"
  audit_events := ["execution_blocked_by_agent_gate"]

/-- The reference that is stored when the submission failed. -/
def unknownReference (request : OperationalActionRequest) (submitted_at now : DateTime) :
    OperationalExecutionReference where
  request_id := request.request_id
  request_digest := request.request_digest
  stage := .submissionOutcomeUnknown
  dispatch_status := .null
  ledger_state := .null
  provider_operation_id := .null
  verification_status := .null
  submitted_at := some submitted_at
  last_observed_at := now
  terminal := false
  controlled_reason := .str "operational_submission_outcome_unknown"
  audit_events := ["authenticated_dispatch_submitted", "submission_outcome_unknown"]

/-- The stage after an answered dispatch. -/
def dispatchStage : OperationalDispatchStatus → OperationalExecutionStage
  | .succeeded => .verificationPending
  | .outcomeUnknown => .outcomeUnknown
  | .failed => .failed

/-- The reference of `_from_dispatch`. -/
def dispatchReference (request : OperationalActionRequest) (now : DateTime)
    (result : CoreOperationalDispatchResult) : OperationalExecutionReference where
  request_id := request.request_id
  request_digest := request.request_digest
  stage := dispatchStage result.status
  dispatch_status := .str (StrEnum.value result.status)
  ledger_state := .str (StrEnum.value result.status)
  provider_operation_id := optionalText result.provider_operation_id
  verification_status := .null
  submitted_at := some now
  last_observed_at := now
  terminal := !decide (result.status = .succeeded)
  controlled_reason := optionalText result.sanitized_message
  audit_events :=
    if result.status = .succeeded then ["authenticated_dispatch_submitted", "verification_pending"]
    else ["authenticated_dispatch_submitted", StrEnum.value (dispatchStage result.status)]

/-- `_from_dispatch` -/
def fromDispatch (request : OperationalActionRequest) (now : DateTime)
    (result : CoreOperationalDispatchResult) :
    Except PyError (OperationalExecutionReference × WorkflowSessionState) := do
  require (decide (result.request_id = request.request_id) &&
      decide (result.request_digest = request.request_digest))
    (.valueError "Core operational dispatch identity mismatch")
  return (dispatchReference request now result,
    if result.status = .succeeded then .verifying else .blocked)

/-- The mapping of `_from_status`. -/
def statusMapping : OperationalLedgerState →
    OperationalExecutionStage × WorkflowSessionState × Bool
  | .claimed => (.dispatchPending, .executing, false)
  | .revalidated => (.dispatchPending, .executing, false)
  | .dispatching => (.dispatchPending, .executing, false)
  | .succeeded => (.verificationPending, .verifying, false)
  | .verifying => (.verificationPending, .verifying, false)
  | .verified => (.verified, .completed, true)
  | .failed => (.failed, .blocked, true)
  | .verificationFailed => (.verificationFailed, .blocked, true)
  | .targetReplaced => (.targetReplaced, .blocked, true)
  | .outcomeUnknown => (.outcomeUnknown, .blocked, true)

/-- The audit event for a stage that `_from_status` observed. -/
def observedEvent : OperationalExecutionStage → String
  | .verificationPending => "verification_pending"
  | .verified => "verification_succeeded"
  | .verificationFailed => "verification_failed"
  | .targetReplaced => "target_replaced"
  | .outcomeUnknown => "outcome_unknown"
  | _ => "core_lifecycle_observed"

/-- The reference of `_from_status`. -/
def statusReference (previous : OperationalExecutionReference) (now : DateTime)
    (status : CoreOperationalLifecycleStatus) : OperationalExecutionReference :=
  let (stage, _, terminal) := statusMapping status.ledger_state
  let event := observedEvent stage
  { previous with
    stage
    dispatch_status := match status.dispatch_result with
      | some dispatch => .str (StrEnum.value dispatch.status)
      | none => previous.dispatch_status
    ledger_state := .str (StrEnum.value status.ledger_state)
    provider_operation_id := match status.dispatch_result with
      | some dispatch => optionalText dispatch.provider_operation_id
      | none => previous.provider_operation_id
    verification_status := match status.verification_result with
      | some verification => .str (StrEnum.value verification)
      | none => .null
    last_observed_at := now
    terminal
    controlled_reason := match status.dispatch_result with
      | some dispatch => optionalText dispatch.sanitized_message
      | none => previous.controlled_reason
    audit_events := previous.audit_events ++ "core_lifecycle_observed" ::
      if event = "core_lifecycle_observed" then [] else [event] }

/-- `_from_status` -/
def fromStatus (previous : OperationalExecutionReference) (now : DateTime)
    (status : CoreOperationalLifecycleStatus) :
    OperationalExecutionReference × WorkflowSessionState :=
  (statusReference previous now status, (statusMapping status.ledger_state).2.1)

/-- `workflows.sessions.__setitem__(session.identifier, updated)` -/
def setSession (identifier : String) (updated : Session py Ctx) : Mutation py Ctx Unit := fun a =>
  .ok ((), { a with sessions := a.sessions.set identifier updated })

variable (o : OperationalExecutionOrchestrator Ctx)

/-- `_store` -/
def store (fault : Option WriteStep) (session : Session py Ctx)
    (reference : OperationalExecutionReference) (state : WorkflowSessionState) :
    Effect (System py Ctx) Unit := do
  let updated ← lift <| session.replace fun s =>
    { s with state, operational_execution_reference := some reference }
  match o.persistence with
  | some coordinator => coordinator.mutateAggregate fault (setSession session.identifier updated)
  | none => update fun s =>
      { s with live := { s.live with
          sessions := s.live.sessions.set session.identifier updated } }

/-- The part of `resume` that asks the execution gate. -/
def submit (fault : Option WriteStep) (now : DateTime) (session : Session py Ctx)
    (request : OperationalActionRequest) (approval : Approval) :
    Effect (System py Ctx) (Progress py Ctx) := do
  if o.execution_policy request.execution_intent then
    return .awaits (.dispatch session request approval)
  else do
    o.store fault session (blockedReference request now) session.state
    return .returned (some "operational_execution_not_enabled")

/-- `resume`, up to its request to Core. -/
def resume (fault : Option WriteStep) (now later : DateTime) (workflow_id : String) :
    Effect (System py Ctx) (Progress py Ctx) := do
  let s ← Effect.read
  match s.live.sessions.get workflow_id with
  | none => return .returned (some "Workflow not found")
  | some session =>
      if session.effect_kind ≠ .operationalAction then
        return .returned (some "Workflow is not operational")
      else match session.operational_action_request with
        | none => return .returned (some "operational_approval_missing")
        | some request =>
            match ← lift (validatedApproval s.live now session.toWorkflowSession request) with
            | .error reason => return .returned (some reason)
            | .ok approval =>
                match session.operational_execution_reference with
                | none => o.submit fault later session request approval
                | some reference =>
                    if reference.request_id ≠ request.request_id then
                      return .returned (some "operational_execution_reference_mismatch")
                    else if submits reference.stage then
                      o.submit fault later session request approval
                    else return .awaits (.status session request reference)

/-- `resume`, from Core's answer to the dispatch on; without an answer the client raised. -/
def dispatched (fault : Option WriteStep) (now later : DateTime) (session : Session py Ctx)
    (request : OperationalActionRequest) :
    Option CoreOperationalDispatchResult → Effect (System py Ctx) (Progress py Ctx)
  | none => do
      o.store fault session (unknownReference request now later) .executing
      return .returned (some "operational_submission_outcome_unknown")
  | some dispatch => do
      let (reference, state) ← lift (fromDispatch request now dispatch)
      o.store fault session reference state
      return .returned none

/-- `_reconcile`, from Core's answer on; without an answer the client raised. -/
def observed (fault : Option WriteStep) (now : DateTime) (session : Session py Ctx)
    (request : OperationalActionRequest) (reference : OperationalExecutionReference) :
    Option CoreOperationalLifecycleStatus → Effect (System py Ctx) (Progress py Ctx)
  | none => return .returned (some "operational_status_unavailable")
  | some status =>
      if status.request_digest ≠ request.request_digest then
        return .returned (some "operational_core_identity_mismatch")
      else do
        let (updated, state) := fromStatus reference now status
        o.store fault session updated state
        return .returned none

end OperationalExecutionOrchestrator

end AtlasOS.Agent
