import AtlasOS.Agent.Aggregate
import AtlasOS.Lib.Objects

/-!
# The live stores and their candidates

The approval repository and the workflow state exist twice: the live stores that
the routes read, and the candidates that a transaction changes. Every sequence of
calls is answered alike by both, and leaves the same contents.
-/

namespace AtlasOS.Agent

variable {py : Python} {Ctx : Type}

/-! ## Calls -/

/-- The calls of an approval repository. -/
inductive ApprovalCall where
  | saveRequest (request : Request)
  | getRequest (identifier : String)
  /-- The decision, as the result that holds it. -/
  | updateDecision (identifier : String) (result : Approval)
  | supersedePendingRequest (identifier : String) (expected_request : ApprovalRequest)
      (replacement_request : Request)

/-- What a call of an approval repository answers. -/
inductive ApprovalAnswer where
  | raised (error : PyError)
  | identifier (identifier : String)
  | found (approval : Option Approval)
  | updated (done : Bool)

/-- The calls of the workflow state. -/
inductive WorkflowCall (py : Python) (Ctx : Type) where
  | createSession (session : Session py Ctx)
  | getSession (identifier : String)
  | deleteSession (identifier : String)
  /-- The artifacts as an update of the session's fields. -/
  | transitionSession (identifier : String) (expected_state new_state : WorkflowSessionState)
      (artifacts : WorkflowSession Ctx → WorkflowSession Ctx)
  | publishSprint (status : SprintStatus)
  | publishVerification (report : VerificationReport Ctx)
  | publishReview (report : ReviewReport)

/-- What a call of the workflow state answers. -/
inductive WorkflowAnswer (py : Python) (Ctx : Type) where
  | raised (error : PyError)
  | found (session : Option (Session py Ctx))
  | done (done : Bool)
  | nothing

/-- A call that raises leaves the store as it is. -/
def answered {σ α β : Type} (s : σ) (raised : PyError → β) (answer : α → β) :
    Except PyError (α × σ) → β × σ
  | .ok (a, s') => (answer a, s')
  | .error e => (raised e, s)

/-! ## The live stores -/

namespace ApprovalRepository

/-- `ApprovalRepository.save_request` -/
def saveRequest (request : Request) (storage : Dict Approval) :
    Except PyError (String × Dict Approval) :=
  if (storage.get request.identifier).isSome then
    .error (.valueError ("Approval request already exists: " ++ request.identifier))
  else .ok (request.identifier, storage.set request.identifier (.pending request))

/-- `ApprovalRepository.update_decision` -/
def updateDecision (identifier : String) (result : Approval) (storage : Dict Approval) :
    Bool × Dict Approval :=
  match storage.get identifier with
  | none => (false, storage)
  | some current =>
      if current.status ≠ .pending then (false, storage)
      else if result.request ≠ current.request then (false, storage)
      else (true, storage.set identifier result)

/-- `ApprovalRepository.supersede_pending_request` -/
def supersedePendingRequest (identifier : String) (expected_request : ApprovalRequest)
    (replacement_request : Request) (storage : Dict Approval) : Bool × Dict Approval :=
  if replacement_request.identifier ≠ identifier then (false, storage)
  else match storage.get identifier with
  | none => (false, storage)
  | some current =>
      if current.status ≠ .pending then (false, storage)
      else if current.request ≠ expected_request then (false, storage)
      else (true, storage.set identifier (.pending replacement_request))

/-- One call of the live repository. -/
def call : Object (Dict Approval) ApprovalCall ApprovalAnswer
  | storage, .saveRequest request =>
      answered storage .raised .identifier (saveRequest request storage)
  | storage, .getRequest identifier => (.found (storage.get identifier), storage)
  | storage, .updateDecision identifier result =>
      let (done, storage) := updateDecision identifier result storage
      (.updated done, storage)
  | storage, .supersedePendingRequest identifier expected_request replacement_request =>
      let (done, storage) :=
        supersedePendingRequest identifier expected_request replacement_request storage
      (.updated done, storage)

end ApprovalRepository

/-- The live workflow state. -/
structure WorkflowStateStore (py : Python) (Ctx : Type) where
  sprint : Option SprintStatus
  verification : Option (VerificationReport Ctx)
  review : Option ReviewReport
  sessions : Dict (Session py Ctx)

namespace WorkflowStateStore

/-- `WorkflowStateStore.create_session` -/
def createSession (session : Session py Ctx) (s : WorkflowStateStore py Ctx) :
    Except PyError (Unit × WorkflowStateStore py Ctx) :=
  if isBlank session.identifier then
    .error (.valueError "Workflow session identifier must not be blank")
  else if (s.sessions.get session.identifier).isSome then
    .error (.valueError ("Workflow session identifier already exists: " ++ session.identifier))
  else .ok ((), { s with sessions := s.sessions.set session.identifier session })

/-- `WorkflowStateStore.transition_session` -/
def transitionSession (identifier : String) (expected_state new_state : WorkflowSessionState)
    (artifacts : WorkflowSession Ctx → WorkflowSession Ctx) (s : WorkflowStateStore py Ctx) :
    Except PyError (Bool × WorkflowStateStore py Ctx) :=
  match s.sessions.get identifier with
  | none => .ok (false, s)
  | some session =>
      if session.state ≠ expected_state then .ok (false, s)
      else match session.replace fun t => artifacts { t with state := new_state } with
        | .error e => .error e
        | .ok session => .ok (true, { s with sessions := s.sessions.set identifier session })

/-- One call of the live workflow state. -/
def call : Object (WorkflowStateStore py Ctx) (WorkflowCall py Ctx) (WorkflowAnswer py Ctx)
  | s, .createSession session => answered s .raised (fun _ => .nothing) (createSession session s)
  | s, .getSession identifier => (.found (s.sessions.get identifier), s)
  | s, .deleteSession identifier =>
      (.done (s.sessions.get identifier).isSome, { s with sessions := s.sessions.pop identifier })
  | s, .transitionSession identifier expected_state new_state artifacts =>
      answered s .raised .done (transitionSession identifier expected_state new_state artifacts s)
  | s, .publishSprint status => (.nothing, { s with sprint := some status })
  | s, .publishVerification report => (.nothing, { s with verification := some report })
  | s, .publishReview report => (.nothing, { s with review := some report })

end WorkflowStateStore

/-! ## The candidates -/

/-- One call of `CandidateApprovalRepository`. -/
def CandidateApprovalRepository.call : Object (Aggregate py Ctx) ApprovalCall ApprovalAnswer
  | a, .saveRequest request => answered a .raised .identifier (Aggregate.saveRequest request a)
  | a, .getRequest identifier => answered a .raised .found (Aggregate.getRequest identifier a)
  | a, .updateDecision identifier result =>
      answered a .raised .updated (Aggregate.updateDecision identifier result a)
  | a, .supersedePendingRequest identifier expected_request replacement_request =>
      answered a .raised .updated
        (Aggregate.supersedePendingRequest identifier expected_request replacement_request a)

/-- One call of `CandidateWorkflowState`. -/
def CandidateWorkflowState.call :
    Object (Aggregate py Ctx) (WorkflowCall py Ctx) (WorkflowAnswer py Ctx)
  | a, .createSession session =>
      answered a .raised (fun _ => .nothing) (Aggregate.createSession session a)
  | a, .getSession identifier => answered a .raised .found (Aggregate.getSession identifier a)
  | a, .deleteSession identifier =>
      answered a .raised .done (Aggregate.deleteSession identifier a)
  | a, .transitionSession identifier expected_state new_state artifacts =>
      answered a .raised .done
        (Aggregate.transitionSession identifier expected_state new_state artifacts a)
  | a, .publishSprint status =>
      answered a .raised (fun _ => .nothing) (Aggregate.publishSprint status a)
  | a, .publishVerification report =>
      answered a .raised (fun _ => .nothing) (Aggregate.publishVerification report a)
  | a, .publishReview report =>
      answered a .raised (fun _ => .nothing) (Aggregate.publishReview report a)

/-- The workflow part of an aggregate. -/
def Aggregate.workflow (a : Aggregate py Ctx) : WorkflowStateStore py Ctx :=
  ⟨a.sprint, a.verification, a.review, a.sessions⟩

/-- The aggregate with another workflow part. -/
def Aggregate.withWorkflow (a : Aggregate py Ctx) (s : WorkflowStateStore py Ctx) :
    Aggregate py Ctx :=
  { a with
    sprint := s.sprint, verification := s.verification, review := s.review,
    sessions := s.sessions }

@[simp] theorem Aggregate.workflow_withWorkflow (a : Aggregate py Ctx)
    (s : WorkflowStateStore py Ctx) : (a.withWorkflow s).workflow = s := rfl

@[simp] theorem Aggregate.withWorkflow_workflow (a : Aggregate py Ctx) :
    a.withWorkflow a.workflow = a := rfl

/-! ## Agreement -/

/-- Saving is refused by both for an identifier that is taken. -/
theorem saveRequest_agrees (request : Request) (a : Aggregate py Ctx) :
    Aggregate.saveRequest request a =
      (ApprovalRepository.saveRequest request a.approvals).map fun saved =>
        (saved.1, { a with approvals := saved.2 }) := by
  rw [Aggregate.saveRequest, ApprovalRepository.saveRequest]
  cases a.approvals.get request.identifier <;> rfl

theorem updateDecision_agrees (identifier : String) (result : Approval) (a : Aggregate py Ctx) :
    Aggregate.updateDecision identifier result a =
      .ok ((ApprovalRepository.updateDecision identifier result a.approvals).1,
        { a with
          approvals := (ApprovalRepository.updateDecision identifier result a.approvals).2 }) := by
  rw [Aggregate.updateDecision, ApprovalRepository.updateDecision]
  cases a.approvals.get identifier with
  | none => rfl
  | some current =>
    by_cases hpending : current.status = .pending
    · by_cases hrequest : result.request = current.request
      · simp [hpending, hrequest]
      · simp [hpending, hrequest]
    · simp [hpending]

theorem supersedePendingRequest_agrees (identifier : String) (expected_request : ApprovalRequest)
    (replacement_request : Request) (a : Aggregate py Ctx) :
    Aggregate.supersedePendingRequest identifier expected_request replacement_request a =
      .ok ((ApprovalRepository.supersedePendingRequest identifier expected_request
          replacement_request a.approvals).1,
        { a with
          approvals := (ApprovalRepository.supersedePendingRequest identifier expected_request
            replacement_request a.approvals).2 }) := by
  rw [Aggregate.supersedePendingRequest, ApprovalRepository.supersedePendingRequest]
  by_cases hsame : replacement_request.identifier = identifier
  · rw [if_pos hsame, if_neg (not_not_intro hsame)]
    cases a.approvals.get identifier with
    | none => rfl
    | some current =>
      by_cases hpending : current.status = .pending
      · by_cases hrequest : current.request = expected_request
        · simp [hpending, hrequest]
        · simp [hpending, hrequest]
      · simp [hpending]
  · rw [if_neg hsame, if_pos hsame]

/-- The live approval repository and its candidate cannot be told apart. -/
theorem approvalRepository_simulation :
    Object.Simulation ApprovalRepository.call (@CandidateApprovalRepository.call py Ctx)
      fun storage a => storage = a.approvals := by
  have hcall (a : Aggregate py Ctx) (c : ApprovalCall) :
      (ApprovalRepository.call a.approvals c).1 = (CandidateApprovalRepository.call a c).1 ∧
        (ApprovalRepository.call a.approvals c).2 =
          (CandidateApprovalRepository.call a c).2.approvals := by
    cases c with
    | saveRequest request =>
      rw [ApprovalRepository.call, CandidateApprovalRepository.call, saveRequest_agrees]
      cases ApprovalRepository.saveRequest request a.approvals <;> exact ⟨rfl, rfl⟩
    | getRequest identifier => exact ⟨rfl, rfl⟩
    | updateDecision identifier result =>
      rw [CandidateApprovalRepository.call, updateDecision_agrees]
      exact ⟨rfl, rfl⟩
    | supersedePendingRequest identifier expected_request replacement_request =>
      rw [CandidateApprovalRepository.call, supersedePendingRequest_agrees]
      exact ⟨rfl, rfl⟩
  constructor
  · rintro _ a c rfl
    exact (hcall a c).1
  · rintro _ a c rfl
    exact (hcall a c).2

theorem createSession_agrees (session : Session py Ctx) (a : Aggregate py Ctx) :
    Aggregate.createSession session a =
      (WorkflowStateStore.createSession session a.workflow).map fun created =>
        (created.1, a.withWorkflow created.2) := by
  rw [Aggregate.createSession, WorkflowStateStore.createSession]
  simp only [Aggregate.workflow]
  cases isBlank session.identifier with
  | true => rfl
  | false =>
    obtain hget | ⟨taken, hget⟩ := Option.eq_none_or_eq_some (a.sessions.get session.identifier)
    · simp only [hget]
      rfl
    · simp only [hget]
      rfl

theorem transitionSession_agrees (identifier : String)
    (expected_state new_state : WorkflowSessionState)
    (artifacts : WorkflowSession Ctx → WorkflowSession Ctx) (a : Aggregate py Ctx) :
    Aggregate.transitionSession identifier expected_state new_state artifacts a =
      (WorkflowStateStore.transitionSession identifier expected_state new_state artifacts
        a.workflow).map fun moved => (moved.1, a.withWorkflow moved.2) := by
  rw [Aggregate.transitionSession, WorkflowStateStore.transitionSession]
  simp only [Aggregate.workflow]
  cases a.sessions.get identifier with
  | none => rfl
  | some session =>
    by_cases hstate : session.state = expected_state
    · simp only [hstate, if_true, ne_eq, not_true_eq_false, if_false]
      cases session.replace _ <;> rfl
    · simp only [hstate, if_false, ne_eq, not_false_eq_true, if_true]
      rfl

/-- A call that is answered alike on both sides keeps the workflow parts equal. -/
theorem answered_withWorkflow {α β : Type} (a : Aggregate py Ctx) (raised : PyError → β)
    (answer : α → β) (result : Except PyError (α × WorkflowStateStore py Ctx)) :
    (answered a.workflow raised answer result).1 =
        (answered a raised answer (result.map fun r => (r.1, a.withWorkflow r.2))).1 ∧
      (answered a.workflow raised answer result).2 =
        (answered a raised answer (result.map fun r => (r.1, a.withWorkflow r.2))).2.workflow := by
  cases result <;> exact ⟨rfl, rfl⟩

/-- The live workflow state and its candidate cannot be told apart. -/
theorem workflowState_simulation :
    Object.Simulation WorkflowStateStore.call (@CandidateWorkflowState.call py Ctx)
      fun s a => s = a.workflow := by
  have hcall (a : Aggregate py Ctx) (c : WorkflowCall py Ctx) :
      (WorkflowStateStore.call a.workflow c).1 = (CandidateWorkflowState.call a c).1 ∧
        (WorkflowStateStore.call a.workflow c).2 =
          (CandidateWorkflowState.call a c).2.workflow := by
    cases c with
    | createSession session =>
      rw [WorkflowStateStore.call, CandidateWorkflowState.call, createSession_agrees]
      exact answered_withWorkflow a _ _ _
    | transitionSession identifier expected_state new_state artifacts =>
      rw [WorkflowStateStore.call, CandidateWorkflowState.call, transitionSession_agrees]
      exact answered_withWorkflow a _ _ _
    | getSession | deleteSession | publishSprint | publishVerification | publishReview =>
      exact ⟨rfl, rfl⟩
  constructor
  · rintro _ a c rfl
    exact (hcall a c).1
  · rintro _ a c rfl
    exact (hcall a c).2

/-! ## Decisions and requests -/

namespace ApprovalRepository

/-- What one call can do to the approval under an identifier that is taken. -/
inductive Kept (c : ApprovalCall) (id : String) (current : Approval) : Approval → Prop
  | same : Kept c id current current
  /-- A pending request is decided. -/
  | decided {result : Approval} (pending : current.status = .pending)
      (request : result.request = current.request) : Kept c id current result
  /-- A pending request is replaced by another. -/
  | superseded {expected_request : ApprovalRequest} {replacement_request : Request}
      (pending : current.status = .pending)
      (call : c = .supersedePendingRequest id expected_request replacement_request) :
      Kept c id current (.pending replacement_request)

/-- An approval stays in the repository, and what becomes of it is one of these. -/
theorem call_kept (storage : Dict Approval) (c : ApprovalCall) {id : String} {current : Approval}
    (h : storage.get id = some current) :
    ∃ next, (call storage c).2.get id = some next ∧ Kept c id current next := by
  have hsame : ∃ next, storage.get id = some next ∧ Kept c id current next := ⟨current, h, .same⟩
  cases c with
  | saveRequest request =>
    rw [call, saveRequest]
    split
    · exact hsame
    · next hfree =>
      have hne : request.identifier ≠ id := by
        rintro rfl
        simp [h] at hfree
      exact ⟨current, by rw [answered, Dict.get_set_of_ne _ _ hne, h], .same⟩
  | getRequest identifier => exact hsame
  | updateDecision identifier result =>
    simp only [call, updateDecision]
    cases hget : storage.get identifier with
    | none => exact hsame
    | some found =>
      dsimp only
      split_ifs with hpending hrequest
      · exact hsame
      · exact hsame
      · rw [not_not] at hpending hrequest
        by_cases hid : identifier = id
        · subst hid
          obtain rfl := Option.some.inj (h.symm.trans hget)
          exact ⟨result, by rw [Dict.get_set, if_pos rfl], .decided hpending hrequest⟩
        · exact ⟨current, by rw [Dict.get_set_of_ne _ _ hid, h], .same⟩
  | supersedePendingRequest identifier expected_request replacement_request =>
    simp only [call, supersedePendingRequest]
    split_ifs with hidentifier
    · exact hsame
    · cases hget : storage.get identifier with
      | none => exact hsame
      | some found =>
        dsimp only
        split_ifs with hpending hrequest
        · exact hsame
        · exact hsame
        · rw [not_not] at hpending
          by_cases hid : identifier = id
          · subst hid
            obtain rfl := Option.some.inj (h.symm.trans hget)
            exact ⟨.pending replacement_request, by rw [Dict.get_set, if_pos rfl],
              .superseded hpending rfl⟩
          · exact ⟨current, by rw [Dict.get_set_of_ne _ _ hid, h], .same⟩

/-- A decided approval is kept as it is by every run. -/
theorem after_decided {storage : Dict Approval} {id : String} {current : Approval}
    (h : storage.get id = some current) (hdecided : current.status ≠ .pending)
    (calls : List ApprovalCall) : (Object.after call storage calls).get id = some current := by
  refine Object.after_of_step (P := fun s : Dict Approval => s.get id = some current)
    (fun s c hs => ?_) h calls
  obtain ⟨next, hnext, hkept⟩ := call_kept s c hs
  cases hkept with
  | same => exact hnext
  | decided hpending => exact absurd hpending hdecided
  | superseded hpending => exact absurd hpending hdecided

/-- The request of an identifier changes only when a pending one is superseded. -/
theorem call_request (storage : Dict Approval) (c : ApprovalCall) {id : String}
    {current : Approval} (h : storage.get id = some current) :
    ∃ next, (call storage c).2.get id = some next ∧
      (next.request = current.request ∨
        current.status = .pending ∧ ∃ expected_request replacement_request,
          c = .supersedePendingRequest id expected_request replacement_request ∧
            next = .pending replacement_request) := by
  obtain ⟨next, hnext, hkept⟩ := call_kept storage c h
  refine ⟨next, hnext, ?_⟩
  cases hkept with
  | same => exact .inl rfl
  | decided _ hrequest => exact .inl hrequest
  | superseded hpending hcall => exact .inr ⟨hpending, _, _, hcall, rfl⟩

end ApprovalRepository

end AtlasOS.Agent
