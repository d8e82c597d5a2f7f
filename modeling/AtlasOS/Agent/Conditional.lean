import AtlasOS.Agent.Persistence

/-!
# Conditional mutations

The workflow engine changes the aggregate under conditions. A claim moves a session
on from an expected state, a pause also saves the approval that the session then
waits for, and the preparation of a verification also records the plan that its
approval is about. A mutation that answers `False` is committed like any other, so
what it did before it refused stays.
-/

namespace AtlasOS.Agent

open Effect

variable {py : Python} {Ctx : Type}

/-! ## The mutations of the engine -/

namespace WorkflowEngine

/-- The callback of `_transition_session`, by which the engine claims a session. -/
def claim (identifier : String) (expected_state new_state : WorkflowSessionState)
    (artifacts : WorkflowSession Ctx → WorkflowSession Ctx) : Mutation py Ctx Bool :=
  Aggregate.transitionSession identifier expected_state new_state artifacts

/-- What the three pauses do: save the approval to wait for, then move the session on. -/
def pause (approval : Request) (workflow_id : String)
    (expected_state new_state : WorkflowSessionState)
    (artifacts : WorkflowSession Ctx → WorkflowSession Ctx) : Mutation py Ctx Bool := do
  let _ ← Aggregate.saveRequest approval
  Aggregate.transitionSession workflow_id expected_state new_state artifacts

/-- `pause_for_verification` -/
def pauseForVerification (verification_approval : Request) (workflow_id : String)
    (execution_result : ExecutionResult) (changed_files : List Path) : Mutation py Ctx Bool :=
  pause verification_approval workflow_id .executing .awaitingVerificationApproval fun s =>
    { s with execution_result := some execution_result, changed_files }

/-- What both workflows store with the approval of a commit. -/
structure CommitArtifacts (Ctx : Type) where
  verification_report : VerificationReport Ctx
  review_report : ReviewReport
  commit_request : CommitRequest
  reviewed_files : List Path
  expected_branch : Unchecked
  expected_head : Unchecked
  reviewed_content_fingerprint : Unchecked

/-- The fields that a pause for a commit sets in both workflows. -/
def CommitArtifacts.apply (artifacts : CommitArtifacts Ctx) (s : WorkflowSession Ctx) :
    WorkflowSession Ctx :=
  { s with
    verification_report := some artifacts.verification_report
    review_report := some artifacts.review_report
    commit_request := some artifacts.commit_request
    reviewed_files := artifacts.reviewed_files
    expected_branch := artifacts.expected_branch
    expected_head := artifacts.expected_head
    reviewed_content_fingerprint := artifacts.reviewed_content_fingerprint }

/-- `pause_for_commit` of `_resume_verification` -/
def pauseForCommit (commit_approval : Request) (workflow_id : String)
    (artifacts : CommitArtifacts Ctx) (review_analysis : Option ModelResponse) :
    Mutation py Ctx Bool :=
  pause commit_approval workflow_id .verifying .awaitingCommitApproval fun s =>
    { artifacts.apply s with review_analysis }

/-- `pause_for_commit` of `_resume_candidate_verification` -/
def pauseForCandidateCommit (commit_approval : Request) (workflow_id : String)
    (artifacts : CommitArtifacts Ctx) (evidence : CandidateVerificationEvidence)
    (review_result : CandidateReviewResult) : Mutation py Ctx Bool :=
  pause commit_approval workflow_id .verifying .awaitingCommitApproval fun s =>
    { artifacts.apply s with
      candidate_verification_evidence := some evidence
      candidate_review_result := some review_result }

/-- The fields that the last transition of `persist_plan_and_approval` sets. -/
def preparedArtifacts (session : WorkflowSession Ctx) (plan : CandidateVerificationPlan)
    (s : WorkflowSession Ctx) : WorkflowSession Ctx :=
  { s with
    execution_result := session.execution_result
    worker_patch_applied := session.worker_patch_applied
    worker_baseline_status := session.worker_baseline_status
    changed_files := session.changed_files
    candidate_verification_plan := some plan }

/-- `persist_plan_and_approval`, for the session that the engine holds, the plan it built for
it, the approval of that plan and the placeholder that the approval may replace. -/
def persistPlanAndApproval (session : WorkflowSession Ctx) (plan : CandidateVerificationPlan)
    (exact_approval : Request) (placeholder : ApprovalRequest) : Mutation py Ctx Bool := do
  let current_session ← Aggregate.getSession session.identifier
  let current_session ← StateT.lift (expect current_session (.valueError "Workflow session missing"))
  let planned ← StateT.lift <| current_session.replace fun s =>
    { s with candidate_verification_plan := some plan }
  modify fun a => { a with sessions := a.sessions.set session.identifier planned }
  let transition := Aggregate.transitionSession session.identifier session.state
    .awaitingVerificationApproval (preparedArtifacts session plan)
  match ← Aggregate.getRequest exact_approval.identifier with
  | none => do
      let _ ← Aggregate.saveRequest exact_approval
      transition
  | some current =>
      if current.request = placeholder then do
        let ok ← Aggregate.supersedePendingRequest exact_approval.identifier placeholder exact_approval
        if ok then transition else return false
      else if current.request = exact_approval.toApprovalRequest then transition
      else return false

end WorkflowEngine

/-! ## What a refusal leaves -/

/-- Whether a session is there and in a state. -/
def Aggregate.InState (a : Aggregate py Ctx) (identifier : String)
    (state : WorkflowSessionState) : Prop :=
  ∃ session, a.sessions.get identifier = some session ∧ session.state = state

/-- The stores with a pending approval. -/
def Aggregate.withPending (a : Aggregate py Ctx) (approval : Request) : Aggregate py Ctx :=
  { a with approvals := a.approvals.set approval.identifier (.pending approval) }

/-- A session with its verification plan. No check of the constructor is about the plan. -/
def Session.withPlan (session : Session py Ctx) (plan : CandidateVerificationPlan) :
    Session py Ctx where
  toWorkflowSession :=
    { session.toWorkflowSession with candidate_verification_plan := some plan }
  built := ⟨session.built.operational, session.built.postInit⟩

/-- What `persist_plan_and_approval` does about the approval. -/
inductive ApprovalStep where
  /-- Another request is there, or the placeholder was decided: the call answers `False`. -/
  | refuse
  /-- The exact request is there. -/
  | keep
  /-- The exact request is stored as pending. -/
  | store
  deriving DecidableEq

/-- The step that the approvals of an aggregate ask for. -/
def Aggregate.approvalStep (a : Aggregate py Ctx) (exact_approval : Request)
    (placeholder : ApprovalRequest) : ApprovalStep :=
  match a.approvals.get exact_approval.identifier with
  | none => .store
  | some current =>
      if current.request = placeholder then
        if current.status = .pending then .store else .refuse
      else if current.request = exact_approval.toApprovalRequest then .keep
      else .refuse

/-- The stores as `persist_plan_and_approval` has changed them before its last transition. -/
def Aggregate.prepared (a : Aggregate py Ctx) (current_session : Session py Ctx)
    (identifier : String) (plan : CandidateVerificationPlan) (exact_approval : Request)
    (step : ApprovalStep) : Aggregate py Ctx :=
  let a := { a with sessions := a.sessions.set identifier (current_session.withPlan plan) }
  if step = .store then a.withPending exact_approval else a

/-- One step of a mutation and what follows it. -/
theorem bind_apply {α β : Type} (step : Mutation py Ctx α) (next : α → Mutation py Ctx β)
    (a : Aggregate py Ctx) :
    (step >>= next) a = (step a >>= fun returned => next returned.1 returned.2) := rfl

theorem lift_bind_of_ok {α β : Type} {result : Except PyError α} {value : α}
    {next : α → Mutation py Ctx β} {a : Aggregate py Ctx} (h : result = .ok value) :
    (StateT.lift result >>= next) a = next value a := by
  rw [h]
  rfl

theorem modify_bind {β : Type} (f : Aggregate py Ctx → Aggregate py Ctx)
    (next : PUnit → Mutation py Ctx β) (a : Aggregate py Ctx) :
    (modify f >>= next) a = next ⟨⟩ (f a) := rfl

theorem getSession_bind {β : Type} (identifier : String)
    (next : Option (Session py Ctx) → Mutation py Ctx β) (a : Aggregate py Ctx) :
    (Aggregate.getSession identifier >>= next) a = next (a.sessions.get identifier) a := rfl

theorem getRequest_bind {β : Type} (identifier : String)
    (next : Option Approval → Mutation py Ctx β) (a : Aggregate py Ctx) :
    (Aggregate.getRequest identifier >>= next) a = next (a.approvals.get identifier) a := rfl

namespace Aggregate

variable {a a' : Aggregate py Ctx} {identifier : String}
  {expected_state new_state : WorkflowSessionState}
  {artifacts : WorkflowSession Ctx → WorkflowSession Ctx}

/-- A transition is refused exactly when the session is not in the expected state, and then
changes nothing. -/
theorem transitionSession_eq_false :
    transitionSession identifier expected_state new_state artifacts a = .ok (false, a') ↔
      ¬a.InState identifier expected_state ∧ a' = a := by
  rw [transitionSession, InState]
  cases hget : a.sessions.get identifier with
  | none => simp [eq_comm]
  | some session =>
    have hin : (∃ found, some session = some found ∧ found.state = expected_state) ↔
        session.state = expected_state := by simp
    rw [hin]
    by_cases hstate : session.state = expected_state
    · simp [hstate, bind_eq_ok]
    · simp [hstate, @eq_comm _ a]

/-- A request is saved exactly when its identifier is free. -/
theorem saveRequest_bind {α : Type} {approval : Request} {next : String → Mutation py Ctx α} :
    (saveRequest approval >>= next) a =
      if a.approvals.get approval.identifier = none then
        next approval.identifier (a.withPending approval)
      else .error (.valueError ("Approval request already exists: " ++ approval.identifier)) := by
  rw [bind_apply, saveRequest]
  cases hget : a.approvals.get approval.identifier with
  | none => rfl
  | some current => rfl

end Aggregate

theorem Session.replace_withPlan (session : Session py Ctx) (plan : CandidateVerificationPlan) :
    (session.replace fun s => { s with candidate_verification_plan := some plan }) =
      .ok (session.withPlan plan) :=
  build_eq_ok.mpr (session.withPlan plan).built.construct

theorem Session.withPlan_eq_self {session : Session py Ctx} {plan : CandidateVerificationPlan}
    (h : session.candidate_verification_plan = some plan) : session.withPlan plan = session := by
  apply Session.ext
  obtain ⟨s, built⟩ := session
  cases s
  cases h
  rfl

/-- The preparation changes no more than the sessions and the approvals. -/
theorem Aggregate.prepared_eq_self {a : Aggregate py Ctx} {current_session : Session py Ctx}
    {identifier : String} {plan : CandidateVerificationPlan} {exact_approval : Request}
    {step : ApprovalStep}
    (hsessions : (a.prepared current_session identifier plan exact_approval step).sessions =
      a.sessions)
    (happrovals : (a.prepared current_session identifier plan exact_approval step).approvals =
      a.approvals) :
    a.prepared current_session identifier plan exact_approval step = a :=
  calc
    a.prepared current_session identifier plan exact_approval step =
        { a with
          sessions := (a.prepared current_session identifier plan exact_approval step).sessions
          approvals :=
            (a.prepared current_session identifier plan exact_approval step).approvals } := by
      cases step <;> rfl
    _ = a := by rw [hsessions, happrovals]

namespace WorkflowEngine

variable {a a' : Aggregate py Ctx}

/-- A pause is refused exactly when the identifier of the approval is free and the session has
moved; the approval stays. -/
theorem pause_eq_false {approval : Request} {workflow_id : String}
    {expected_state new_state : WorkflowSessionState}
    {artifacts : WorkflowSession Ctx → WorkflowSession Ctx} :
    pause approval workflow_id expected_state new_state artifacts a = .ok (false, a') ↔
      a.approvals.get approval.identifier = none ∧ ¬a.InState workflow_id expected_state ∧
        a' = a.withPending approval := by
  rw [pause, Aggregate.saveRequest_bind]
  split
  · next hfree =>
    rw [Aggregate.transitionSession_eq_false]
    exact (and_iff_right hfree).symm
  · next htaken => simp [htaken]

/-- The preparation, by the step about the approval. -/
theorem persistPlanAndApproval_of_get {session : WorkflowSession Ctx}
    {plan : CandidateVerificationPlan} {exact_approval : Request} {placeholder : ApprovalRequest}
    {current_session : Session py Ctx}
    (hget : a.sessions.get session.identifier = some current_session) :
    persistPlanAndApproval session plan exact_approval placeholder a =
      let step := a.approvalStep exact_approval placeholder
      let prepared := a.prepared current_session session.identifier plan exact_approval step
      if step = .refuse then .ok (false, prepared)
      else Aggregate.transitionSession session.identifier session.state
        .awaitingVerificationApproval (preparedArtifacts session plan) prepared := by
  have hfound : expect (some current_session) (PyError.valueError "Workflow session missing") =
      .ok current_session := rfl
  rw [persistPlanAndApproval, getSession_bind, hget, lift_bind_of_ok hfound,
    lift_bind_of_ok (current_session.replace_withPlan plan), modify_bind, getRequest_bind]
  obtain hcurrent | ⟨current, hcurrent⟩ :=
    Option.eq_none_or_eq_some (a.approvals.get exact_approval.identifier)
  · have hstep : a.approvalStep exact_approval placeholder = .store := by
      simp [Aggregate.approvalStep, hcurrent]
    rw [hcurrent, hstep]
    dsimp only
    rw [Aggregate.saveRequest_bind, if_pos hcurrent]
    rfl
  by_cases hplaceholder : current.request = placeholder
  · by_cases hpending : current.status = .pending
    · have hstep : a.approvalStep exact_approval placeholder = .store := by
        simp [Aggregate.approvalStep, hcurrent, hplaceholder, hpending]
      rw [hcurrent, hstep]
      simp [hplaceholder, hpending, hcurrent, bind_apply, Aggregate.supersedePendingRequest,
        Aggregate.prepared, Aggregate.withPending]
    · have hstep : a.approvalStep exact_approval placeholder = .refuse := by
        simp [Aggregate.approvalStep, hcurrent, hplaceholder, hpending]
      rw [hcurrent, hstep]
      simp [hplaceholder, hpending, hcurrent, bind_apply, Aggregate.supersedePendingRequest]
      rfl
  · by_cases hexact : current.request = exact_approval.toApprovalRequest
    · have hother : exact_approval.toApprovalRequest ≠ placeholder := hexact ▸ hplaceholder
      have hstep : a.approvalStep exact_approval placeholder = .keep := by
        simp [Aggregate.approvalStep, hcurrent, hexact, hother]
      rw [hcurrent, hstep]
      simp [hexact, hother, Aggregate.prepared]
    · have hstep : a.approvalStep exact_approval placeholder = .refuse := by
        simp [Aggregate.approvalStep, hcurrent, hplaceholder, hexact]
      rw [hcurrent, hstep]
      simp [hplaceholder, hexact]
      rfl

/-- A refused preparation found the session, and its approval or its state in the way; the plan
stays, and so does the approval if it was stored. -/
theorem persistPlanAndApproval_eq_false {session : WorkflowSession Ctx}
    {plan : CandidateVerificationPlan} {exact_approval : Request}
    {placeholder : ApprovalRequest} :
    persistPlanAndApproval session plan exact_approval placeholder a = .ok (false, a') ↔
      ∃ current_session, a.sessions.get session.identifier = some current_session ∧
        (a.approvalStep exact_approval placeholder ≠ .refuse →
          current_session.state ≠ session.state) ∧
        a' = a.prepared current_session session.identifier plan exact_approval
          (a.approvalStep exact_approval placeholder) := by
  obtain hget | ⟨current_session, hget⟩ :=
    Option.eq_none_or_eq_some (a.sessions.get session.identifier)
  · rw [persistPlanAndApproval, getSession_bind, hget]
    simp only [reduceCtorEq, false_and, exists_false, iff_false]
    exact fun h => nomatch h
  rw [persistPlanAndApproval_of_get hget]
  simp only [hget, Option.some.injEq, exists_eq_left']
  by_cases hrefuse : a.approvalStep exact_approval placeholder = .refuse
  · simp [hrefuse, eq_comm]
  · have hfound (step : ApprovalStep) :
        (a.prepared current_session session.identifier plan exact_approval step).InState
          session.identifier session.state ↔ current_session.state = session.state := by
      cases step <;>
        simp [Aggregate.InState, Aggregate.prepared, Aggregate.withPending, Session.withPlan]
    rw [if_neg hrefuse, Aggregate.transitionSession_eq_false, hfound]
    simp [hrefuse]

end WorkflowEngine

/-! ## When a refusal changes nothing -/

/-- A conditional mutation of the workflow engine. -/
inductive Conditional (Ctx : Type) where
  | claim (identifier : String) (expected_state new_state : WorkflowSessionState)
      (artifacts : WorkflowSession Ctx → WorkflowSession Ctx)
  | pauseForVerification (verification_approval : Request) (workflow_id : String)
      (execution_result : ExecutionResult) (changed_files : List Path)
  | pauseForCommit (commit_approval : Request) (workflow_id : String)
      (artifacts : WorkflowEngine.CommitArtifacts Ctx) (review_analysis : Option ModelResponse)
  | pauseForCandidateCommit (commit_approval : Request) (workflow_id : String)
      (artifacts : WorkflowEngine.CommitArtifacts Ctx) (evidence : CandidateVerificationEvidence)
      (review_result : CandidateReviewResult)
  | persistPlanAndApproval (session : WorkflowSession Ctx) (plan : CandidateVerificationPlan)
      (exact_approval : Request) (placeholder : ApprovalRequest)

/-- The callback that is given to `mutate_aggregate`. -/
def Conditional.mutation : Conditional Ctx → Mutation py Ctx Bool
  | .claim identifier expected_state new_state artifacts =>
      WorkflowEngine.claim identifier expected_state new_state artifacts
  | .pauseForVerification approval workflow_id execution_result changed_files =>
      WorkflowEngine.pauseForVerification approval workflow_id execution_result changed_files
  | .pauseForCommit approval workflow_id artifacts review_analysis =>
      WorkflowEngine.pauseForCommit approval workflow_id artifacts review_analysis
  | .pauseForCandidateCommit approval workflow_id artifacts evidence review_result =>
      WorkflowEngine.pauseForCandidateCommit approval workflow_id artifacts evidence review_result
  | .persistPlanAndApproval session plan exact_approval placeholder =>
      WorkflowEngine.persistPlanAndApproval session plan exact_approval placeholder

namespace Coordinator

variable {c : Coordinator Ctx} {s : System py Ctx} {fault : Option WriteStep}

/-- A mutation that answers `False` leaves the sessions, the approvals and the snapshot as they
were. -/
def NoOpWhenRefused (c : Coordinator Ctx) (fault : Option WriteStep)
    (mutation : Mutation py Ctx Bool) (s : System py Ctx) : Prop :=
  ∀ s', exec (c.mutateAggregate fault mutation) s = (.ok false, s') →
    s'.live.sessions = s.live.sessions ∧ s'.live.approvals = s.live.approvals ∧
      s'.snapshot = s.snapshot

/-- The stores fail the checks of a write, which raises then. -/
def Rejects (c : Coordinator Ctx) (a : Aggregate py Ctx) : Prop :=
  ∀ payload, ¬a.Accepted c.context_model payload

/-- The snapshot already is what a write of the stores would make it. -/
def UpToDate (c : Coordinator Ctx) (s : System py Ctx) : Prop :=
  ∀ payload, s.live.Accepted c.context_model payload → s.snapshot = .json (.obj payload)

/-- A pause is safe if it is not refused, because the session is in the expected state, or if it
raises, because the identifier of the approval is taken or the approval is not accepted. -/
def PauseSafe (c : Coordinator Ctx) (approval : Request) (workflow_id : String)
    (expected_state : WorkflowSessionState) (s : System py Ctx) : Prop :=
  s.live.InState workflow_id expected_state ∨
    s.live.approvals.get approval.identifier ≠ none ∨ c.Rejects (s.live.withPending approval)

/-- When a conditional mutation is safe, by the stores before it. -/
def Safe (c : Coordinator Ctx) (s : System py Ctx) : Conditional Ctx → Prop
  | .claim identifier expected_state _ _ =>
      s.live.InState identifier expected_state ∨ c.UpToDate s
  | .pauseForVerification approval workflow_id _ _ => c.PauseSafe approval workflow_id .executing s
  | .pauseForCommit approval workflow_id _ _ => c.PauseSafe approval workflow_id .verifying s
  | .pauseForCandidateCommit approval workflow_id _ _ _ =>
      c.PauseSafe approval workflow_id .verifying s
  | .persistPlanAndApproval session plan exact_approval placeholder =>
      let step := s.live.approvalStep exact_approval placeholder
      ∀ current_session, s.live.sessions.get session.identifier = some current_session →
        -- the call goes through
        (step ≠ .refuse ∧ current_session.state = session.state) ∨
        -- the stores with the plan are rejected
        c.Rejects (s.live.prepared current_session session.identifier plan exact_approval step) ∨
        -- the plan and the approval are there already
        (current_session.candidate_verification_plan = some plan ∧
          (step = .store →
            s.live.approvals.get exact_approval.identifier = some (.pending exact_approval)) ∧
          c.UpToDate s)

/-- A mutation is no no-op exactly when a refused candidate is written and differs. -/
theorem noOpWhenRefused_iff {mutation : Mutation py Ctx Bool} :
    c.NoOpWhenRefused fault mutation s ↔
      (fault = none → ∀ candidate payload, mutation s.live = .ok (false, candidate) →
        candidate.Accepted c.context_model payload →
          candidate.sessions = s.live.sessions ∧ candidate.approvals = s.live.approvals ∧
            s.snapshot = .json (.obj payload)) := by
  constructor
  · rintro h rfl candidate payload hmutation haccepted
    have hcommits : Commits c mutation s false candidate payload := ⟨hmutation, haccepted⟩
    obtain ⟨hsessions, happrovals, hsnapshot⟩ := h _ hcommits.exec_none
    exact ⟨hsessions, happrovals, hsnapshot.symm⟩
  · intro h s' hexec
    by_cases hcommits : ∃ result candidate payload, Commits c mutation s result candidate payload
    · obtain ⟨result, candidate, payload, hcommits⟩ := hcommits
      cases fault with
      | some w =>
        obtain ⟨e, he⟩ := hcommits.exec_some w
        rw [he] at hexec
        cases hexec
      | none =>
        rw [hcommits.exec_none] at hexec
        cases hexec
        obtain ⟨hsessions, happrovals, hsnapshot⟩ :=
          h rfl candidate payload hcommits.returned hcommits.accepted
        exact ⟨hsessions, happrovals, hsnapshot.symm⟩
    · push Not at hcommits
      obtain ⟨e, he⟩ := exec_mutateAggregate_of_not_commits hcommits fault
      rw [he] at hexec
      cases hexec

/-- A refused claim would be written as the stores are. -/
theorem noOpWhenRefused_claim_iff {identifier : String}
    {expected_state new_state : WorkflowSessionState}
    {artifacts : WorkflowSession Ctx → WorkflowSession Ctx} :
    c.NoOpWhenRefused fault
        (WorkflowEngine.claim identifier expected_state new_state artifacts) s ↔
      (fault = none → s.live.InState identifier expected_state ∨ c.UpToDate s) := by
  rw [noOpWhenRefused_iff]
  refine imp_congr_right fun _ => ?_
  simp only [WorkflowEngine.claim, Aggregate.transitionSession_eq_false]
  constructor
  · intro h
    by_cases hstate : s.live.InState identifier expected_state
    · exact .inl hstate
    · exact .inr fun payload haccepted => (h _ payload ⟨hstate, rfl⟩ haccepted).2.2
  · rintro h candidate payload ⟨hmoved, rfl⟩ haccepted
    exact ⟨rfl, rfl, (h.resolve_left hmoved) payload haccepted⟩

/-- A refused pause would be written with the approval, which was not there. -/
theorem noOpWhenRefused_pause_iff {approval : Request} {workflow_id : String}
    {expected_state new_state : WorkflowSessionState}
    {artifacts : WorkflowSession Ctx → WorkflowSession Ctx} :
    c.NoOpWhenRefused fault
        (WorkflowEngine.pause approval workflow_id expected_state new_state artifacts) s ↔
      (fault = none → c.PauseSafe approval workflow_id expected_state s) := by
  rw [noOpWhenRefused_iff]
  refine imp_congr_right fun _ => ?_
  simp only [WorkflowEngine.pause_eq_false]
  constructor
  · intro h
    by_cases hstate : s.live.InState workflow_id expected_state
    · exact .inl hstate
    by_cases hfree : s.live.approvals.get approval.identifier = none
    · refine .inr (.inr fun payload haccepted => ?_)
      have happrovals := (h _ payload ⟨hfree, hstate, rfl⟩ haccepted).2.1
      have hget := congrArg (·.get approval.identifier) happrovals
      simp [Aggregate.withPending, hfree] at hget
    · exact .inr (.inl hfree)
  · rintro h candidate payload ⟨hfree, hmoved, rfl⟩ haccepted
    rcases h with hstate | htaken | hrejects
    · exact absurd hstate hmoved
    · exact absurd hfree htaken
    · exact absurd haccepted (hrejects payload)

/-- The prepared stores have the sessions and approvals of before exactly when the plan and the
approval were there. -/
theorem prepared_unchanged_iff {a : Aggregate py Ctx} {current_session : Session py Ctx}
    {identifier : String} {plan : CandidateVerificationPlan} {exact_approval : Request}
    {step : ApprovalStep} (hget : a.sessions.get identifier = some current_session) :
    ((a.prepared current_session identifier plan exact_approval step).sessions = a.sessions ∧
      (a.prepared current_session identifier plan exact_approval step).approvals = a.approvals) ↔
      current_session.candidate_verification_plan = some plan ∧
        (step = .store →
          a.approvals.get exact_approval.identifier = some (.pending exact_approval)) := by
  have hsessions :
      (a.prepared current_session identifier plan exact_approval step).sessions =
        a.sessions.set identifier (current_session.withPlan plan) := by
    cases step <;> rfl
  have hplan : a.sessions.set identifier (current_session.withPlan plan) = a.sessions ↔
      current_session.candidate_verification_plan = some plan := by
    constructor
    · intro h
      have hsame := congrArg (·.get identifier) h
      simp only [Dict.get_set_self, hget, Option.some.injEq] at hsame
      rw [← hsame]
      rfl
    · intro h
      rw [Session.withPlan_eq_self h]
      exact Dict.set_get_self hget
  rw [hsessions, hplan]
  refine and_congr_right fun _ => ?_
  by_cases hstore : step = .store
  · subst hstore
    simp only [Aggregate.prepared, if_true, Aggregate.withPending, forall_const]
    exact ⟨fun h => by rw [← h, Dict.get_set_self], Dict.set_get_self⟩
  · simp [Aggregate.prepared, hstore]

/-- A refused preparation would be written with the plan. -/
theorem noOpWhenRefused_persist_iff {session : WorkflowSession Ctx}
    {plan : CandidateVerificationPlan} {exact_approval : Request}
    {placeholder : ApprovalRequest} :
    c.NoOpWhenRefused fault
        (WorkflowEngine.persistPlanAndApproval session plan exact_approval placeholder) s ↔
      (fault = none →
        c.Safe s (.persistPlanAndApproval session plan exact_approval placeholder)) := by
  rw [noOpWhenRefused_iff]
  refine imp_congr_right fun _ => ?_
  simp only [WorkflowEngine.persistPlanAndApproval_eq_false, Safe]
  constructor
  · intro h current_session hget
    by_cases hthrough : s.live.approvalStep exact_approval placeholder ≠ .refuse ∧
        current_session.state = session.state
    · exact .inl hthrough
    by_cases hrejects : c.Rejects (s.live.prepared current_session session.identifier plan
        exact_approval (s.live.approvalStep exact_approval placeholder))
    · exact .inr (.inl hrejects)
    have hunchanged {payload : Fields} (haccepted : Aggregate.Accepted c.context_model
        (s.live.prepared current_session session.identifier plan exact_approval
          (s.live.approvalStep exact_approval placeholder)) payload) :=
      h _ payload ⟨current_session, hget, not_and.mp hthrough, rfl⟩ haccepted
    obtain ⟨payload, haccepted⟩ := not_forall_not.mp hrejects
    obtain ⟨hsessions, happrovals, hsnapshot⟩ := hunchanged haccepted
    obtain ⟨hplan, hstored⟩ := (prepared_unchanged_iff hget).mp ⟨hsessions, happrovals⟩
    refine .inr (.inr ⟨hplan, hstored, fun payload' haccepted' => ?_⟩)
    rw [Aggregate.prepared_eq_self hsessions happrovals] at hunchanged
    exact (hunchanged haccepted').2.2
  · rintro h candidate payload ⟨current_session, hget, hrefused, rfl⟩ haccepted
    rcases h current_session hget with ⟨hstep, hstate⟩ | hrejects | ⟨hplan, hstored, hcurrent⟩
    · exact absurd hstate (hrefused hstep)
    · exact absurd haccepted (hrejects payload)
    · obtain ⟨hsessions, happrovals⟩ := (prepared_unchanged_iff hget).mpr ⟨hplan, hstored⟩
      rw [Aggregate.prepared_eq_self hsessions happrovals] at haccepted ⊢
      exact ⟨rfl, rfl, hcurrent payload haccepted⟩

/-- A conditional mutation is a no-op when refused exactly when it is safe. -/
theorem noOpWhenRefused_conditional_iff (call : Conditional Ctx) :
    c.NoOpWhenRefused fault call.mutation s ↔ (fault = none → c.Safe s call) := by
  cases call with
  | claim => exact noOpWhenRefused_claim_iff
  | pauseForVerification => exact noOpWhenRefused_pause_iff
  | pauseForCommit => exact noOpWhenRefused_pause_iff
  | pauseForCandidateCommit => exact noOpWhenRefused_pause_iff
  | persistPlanAndApproval => exact noOpWhenRefused_persist_iff

end Coordinator

/-! ## Runs -/

/-- What changes the durable state of an Agent. -/
inductive Operation (py : Python) (Ctx : Type) where
  /-- The process stops and is started again. -/
  | restart (fault : Option WriteStep)
  /-- A conditional mutation of the workflow engine. -/
  | conditional (fault : Option WriteStep) (call : Conditional Ctx)
  /-- Any other mutation. -/
  | mutate (fault : Option WriteStep) (mutation : Mutation py Ctx Unit)
  | writeJournal (fault : Option JournalStep) (payload : Fields)
  | clearJournal (fails : Bool)

namespace Coordinator

/-- The state after an operation, whether it returned or raised. -/
def perform (c : Coordinator Ctx) (s : System py Ctx) : Operation py Ctx → System py Ctx
  | .restart fault =>
      (exec (c.initializeState fault) { s with live := .empty py Ctx }).2
  | .conditional fault call => (exec (c.mutateAggregate fault call.mutation) s).2
  | .mutate fault mutation => (exec (c.mutateAggregate fault mutation) s).2
  | .writeJournal fault payload => (exec (PatchJournal.write fault payload) s).2
  | .clearJournal fails => (exec (PatchJournal.clear fails) s).2

/-- The state after a run. -/
def run (c : Coordinator Ctx) (s : System py Ctx) (operations : List (Operation py Ctx)) :
    System py Ctx :=
  operations.foldl c.perform s

/-- In a run, every conditional mutation is a no-op when refused exactly when each was safe in
the state that it met. -/
theorem run_noOpWhenRefused_iff (c : Coordinator Ctx) (s : System py Ctx)
    (operations : List (Operation py Ctx)) :
    (∀ before fault call after, operations = before ++ .conditional fault call :: after →
      c.NoOpWhenRefused fault call.mutation (c.run s before)) ↔
    ∀ before fault call after, operations = before ++ .conditional fault call :: after →
      fault = none → c.Safe (c.run s before) call := by
  constructor
  · intro h before fault call after hrun
    exact (noOpWhenRefused_conditional_iff call).mp (h before fault call after hrun)
  · intro h before fault call after hrun
    exact (noOpWhenRefused_conditional_iff call).mpr (h before fault call after hrun)

/-! ## A placeholder that was approved -/

/-- A candidate workflow that waits for the approval of its verification. -/
def verificationSession : Session .plain Fields where
  identifier := "w"
  request := none
  plan := none
  state := .awaitingVerificationApproval
  effect_kind := .repositoryChange
  source := .candidate
  built := ⟨by simp, rfl⟩

/-- The request that stands for a plan that was not built yet. -/
def placeholderRequest : Request where
  identifier := "approval-verification-w"
  checkpoint_id := "checkpoint"
  title := "Approve verification of Title"
  requested_tool := "verification"
  requested_command := ["verification-suite"]
  rationale := "Approve the future candidate verification phase."
  workflow_id := .str "w"
  purpose := .verification
  built := ApprovalRequest.built_of_none rfl

/-- Its approval. -/
def approvedPlaceholder : Approval where
  decision := { request := placeholderRequest.toApprovalRequest, status := .approved }
  built := placeholderRequest.built

/-- The plan that is built for the workflow. -/
def verificationPlan : CandidateVerificationPlan where
  identifier := "plan"
  workflow_session_id := "w"
  candidate_planning_session_id := "planning"
  candidate_id := "candidate"
  candidate_fingerprint := "fingerprint"
  candidate_plan_id := "candidate-plan"
  candidate_plan_fingerprint := "plan-fingerprint"
  implementation_request_id := "implementation"
  execution_result_id := "execution"
  repository_root := .ofString "/repository"
  repository_branch := .str "main"
  base_head := "base"
  post_execution_head := "head"
  baseline_status := none
  post_execution_status := none
  changed_files := []
  changed_files_digest := "digest"
  approved_affected_files := []
  verification_checks := []
  verifier_version := "v1"
  generated_at := .utc ⟨0, zero_lt_MAX_MICROS⟩

/-- The request for that plan. -/
def exactRequest : Request :=
  { placeholderRequest with
    checkpoint_id := "plan"
    title := "Approve exact candidate verification checks"
    rationale := "Approve the exact candidate verification plan and changed-file evidence."
    built := placeholderRequest.built }

/-- The storage of the workflow with its approved placeholder. -/
def waiting : Mutation .plain Fields Unit := do
  Aggregate.createSession verificationSession
  let _ ← Aggregate.saveRequest placeholderRequest
  let _ ← Aggregate.updateDecision "approval-verification-w" approvedPlaceholder
  return ()

/-- The stores with a session and an approval. -/
def single (session : Session .plain Fields) (approval : Approval) : Aggregate .plain Fields :=
  { Aggregate.empty .plain Fields with
    sessions := Dict.set ∅ "w" session
    approvals := Dict.set ∅ "approval-verification-w" approval }

theorem single_accepted {session : Session .plain Fields} {approval : Approval}
    (hsession : (single session approval).validateSession "w" session.toWorkflowSession = .ok ())
    (happroval : (single session approval).validateApproval "approval-verification-w"
      approval.toApprovalResult = .ok ())
    (hencode : session.toWorkflowSession.checkEncode .plain = .ok ()) :
    (single session approval).Accepted .fields (payloadFields .fields (single session approval)) := by
  refine ⟨Aggregate.validateAggregate_eq_ok.mpr ⟨fun id s hs => ?_, fun id r hr => ?_⟩,
    encodePayload_eq_ok.mpr ⟨fun id s hs => ?_, rfl⟩⟩
  · obtain ⟨rfl, rfl⟩ := Dict.get_set_empty.mp hs
    exact hsession
  · obtain ⟨rfl, rfl⟩ := Dict.get_set_empty.mp hr
    exact happroval
  · obtain ⟨rfl, rfl⟩ := Dict.get_set_empty.mp hs
    exact hencode

/-- The stores with the workflow and its approved placeholder. -/
theorem run_waiting :
    (plain.run fresh [.mutate none waiting]).live =
      single verificationSession approvedPlaceholder := by
  have hcommits : Commits plain waiting fresh () (single verificationSession approvedPlaceholder)
      (payloadFields .fields (single verificationSession approvedPlaceholder)) := by
    refine ⟨?_, single_accepted rfl rfl rfl⟩
    rfl
  change (exec (plain.mutateAggregate none waiting) fresh).2.live = _
  rw [hcommits.exec_none]

/-- The preparation of a verification whose placeholder was approved answers `False` and keeps
the plan in the session. -/
theorem not_noOpWhenRefused_approvedPlaceholder :
    ¬plain.NoOpWhenRefused none
      (Conditional.persistPlanAndApproval verificationSession.toWorkflowSession verificationPlan
        exactRequest placeholderRequest.toApprovalRequest).mutation
      (plain.run fresh [.mutate none waiting]) := by
  rw [Conditional.mutation, noOpWhenRefused_persist_iff]
  intro h
  have hstep : (single verificationSession approvedPlaceholder).approvalStep exactRequest
      placeholderRequest.toApprovalRequest = .refuse := rfl
  have hsafe := h rfl verificationSession (by rw [run_waiting]; rfl)
  rw [run_waiting, hstep] at hsafe
  rcases hsafe with ⟨hne, -⟩ | hrejects | ⟨hplan, -⟩
  · exact hne rfl
  · have hprepared : (single verificationSession approvedPlaceholder).prepared verificationSession
        "w" verificationPlan exactRequest .refuse =
          single (verificationSession.withPlan verificationPlan) approvedPlaceholder := rfl
    exact hrejects _ (hprepared ▸ single_accepted rfl rfl rfl)
  · exact absurd hplan (by simp [verificationSession])

end Coordinator

end AtlasOS.Agent
