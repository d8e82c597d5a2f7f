import AtlasOS.Agent.Models

/-!
# Records that passed their checks

A Python record that exists has passed the checks of its constructor, and so
have the records inside it. The stores of the Agent hold such records: a
workflow session, an approval and a candidate planning session are each paired
with the fact that it was built.
-/

namespace AtlasOS.Agent

variable {py : Python} {Ctx : Type}

/-- A result together with what is known of it once the computation succeeds. -/
def attach {ε α β : Type} : (m : Except ε α) → (∀ a, m = .ok a → β) → Except ε β
  | .ok a, make => .ok (make a rfl)
  | .error e, _ => .error e

theorem attach_eq_ok {ε α β : Type} {m : Except ε α} {make : ∀ a, m = .ok a → β} {b : β} :
    attach m make = .ok b ↔ ∃ a, ∃ h : m = .ok a, make a h = b := by
  cases m <;> simp [attach]

/-! ## Operational requests -/

theorem versionedDigest_ne_empty (prefixText : String) (payload : Fields) :
    versionedDigest py prefixText payload ≠ "" := by
  intro h
  have hlength := congrArg String.length h
  simp only [versionedDigest, String.length_append] at hlength
  have hcolon : (":" : String).length = 1 := rfl
  have hempty : ("" : String).length = 0 := rfl
  omega

namespace OperationalActionRequest

/-- What the checks of an operational request amount to. -/
structure Built (py : Python) (r : OperationalActionRequest) : Prop where
  effect_kind : r.effect_kind = .operationalAction
  action : resolveProviderActionId r.execution_intent r.provider_id r.resource_type =
    .ok r.provider_action_id
  target : isBlank r.target_fingerprint = false
  expiry : r.expires_at.le r.generated_at = .ok false
  digest : r.request_digest = operationalActionRequestDigest py r
  key : r.idempotency_key =
    operationalActionIdempotencyKey py r.request_id r.request_digest

/-- A request that passed its checks passes them again unchanged. -/
theorem Built.postInit {r : OperationalActionRequest} (h : r.Built py) :
    r.postInit py = .ok r := by
  have hne : ¬(r.request_digest = "" ∧ r.idempotency_key = "") := by
    rintro ⟨hdigest, -⟩
    have hempty : operationalActionRequestDigest py r = "" := h.digest.symm.trans hdigest
    exact versionedDigest_ne_empty _ _ hempty
  simp [OperationalActionRequest.postInit, h.effect_kind, h.action, h.target, h.expiry, hne,
    ← h.digest, ← h.key]

theorem built_of_postInit {r r' : OperationalActionRequest} (h : r.postInit py = .ok r') :
    r'.Built py := by
  simp only [OperationalActionRequest.postInit, bind_eq_ok, exists_unit, require_eq_ok,
    decide_eq_true_eq, Bool.not_eq_true', pure_eq_ok, Except.ok.injEq] at h
  obtain ⟨heffect, action, haction, hsame, htarget, expired, hexpiry, hexpired, hdigest, hkey,
    rfl⟩ := h
  subst hsame hexpired
  split at hdigest <;> split at hkey <;> try contradiction
  · next hempty =>
    simp only [hempty]
    exact ⟨heffect, haction, htarget, hexpiry, rfl, rfl⟩
  · next hempty =>
    simp only [hempty, if_false]
    exact ⟨heffect, haction, htarget, hexpiry, hdigest, hkey⟩

end OperationalActionRequest

/-! ## Workflow sessions -/

/-- A session whose parts passed the checks of their constructors. -/
structure WorkflowSession.Built (py : Python) (s : WorkflowSession Ctx) : Prop where
  operational : ∀ r ∈ s.operational_action_request, r.Built py
  postInit : s.postInit py = .ok ()

/-- Build a session and the operational request in it. -/
def WorkflowSession.construct (py : Python) (s : WorkflowSession Ctx) :
    Except PyError (WorkflowSession Ctx) :=
  match s.operational_action_request with
  | none => do
      s.postInit py
      return s
  | some request => do
      let request ← request.postInit py
      let s := { s with operational_action_request := some request }
      s.postInit py
      return s

theorem WorkflowSession.built_of_construct {s s' : WorkflowSession Ctx}
    (h : s.construct py = .ok s') : s'.Built py := by
  unfold construct at h
  split at h
  · next hnone =>
    simp only [check_bind_eq_ok, pure_eq_ok, Except.ok.injEq] at h
    obtain ⟨hinit, rfl⟩ := h
    exact ⟨by simp [hnone], hinit⟩
  · simp only [bind_eq_ok, exists_unit, pure_eq_ok, Except.ok.injEq] at h
    obtain ⟨request, hrequest, hinit, rfl⟩ := h
    refine ⟨fun r hr => ?_, hinit⟩
    cases hr
    exact OperationalActionRequest.built_of_postInit hrequest

/-- A built session is built again as it is. -/
theorem WorkflowSession.Built.construct {s : WorkflowSession Ctx} (h : s.Built py) :
    s.construct py = .ok s := by
  unfold WorkflowSession.construct
  split
  · simp [h.postInit]
  · next request hsome =>
    have hsame : { s with operational_action_request := some request } = s := by
      rw [← hsome]
    simp [(h.operational request hsome).postInit, hsame, h.postInit]

/-- A workflow session as the stores hold it. -/
structure Session (py : Python) (Ctx : Type) extends WorkflowSession Ctx where
  /-- Its parts passed their checks. -/
  built : toWorkflowSession.Built py

namespace Session

theorem ext {a b : Session py Ctx} (h : a.toWorkflowSession = b.toWorkflowSession) : a = b := by
  cases a
  cases b
  cases h
  rfl

/-- The call of the constructor. -/
def build (py : Python) (s : WorkflowSession Ctx) : Except PyError (Session py Ctx) :=
  attach (s.construct py) fun a h => ⟨a, WorkflowSession.built_of_construct h⟩

/-- `replace(session, **artifacts)`, which calls the constructor again. -/
def replace (s : Session py Ctx) (artifacts : WorkflowSession Ctx → WorkflowSession Ctx) :
    Except PyError (Session py Ctx) :=
  build py (artifacts s.toWorkflowSession)

theorem build_eq_ok {s : WorkflowSession Ctx} {a : Session py Ctx} :
    build py s = .ok a ↔ s.construct py = .ok a.toWorkflowSession := by
  rw [build, attach_eq_ok]
  refine ⟨?_, fun h => ⟨a.toWorkflowSession, h, rfl⟩⟩
  rintro ⟨_, h, rfl⟩
  exact h

end Session

/-! ## Approvals -/

/-- A request whose operational metadata passed their checks. -/
def ApprovalRequest.Built (r : ApprovalRequest) : Prop :=
  ∀ m ∈ r.operational_metadata, m.postInit = .ok ()

theorem ApprovalRequest.built_of_none {r : ApprovalRequest} (h : r.operational_metadata = none) :
    r.Built := by
  simp [Built, h]

/-- An approval request as the Agent builds it. -/
structure Request extends ApprovalRequest where
  /-- Its operational metadata passed their checks. -/
  built : toApprovalRequest.Built

/-- An approval as the repository holds it. -/
structure Approval extends ApprovalResult where
  /-- The operational metadata of its request passed their checks. -/
  built : decision.request.Built

namespace Approval

theorem ext {a b : Approval} (h : a.toApprovalResult = b.toApprovalResult) : a = b := by
  cases a
  cases b
  cases h
  rfl

/-- The request that an approval is about. -/
def request (a : Approval) : ApprovalRequest := a.decision.request

/-- The status of the decision. -/
def status (a : Approval) : ApprovalStatus := a.decision.status

/-- `ApprovalResult(decision=ApprovalDecision(request=request, status=PENDING))` -/
def pending (r : Request) : Approval where
  decision :=
    { request := r.toApprovalRequest, status := .pending, reviewer := .null, reason := .null }
  built := r.built

end Approval

/-! ## Candidate planning sessions -/

/-- The checks that a planning session and its operational plan passed when they were built. -/
def CandidatePlanningSession.construct (s : CandidatePlanningSession) : Except PyError Unit := do
  match s.operational_plan with
  | none => .ok ()
  | some plan => plan.postInit
  s.postInit

/-- The checks of a constructed planning session, separately. -/
theorem CandidatePlanningSession.construct_eq_ok {s : CandidatePlanningSession} :
    s.construct = .ok () ↔
      (∀ plan ∈ s.operational_plan, plan.postInit = .ok ()) ∧ s.postInit = .ok () := by
  unfold construct
  cases h : s.operational_plan <;> simp [check_bind_eq_ok]

/-- A candidate planning session as the store holds it. -/
structure PlanningSession extends CandidatePlanningSession where
  /-- It and its operational plan passed their checks. -/
  built : toCandidatePlanningSession.construct = .ok ()

theorem PlanningSession.ext {a b : PlanningSession}
    (h : a.toCandidatePlanningSession = b.toCandidatePlanningSession) : a = b := by
  cases a
  cases b
  cases h
  rfl

end AtlasOS.Agent
