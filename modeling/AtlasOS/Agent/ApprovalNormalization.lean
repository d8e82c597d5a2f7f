import AtlasOS.Agent.ApprovalEngine

/-!
# Normalising an approval again

What the engine has normalised it accepts again and leaves as it is. Each part of a
request is normalised to a value that is its own normal form; the expiry of an approved
operational action is the only check that does not depend on the decision alone.
-/

namespace AtlasOS.Agent.ApprovalEngine

/-! ## Texts -/

theorem nonblank_eq_ok {message text result : String} :
    nonblank message text = .ok result ↔ strip text ≠ "" ∧ strip text = result := by
  unfold nonblank
  split_ifs with hblank <;> simp [hblank]

theorem nonblank_again {message text result : String} (h : nonblank message text = .ok result) :
    nonblank message result = .ok result := by
  obtain ⟨hne, rfl⟩ := nonblank_eq_ok.mp h
  exact nonblank_eq_ok.mpr ⟨by rwa [strip_strip], strip_strip text⟩

theorem mapM_nonblank_again {message : String} {items results : List String}
    (h : items.mapM (nonblank message) = .ok results) :
    results.mapM (nonblank message) = .ok results := by
  rw [mapM_eq_ok_iff] at h ⊢
  induction h with
  | nil => exact .nil
  | cons hitem _ ih => exact .cons (nonblank_again hitem) ih

theorem stripOptional_again {value result : Unchecked} (h : stripOptional value = .ok result) :
    stripOptional result = .ok result ∧ present result = present value := by
  cases value with
  | null =>
    cases h
    exact ⟨rfl, rfl⟩
  | str text =>
    cases h
    simp [stripOptional, present, stripValue, Except.map]
  | bool _ => cases h
  | int _ => cases h
  | float _ => cases h
  | arr _ => cases h
  | obj _ => cases h

/-! ## Verification checks -/

theorem normalizeEnvironment_again {names : List String}
    {environment result : List VerificationApprovalEnvironment}
    (h : normalizeEnvironment names environment = .ok result) :
    normalizeEnvironment names result = .ok result := by
  induction environment generalizing names result with
  | nil =>
    cases h
    rfl
  | cons entry later ih =>
    simp only [normalizeEnvironment, bind_eq_ok, exists_unit, demand_eq_ok] at h
    obtain ⟨hname, hdigest, environment, hlater, hresult⟩ := h
    cases hresult
    simp only [normalizeEnvironment, strip_strip, bind_eq_ok, exists_unit, demand_eq_ok]
    exact ⟨hname, hdigest, environment, ih hlater, rfl⟩

theorem normalizeCheck_again {identifier : String} {check result : VerificationApprovalCheck}
    (h : normalizeCheck identifier check = .ok result) :
    result.identifier = identifier ∧ normalizeCheck identifier result = .ok result := by
  simp only [normalizeCheck, bind_eq_ok, exists_unit, demand_eq_ok] at h
  obtain ⟨hcommand, positive, htimeout, hpositive, environment, henvironment, hresult⟩ := h
  cases hresult
  refine ⟨rfl, ?_⟩
  simp only [Bool.and_eq_true, decide_eq_true_eq, List.all_eq_true] at hcommand
  have hstripped : (check.command.map strip).map strip = check.command.map strip := by
    rw [List.map_map]
    exact List.map_congr_left fun argument _ => strip_strip argument
  have hnonblank : ∀ argument ∈ check.command.map strip, strip argument ≠ "" := by
    rw [List.forall_mem_map]
    intro argument hmem
    rw [strip_strip]
    exact hcommand.2 argument hmem
  simp only [normalizeCheck, bind_eq_ok, exists_unit, demand_eq_ok]
  refine ⟨?_, positive, htimeout, hpositive, environment, normalizeEnvironment_again henvironment, ?_⟩
  · simp only [Bool.and_eq_true, decide_eq_true_eq, List.all_eq_true]
    exact ⟨fun hnil => hcommand.1 (List.map_eq_nil_iff.mp hnil), hnonblank⟩
  · rw [hstripped]
    rfl

theorem normalizeChecks_again {identifiers : List String}
    {checks results : List VerificationApprovalCheck}
    (h : normalizeChecks identifiers checks = .ok results) :
    normalizeChecks identifiers results = .ok results := by
  induction checks generalizing identifiers results with
  | nil =>
    cases h
    rfl
  | cons check later ih =>
    simp only [normalizeChecks, bind_eq_ok, exists_unit, demand_eq_ok] at h
    obtain ⟨identifier, hidentifier, hunique, normalized, hcheck, rest, hlater, hresults⟩ := h
    cases hresults
    obtain ⟨hsame, hagain⟩ := normalizeCheck_again hcheck
    simp only [normalizeChecks, bind_eq_ok, exists_unit, demand_eq_ok, hsame]
    exact ⟨identifier, nonblank_again hidentifier, hunique, normalized, hagain, rest, ih hlater, rfl⟩

/-- Without checks there is none in the result, and only then. -/
theorem normalizeChecks_ne_nil {checks results : List VerificationApprovalCheck}
    (h : normalizeChecks [] checks = .ok results) (hne : checks ≠ []) : results ≠ [] := by
  cases checks with
  | nil => exact absurd rfl hne
  | cons check later =>
    simp only [normalizeChecks, bind_eq_ok, exists_unit, demand_eq_ok] at h
    obtain ⟨-, -, -, normalized, -, rest, -, hresults⟩ := h
    cases hresults
    exact List.cons_ne_nil _ _

/-- What the checks of a request are normalised to. -/
theorem normalizeVerificationChecks_again {request normalized : ApprovalRequest}
    (hpurpose : normalized.purpose = request.purpose)
    (hworkflow : present normalized.workflow_id = present request.workflow_id)
    (h : normalizeVerificationChecks request = .ok normalized.verification_checks) :
    normalizeVerificationChecks normalized = .ok normalized.verification_checks := by
  unfold normalizeVerificationChecks at h ⊢
  rw [hpurpose, hworkflow]
  split_ifs at h ⊢ with hother
  · rw [check_bind_eq_ok, demand_eq_ok] at h ⊢
    have hnone : [] = normalized.verification_checks := Except.ok.inj h.2
    exact ⟨by rw [← hnone]; rfl, h.2⟩
  · simp only [bind_eq_ok, exists_unit, demand_eq_ok] at h ⊢
    obtain ⟨named, hnamed, hyes, hsome, hchecks⟩ := h
    rw [decide_eq_true_eq] at hsome
    have hne := normalizeChecks_ne_nil hchecks hsome
    exact ⟨named, hnamed, hyes, decide_eq_true hne, normalizeChecks_again hchecks⟩

/-- Only verification approvals have checks. -/
theorem verification_checks_eq_nil {request : ApprovalRequest}
    {checks : List VerificationApprovalCheck}
    (h : normalizeVerificationChecks request = .ok checks) (hother : request.purpose ≠ .verification) :
    checks = [] := by
  simp only [normalizeVerificationChecks, if_pos hother, check_bind_eq_ok] at h
  exact (Except.ok.inj h.2).symm

/-! ## Commit metadata -/

theorem checkReviewedFiles_iff {seen files : List Path} :
    checkReviewedFiles seen files = .ok () ↔
      (∀ path ∈ files, repositoryRelative path = true ∧ path ∉ seen) ∧ files.Nodup := by
  induction files generalizing seen with
  | nil => simp [checkReviewedFiles]
  | cons path later ih =>
    simp only [checkReviewedFiles, check_bind_eq_ok, demand_eq_ok, ih, decide_eq_true_eq, List.mem_cons,
      forall_eq_or_imp, not_or, List.nodup_cons]
    constructor
    · rintro ⟨hrelative, hseen, hlater, hnodup⟩
      exact ⟨⟨⟨hrelative, hseen⟩, fun other hmem => ⟨(hlater other hmem).1, (hlater other hmem).2.2⟩⟩,
        fun hmem => (hlater path hmem).2.1 rfl, hnodup⟩
    · rintro ⟨⟨⟨hrelative, hseen⟩, hlater⟩, hfirst, hnodup⟩
      refine ⟨hrelative, hseen, fun other hmem => ⟨(hlater other hmem).1, ?_, (hlater other hmem).2⟩,
        hnodup⟩
      rintro rfl
      exact hfirst hmem

/-- The order of the reviewed files does not matter. -/
theorem checkReviewedFiles_sorted {files : List Path} (h : checkReviewedFiles [] files = .ok ()) :
    checkReviewedFiles [] (Path.sorted files) = .ok () := by
  have hperm := Path.perm_sorted files
  rw [checkReviewedFiles_iff] at h ⊢
  exact ⟨fun path hmem => h.1 path (hperm.mem_iff.mp hmem), hperm.nodup_iff.mpr h.2⟩

theorem normalizeMetadata_again {metadata result : CommitApprovalMetadata}
    (h : normalizeMetadata metadata = .ok result) : normalizeMetadata result = .ok result := by
  simp only [normalizeMetadata, bind_eq_ok, exists_unit, demand_eq_ok] at h
  obtain ⟨hsome, hfiles, hdigest, hmessage, hnormal, hresult⟩ := h
  cases hresult
  rw [decide_eq_true_eq] at hsome hnormal
  have hne : Path.sorted metadata.reviewed_files ≠ [] := fun hnil =>
    hsome (List.nil_perm.mp (hnil ▸ Path.perm_sorted metadata.reviewed_files))
  simp only [normalizeMetadata, hnormal, bind_eq_ok, exists_unit, demand_eq_ok,
    Path.sorted_sorted]
  refine ⟨decide_eq_true hne, checkReviewedFiles_sorted hfiles, hdigest, ?_, rfl, rfl⟩
  rwa [hnormal] at hmessage

theorem normalizeCommitMetadata_again {request normalized : ApprovalRequest}
    (hpurpose : normalized.purpose = request.purpose)
    (hworkflow : present normalized.workflow_id = present request.workflow_id)
    (hchecks : normalizeVerificationChecks request = .ok normalized.verification_checks)
    (h : normalizeCommitMetadata request = .ok normalized.commit_metadata) :
    normalizeCommitMetadata normalized = .ok normalized.commit_metadata := by
  unfold normalizeCommitMetadata at h ⊢
  rw [hpurpose, hworkflow]
  split_ifs at h ⊢ with hother
  · rw [check_bind_eq_ok, demand_eq_ok] at h ⊢
    have hnone : none = normalized.commit_metadata := Except.ok.inj h.2
    exact ⟨by rw [← hnone]; rfl, h.2⟩
  · have hcommit : request.purpose ≠ .verification := by
      rw [not_not.mp hother]
      exact nofun
    have hnil := verification_checks_eq_nil hchecks hcommit
    simp only [bind_eq_ok, exists_unit, demand_eq_ok] at h ⊢
    obtain ⟨named, hnamed, hyes, -, hmetadata⟩ := h
    refine ⟨named, hnamed, hyes, decide_eq_true hnil, ?_⟩
    split at hmetadata
    · cases hmetadata
    · obtain ⟨result, hresult, heq⟩ := map_eq_ok.mp hmetadata
      rw [← heq]
      simp only [normalizeMetadata_again hresult, Except.map]

/-! ## Operational metadata -/

/-- Only commit approvals have commit metadata. -/
theorem commit_metadata_eq_none {request : ApprovalRequest} {metadata : Option CommitApprovalMetadata}
    (h : normalizeCommitMetadata request = .ok metadata) (hother : request.purpose ≠ .commit) :
    metadata = none := by
  simp only [normalizeCommitMetadata, if_pos hother, check_bind_eq_ok] at h
  exact (Except.ok.inj h.2).symm

/-- The operational metadata are kept as they are. -/
theorem operational_metadata_eq {request : ApprovalRequest}
    {metadata : Option OperationalApprovalMetadata}
    (h : normalizeOperationalMetadata request = .ok metadata) :
    metadata = request.operational_metadata := by
  unfold normalizeOperationalMetadata at h
  split_ifs at h with hother
  · rw [check_bind_eq_ok, demand_eq_ok, Option.isNone_iff_eq_none] at h
    rw [h.1]
    exact (Except.ok.inj h.2).symm
  · simp only [bind_eq_ok, exists_unit, demand_eq_ok] at h
    obtain ⟨-, -, named, -, -, h⟩ := h
    split at h
    · cases h
    · next found hfound =>
      simp only [bind_eq_ok, exists_unit, demand_eq_ok] at h
      obtain ⟨-, expired, -, -, heq⟩ := h
      rw [hfound]
      exact (Except.ok.inj heq).symm

/-- The parts of a request that the operational metadata depend on, in a request and in its normal
form. -/
structure SameOperational (request normalized : ApprovalRequest) : Prop where
  purpose : normalized.purpose = request.purpose
  workflow_id : present normalized.workflow_id = present request.workflow_id
  operational_metadata : normalized.operational_metadata = request.operational_metadata
  working_directory :
    normalized.requested_working_directory = request.requested_working_directory
  command : request.requested_command = [] → normalized.requested_command = []
  checks : request.purpose = .operationalAction → normalized.verification_checks = []
  commit : request.purpose = .operationalAction → normalized.commit_metadata = none

theorem normalizeOperationalMetadata_again {request normalized : ApprovalRequest}
    (hsame : SameOperational request normalized) {metadata : Option OperationalApprovalMetadata}
    (h : normalizeOperationalMetadata request = .ok metadata) :
    normalizeOperationalMetadata normalized = .ok metadata := by
  unfold normalizeOperationalMetadata at h ⊢
  rw [hsame.purpose, hsame.workflow_id, hsame.operational_metadata, hsame.working_directory]
  split_ifs at h ⊢ with hother
  · exact h
  · rw [not_not] at hother
    simp only [bind_eq_ok, exists_unit, demand_eq_ok, Bool.and_eq_true, decide_eq_true_eq] at h ⊢
    obtain ⟨-, ⟨hcommand, hdirectory⟩, hrest⟩ := h
    refine ⟨⟨?_, hsame.checks hother⟩, ⟨hsame.command hcommand, hdirectory⟩, hrest⟩
    rw [hsame.commit hother]
    rfl

/-! ## Requests and decisions -/

/-- A normalized request is its own normal form. -/
theorem normalizeRequest_again {request normalized : ApprovalRequest}
    (h : normalizeRequest request = .ok normalized) :
    normalizeRequest normalized = .ok normalized ∧ normalized.purpose = request.purpose ∧
      normalized.operational_metadata = request.operational_metadata := by
  simp only [normalizeRequest, bind_eq_ok, exists_unit, demand_eq_ok] at h
  obtain ⟨identifier, hidentifier, checkpoint_id, hcheckpoint, title, htitle, tool, htool, rationale,
    hrationale, hcommandNeeded, command, hcommand, workflow_id, hworkflow, checks, hchecks, commit,
    hcommit, operational, hoperational, hresult⟩ := h
  have hmetadata := operational_metadata_eq hoperational
  obtain ⟨hworkflowAgain, hpresent⟩ := stripOptional_again hworkflow
  have hlength : command.length = request.requested_command.length :=
    (mapM_eq_ok_iff.mp hcommand).length_eq.symm
  have hnil : request.requested_command = [] ↔ command = [] := by
    rw [← List.length_eq_zero_iff, ← hlength, List.length_eq_zero_iff]
  cases hresult
  have hsame : SameOperational request ⟨identifier, checkpoint_id, title, tool, command, rationale,
      workflow_id, request.requested_working_directory, request.purpose, checks, commit,
      operational⟩ :=
    { purpose := rfl
      workflow_id := hpresent
      operational_metadata := hmetadata
      working_directory := rfl
      command := hnil.mp
      checks := fun hpurpose => verification_checks_eq_nil hchecks (by simp [hpurpose])
      commit := fun hpurpose => commit_metadata_eq_none hcommit (by simp [hpurpose]) }
  refine ⟨?_, rfl, hmetadata⟩
  simp only [normalizeRequest, bind_eq_ok, exists_unit, demand_eq_ok]
  refine ⟨identifier, nonblank_again hidentifier, checkpoint_id, nonblank_again hcheckpoint, title,
    nonblank_again htitle, tool, nonblank_again htool, rationale, nonblank_again hrationale, ?_,
    command, mapM_nonblank_again hcommand, workflow_id, hworkflowAgain, checks, ?_, commit, ?_,
    operational, normalizeOperationalMetadata_again hsame hoperational, rfl⟩
  · simpa only [ne_eq, ← hnil] using hcommandNeeded
  · exact normalizeVerificationChecks_again hsame.purpose hsame.workflow_id hchecks
  · exact normalizeCommitMetadata_again hsame.purpose hsame.workflow_id hchecks hcommit

/-- An approved operational action has not expired at a reading of the clock. -/
def InForce (now : DateTime) (decision : ApprovalDecision) : Prop :=
  decision.status = .approved → checkExpiry now decision.request = .ok ()

/-- The checks of a decision, apart from the expiry, are those of its normal form. -/
theorem checkDecision_iff {now now' : DateTime} {decision : ApprovalDecision}
    {request : ApprovalRequest} {reviewer reason : Unchecked}
    (hpurpose : request.purpose = decision.request.purpose)
    (hmetadata : request.operational_metadata = decision.request.operational_metadata)
    (hreviewer : stripOptional decision.reviewer = .ok reviewer)
    (hreason : stripOptional decision.reason = .ok reason)
    (h : checkDecision now decision = .ok ()) :
    checkDecision now' ⟨request, decision.status, reviewer, reason⟩ = .ok () ↔
      InForce now' decision := by
  have hpresent := (stripOptional_again hreviewer).2
  have hreasoned := (stripOptional_again hreason).2
  have hexpiry : checkExpiry now' request = checkExpiry now' decision.request := by
    simp only [checkExpiry, hpurpose, hmetadata]
  unfold checkDecision at h ⊢
  unfold InForce
  cases hstatus : decision.status with
  | pending =>
    rw [hstatus] at h
    simp only [demand_eq_ok, decide_eq_true_eq] at h ⊢
    rw [h] at hreviewer
    cases hreviewer
    exact ⟨fun _ hno => absurd hno (by decide), fun _ => rfl⟩
  | approved =>
    rw [hstatus] at h
    simp only [bind_eq_ok, exists_unit, demand_eq_ok] at h ⊢
    obtain ⟨reviewed, hreviewed, hyes, -⟩ := h
    rw [hexpiry, hpresent]
    constructor
    · rintro ⟨-, -, -, hforce⟩ -
      exact hforce
    · intro hforce
      exact ⟨reviewed, hreviewed, hyes, hforce trivial⟩
  | rejected =>
    rw [hstatus] at h
    simp only [bind_eq_ok, exists_unit, demand_eq_ok] at h ⊢
    rw [hpresent, hreasoned]
    exact ⟨fun _ hno => absurd hno (by decide), fun _ => h⟩

theorem inForce_of_checkDecision {now : DateTime} {decision : ApprovalDecision}
    (h : checkDecision now decision = .ok ()) : InForce now decision := by
  intro hstatus
  rw [checkDecision, hstatus] at h
  simp only [bind_eq_ok, exists_unit, demand_eq_ok] at h
  obtain ⟨-, -, -, hforce⟩ := h
  exact hforce

/-- What is accepted once is accepted again, as it was normalized; an approved operational action
only until it expires. -/
theorem evaluate_again (now now' : DateTime) (decision : ApprovalDecision) (result : ApprovalResult)
    (h : evaluate now decision = .ok result) :
    evaluate now result.decision = .ok result ∧
      (evaluate now' result.decision = .ok result ↔ InForce now' decision) := by
  simp only [evaluate, bind_eq_ok, exists_unit] at h
  obtain ⟨request, hrequest, hchecked, reviewer, hreviewer, reason, hreason, hresult⟩ := h
  cases hresult
  obtain ⟨hagain, hpurpose, hmetadata⟩ := normalizeRequest_again hrequest
  have hiff (time : DateTime) :
      evaluate time ⟨request, decision.status, reviewer, reason⟩ =
          .ok ⟨⟨request, decision.status, reviewer, reason⟩⟩ ↔ InForce time decision := by
    rw [← checkDecision_iff hpurpose hmetadata hreviewer hreason hchecked]
    simp only [evaluate, bind_eq_ok, exists_unit]
    constructor
    · rintro ⟨-, -, hdecision, -⟩
      exact hdecision
    · intro hdecision
      exact ⟨request, hagain, hdecision, reviewer, (stripOptional_again hreviewer).1, reason,
        (stripOptional_again hreason).1, rfl⟩
  exact ⟨(hiff now).mpr (inForce_of_checkDecision hchecked), hiff now'⟩

/-- The approval of a restart, which expires at the second microsecond. -/
def restartApproval : ApprovalDecision where
  request :=
    { identifier := "a"
      checkpoint_id := "c"
      title := "t"
      requested_tool := "p"
      requested_command := []
      rationale := "r"
      workflow_id := .str "w"
      purpose := .operationalAction
      operational_metadata := some
        { action_request_id := "a"
          action_request_digest := "d"
          candidate_id := "c"
          candidate_fingerprint := "f"
          operational_plan_fingerprint := "f"
          provider_id := "p"
          resource_id := "r"
          resource_type := "t"
          target_fingerprint := "f"
          target_version := .null
          operation_intent := "restart"
          disruption_scope := "s"
          verification_digest := "d"
          generated_at := .utc ⟨1, one_lt_MAX_MICROS⟩
          expires_at := .utc ⟨2, two_lt_MAX_MICROS⟩ } }
  status := .approved
  reviewer := .str "operator"

theorem evaluate_restart :
    evaluate (.utc ⟨1, by decide⟩) restartApproval = .ok ⟨restartApproval⟩ := by
  decide

theorem evaluate_again_restart :
    evaluate (.utc ⟨1, by decide⟩) restartApproval = .ok ⟨restartApproval⟩ :=
  (evaluate_again (.utc ⟨1, by decide⟩) (.utc ⟨1, by decide⟩) restartApproval ⟨restartApproval⟩
    evaluate_restart).1

/-- An approval that was accepted is refused once the clock has passed its expiry. -/
theorem evaluate_expired :
    evaluate (.utc ⟨1, by decide⟩) restartApproval = .ok ⟨restartApproval⟩ ∧
      evaluate (.utc ⟨2, by decide⟩) restartApproval =
        .error (.approvalValidationError "Operational approval request has expired") :=
  ⟨evaluate_restart, by decide⟩

end AtlasOS.Agent.ApprovalEngine
