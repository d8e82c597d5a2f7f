import AtlasOS.Candidates.Collection
import AtlasOS.Candidates.Construction

/-!
# One candidate for each finding

What a collection should hold is computed finding by finding: the first finding
of each identity keeps its candidate, and a candidate that restarts a service is
enriched from its own finding. The collection agrees with it exactly when every
advisory finding can be presented, no two identities have one identifier, and
the table of findings leads each such candidate back to the resource its own
finding names.
-/

namespace AtlasOS.Candidates

theorem mapM_congr {ε α β : Type} {read read' : α → Except ε β} {items : List α}
    (h : ∀ item ∈ items, read item = read' item) : items.mapM read = items.mapM read' := by
  induction items with
  | nil => rfl
  | cons item items ih =>
    rw [List.mapM_cons, List.mapM_cons, h item List.mem_cons_self,
      ih fun other hother => h other (List.mem_cons_of_mem _ hother)]

namespace Environment

variable (env : Environment)

/-- The projection of one finding. -/
def projectFinding (finding : Finding) : Except PyError ProjectionResult :=
  executionCandidateFromFinding env.lower env.augmentedEvidenceIds env.now finding

/-- The candidate of a finding before it is enriched. -/
def candidateOf (finding : Finding) : Option ExecutionCandidate :=
  match env.projectFinding finding with
  | .ok result => result.candidate
  | .error _ => none

/-- The findings that have a candidate, with it. -/
def projected (findings : List Finding) : List (Finding × ExecutionCandidate) :=
  findings.filterMap fun finding => (env.candidateOf finding).map fun candidate =>
    (finding, candidate)

/-- What a collection should hold. -/
def expectedCandidates (findings : List Finding) :
    Except CollectionError (List ExecutionCandidate) := do
  let candidates ← (Rows.firsts (fun item => item.2.identity) (env.projected findings)).mapM
    fun item => env.enrichOperationalCandidate item.2 item.1
  return Rows.orderBy ExecutionCandidate.id candidates

/-- The collection returns, and holds the candidate of each finding. -/
def PerFinding (findings : List Finding) : Prop :=
  ∃ candidates, env.collectCurrentExecutionCandidates findings = .ok candidates ∧
    env.expectedCandidates findings = .ok candidates

/-- Whether the candidate of a finding has an identity. -/
def hasIdentity (identity : Identity) (finding : Finding) : Bool :=
  decide ((env.candidateOf finding).map ExecutionCandidate.identity = some identity)

/-! ## The target of a candidate -/

/-- The target that a finding names for a candidate, or the reason why there is none. -/
def operationalTarget (candidate : ExecutionCandidate) (finding : Finding) :
    Except CollectionError (Except OperationalTargetResolutionReason OperationalTargetReference) :=
  match stringDetail finding.details "provider_id" with
  | none => .ok (.error .selectorInvalid)
  | some provider_id =>
      match env.resolveOperationalTarget provider_id candidate.target_id
          candidate.target_type with
      | .error error =>
          match error.reason with
          | some reason => .ok (.error reason)
          | none => .error (.collection "Unable to determine current operational target state.")
      | .ok resolved => do
          let reference ← (env.targetReference resolved).mapError .raised
          return .ok reference

/-- The candidate with its target, or with the reason why it has none. -/
def settle (candidate : ExecutionCandidate) :
    Except OperationalTargetResolutionReason OperationalTargetReference → ExecutionCandidate
  | .error reason => unresolved candidate reason
  | .ok reference => env.enriched candidate reference

/-- When a collection holds what it should. -/
structure Regular (findings : List Finding) : Prop where
  /-- Every advisory finding has the fields that its candidate needs. -/
  presentable : ∀ finding ∈ findings, ∀ subject,
    projectionSubject env.lower finding = .ok subject →
    subject.recommendation_class.isAdvisory = true → Presentable env.lower finding subject
  /-- No two identities have one identifier. -/
  separate : ∀ p ∈ env.projected findings, ∀ q ∈ env.projected findings,
    buildExecutionCandidateId env.lower p.2.identity =
      buildExecutionCandidateId env.lower q.2.identity → p.2.identity = q.2.identity
  /-- The last finding under the source identifier of a restart names the same target as the
  finding of the restart. -/
  own : ∀ p ∈ Rows.firsts (fun item => item.2.identity) (env.projected findings),
    p.2.execution_intent = .restartService →
      ∃ named, findings.reverse.find? (fun finding =>
          decide (finding.id = p.2.source_recommendation_id)) = some named ∧
        ∃ target, env.operationalTarget p.2 named = .ok target ∧
          env.operationalTarget p.2 p.1 = .ok target

variable {env}
variable {candidate : ExecutionCandidate} {finding : Finding} {findings : List Finding}

theorem enrich_of_ne (h : candidate.execution_intent ≠ .restartService) :
    env.enrichOperationalCandidate candidate finding = .ok candidate := if_pos h

theorem enrich_eq (h : candidate.execution_intent = .restartService) :
    env.enrichOperationalCandidate candidate finding =
      (env.operationalTarget candidate finding).map (env.settle candidate) := by
  unfold enrichOperationalCandidate operationalTarget
  rw [if_neg (not_not.mpr h)]
  cases stringDetail finding.details "provider_id" with
  | none => rfl
  | some provider_id =>
    cases hresolve : env.resolveOperationalTarget provider_id candidate.target_id
        candidate.target_type with
    | error error => cases hreason : error.reason <;> simp [hresolve, hreason, Except.map, settle]
    | ok resolved =>
      cases hreference : env.targetReference resolved <;>
        simp [hresolve, hreference, Except.mapError, Except.map, settle]

theorem enrich_eq_ok (h : candidate.execution_intent = .restartService)
    {settled : ExecutionCandidate} :
    env.enrichOperationalCandidate candidate finding = .ok settled ↔
      ∃ target, env.operationalTarget candidate finding = .ok target ∧
        env.settle candidate target = settled := by
  rw [enrich_eq h]
  cases env.operationalTarget candidate finding <;> simp [Except.map]

@[simp] theorem id_settle
    (target : Except OperationalTargetResolutionReason OperationalTargetReference) :
    (env.settle candidate target).id = candidate.id := by
  cases target <;> simp only [settle, unresolved, enriched]

@[simp] theorem identity_settle
    (target : Except OperationalTargetResolutionReason OperationalTargetReference) :
    (env.settle candidate target).identity = candidate.identity := by
  cases target <;> simp only [settle, unresolved, enriched, ExecutionCandidate.identity]

/-- A candidate shows the target it was settled with. -/
theorem settle_injective (hnone : candidate.operational_target = none)
    {target other : Except OperationalTargetResolutionReason OperationalTargetReference}
    (h : env.settle candidate target = env.settle candidate other) : target = other := by
  have htarget := congrArg ExecutionCandidate.operational_target h
  have hreason := congrArg ExecutionCandidate.operational_target_resolution_reason h
  cases target <;> cases other <;> simp_all [settle, unresolved, enriched]

/-- A settled candidate is not one that the projection built. -/
theorem settle_ne (hnone : candidate.operational_target = none)
    (hreason : candidate.operational_target_resolution_reason = none)
    (target : Except OperationalTargetResolutionReason OperationalTargetReference) :
    env.settle candidate target ≠ candidate := by
  intro h
  cases target with
  | error reason =>
    have hsome : some reason = none :=
      (congrArg ExecutionCandidate.operational_target_resolution_reason h).trans hreason
    cases hsome
  | ok reference =>
    have hsome : some reference = none :=
      (congrArg ExecutionCandidate.operational_target h).trans hnone
    cases hsome

/-- Enriching a candidate keeps its identifier and its identity. -/
theorem keeps_of_enrich {settled : ExecutionCandidate}
    (h : env.enrichOperationalCandidate candidate finding = .ok settled) :
    settled.id = candidate.id ∧ settled.identity = candidate.identity := by
  by_cases hintent : candidate.execution_intent = .restartService
  · obtain ⟨target, -, rfl⟩ := (enrich_eq_ok hintent).mp h
    exact ⟨id_settle target, identity_settle target⟩
  · rw [enrich_of_ne hintent] at h
    obtain rfl := Except.ok.inj h
    exact ⟨rfl, rfl⟩

/-! ## The projection of a finding -/

theorem projectionSubject_spec {lower : String → String} {subject : Subject}
    (h : projectionSubject lower finding = .ok subject) :
    subject.source_finding_id = strip finding.id ∧
      subject.source_subsystem ∈ TRUSTED_SOURCE_SUBSYSTEMS := by
  simp only [projectionSubject] at h
  split at h
  · cases h
  · split at h
    · cases h
    · next htrusted =>
      split at h
      · cases h
      · split at h
        · cases h
        · split at h
          · obtain rfl := Except.ok.inj h
            exact ⟨rfl, not_not.mp htrusted⟩
          · cases h

/-- A result that is made without a candidate. -/
theorem candidate_of_subject_error {lower : String → String} {result : ProjectionResult}
    (h : projectionSubject lower finding = .error result) : result.candidate = none := by
  simp only [projectionSubject] at h
  split at h
  · exact Except.error.inj h ▸ rfl
  · split at h
    · exact Except.error.inj h ▸ rfl
    · split at h
      · exact Except.error.inj h ▸ rfl
      · split at h
        · exact Except.error.inj h ▸ rfl
        · split at h
          · cases h
          · exact Except.error.inj h ▸ rfl

/-- What is known of a candidate that the projection returns. -/
structure Built (env : Environment) (finding : Finding) (result : ProjectionResult)
    (candidate : ExecutionCandidate) : Prop where
  source_finding_id : result.source_finding_id = candidate.source_recommendation_id
  source_recommendation_id : candidate.source_recommendation_id = strip finding.id
  id : buildExecutionCandidateId env.lower candidate.identity = .ok candidate.id
  operational_target : candidate.operational_target = none
  resolution_reason : candidate.operational_target_resolution_reason = none

theorem built_of_unsupported {subject : Subject} (hsubject : subject.source_finding_id = strip finding.id)
    (h : unsupportedCandidate env.lower finding subject env.now = .ok candidate) :
    Built env finding (advisoryResult subject.source_finding_id (some candidate)) candidate := by
  obtain ⟨id, -, h⟩ := bind_eq_ok.mp h
  have hbuilt := ExecutionCandidate.constructed_of_construct h
  exact {
    source_finding_id := hbuilt.source_recommendation_id.symm
    source_recommendation_id := hbuilt.source_recommendation_id.trans hsubject
    id := hbuilt.id
    operational_target := hbuilt.operational_target
    resolution_reason := hbuilt.resolution_reason }

theorem built_of_buildCandidateResult {subject : Subject} {result : ProjectionResult}
    (hsubject : subject.source_finding_id = strip finding.id)
    (h : buildCandidateResult env.lower env.augmentedEvidenceIds env.now finding subject = .ok result)
    (hcandidate : result.candidate = some candidate) : Built env finding result candidate := by
  unfold buildCandidateResult at h
  split at h
  · obtain rfl := Except.ok.inj h
    cases hcandidate
  · split at h
    · next built hbuild =>
      obtain ⟨_, -, hbuild⟩ := bind_eq_ok.mp hbuild
      obtain ⟨_, -, hbuild⟩ := bind_eq_ok.mp hbuild
      have hbuilt := ExecutionCandidate.constructed_of_construct hbuild
      obtain rfl := Except.ok.inj h
      have hresult : (judgeCandidate env.lower env.augmentedEvidenceIds env.now subject
          built).source_finding_id = subject.source_finding_id := by
        simp only [judgeCandidate]
        split <;> rfl
      obtain ⟨status, rfl⟩ : ∃ status, candidate = { built with status := status } := by
        simp only [judgeCandidate] at hcandidate
        split at hcandidate
        · exact ⟨_, (Option.some.inj hcandidate).symm⟩
        · exact ⟨_, (Option.some.inj hcandidate).symm⟩
      exact {
        source_finding_id := hresult.trans hbuilt.source_recommendation_id.symm
        source_recommendation_id := hbuilt.source_recommendation_id.trans hsubject
        id := hbuilt.id
        operational_target := hbuilt.operational_target
        resolution_reason := hbuilt.resolution_reason }
    · obtain rfl := Except.ok.inj h
      cases hcandidate
    · cases h

theorem built_of_notEligible {subject : Subject} {result : ProjectionResult}
    (hsubject : subject.source_finding_id = strip finding.id)
    (h : notEligibleCandidateResult env.lower env.augmentedEvidenceIds env.now finding subject =
      .ok result)
    (hcandidate : result.candidate = some candidate) : Built env finding result candidate := by
  obtain ⟨first, hfirst, h⟩ := bind_eq_ok.mp h
  cases hcase : first.candidate with
  | none =>
    rw [hcase] at h
    obtain rfl := Except.ok.inj h
    rw [hcase] at hcandidate
    cases hcandidate
  | some built =>
    rw [hcase] at h
    obtain rfl := Except.ok.inj h
    obtain rfl := Option.some.inj hcandidate
    have hbuilt := built_of_buildCandidateResult hsubject hfirst hcase
    exact {
      source_finding_id := hsubject.trans hbuilt.source_recommendation_id.symm
      source_recommendation_id := hbuilt.source_recommendation_id
      id := hbuilt.id
      operational_target := hbuilt.operational_target
      resolution_reason := hbuilt.resolution_reason }

theorem built_of_projectFinding {result : ProjectionResult}
    (h : env.projectFinding finding = .ok result) (hcandidate : result.candidate = some candidate) :
    Built env finding result candidate := by
  unfold projectFinding executionCandidateFromFinding at h
  cases hsubject : projectionSubject env.lower finding with
  | error early =>
    rw [hsubject] at h
    obtain rfl := Except.ok.inj h
    rw [candidate_of_subject_error hsubject] at hcandidate
    cases hcandidate
  | ok subject =>
    have hid := (projectionSubject_spec hsubject).1
    simp only [hsubject] at h
    split_ifs at h
    · obtain ⟨built, hbuild, h⟩ := bind_eq_ok.mp h
      obtain rfl := Except.ok.inj h
      obtain rfl := Option.some.inj hcandidate
      exact built_of_unsupported hid hbuild
    · obtain rfl := Except.ok.inj h
      cases hcandidate
    · exact built_of_notEligible hid h hcandidate
    · obtain rfl := Except.ok.inj h
      cases hcandidate
    · exact built_of_buildCandidateResult hid h hcandidate

/-- The projection of a finding returns, unless the finding is advisory and cannot be presented. -/
theorem exists_projectFinding : (∃ result, env.projectFinding finding = .ok result) ↔
    ∀ subject, projectionSubject env.lower finding = .ok subject →
      subject.recommendation_class.isAdvisory = true → Presentable env.lower finding subject := by
  unfold projectFinding executionCandidateFromFinding
  cases hsubject : projectionSubject env.lower finding with
  | error early => simp
  | ok subject =>
    have htrusted := (projectionSubject_spec hsubject).2
    have hbuild := exists_buildCandidateResult env.lower env.augmentedEvidenceIds env.now finding
      subject
    simp only [Except.ok.injEq, forall_eq']
    by_cases hadvisory : subject.recommendation_class.isAdvisory = true
    · simp only [hadvisory, if_true, forall_const, ← exists_unsupportedCandidate env.now
        htrusted, bind_eq_ok, pure_eq_ok, Except.ok.injEq]
      exact ⟨fun ⟨_, built, h, _⟩ => ⟨built, h⟩, fun ⟨built, h⟩ => ⟨_, built, h, rfl⟩⟩
    · simp only [hadvisory, if_false, Bool.false_eq_true, false_implies, iff_true]
      split_ifs
      · exact ⟨_, rfl⟩
      · obtain ⟨first, hfirst⟩ := hbuild
        rw [notEligibleCandidateResult, hfirst, ok_bind]
        split <;> exact ⟨_, rfl⟩
      · exact ⟨_, rfl⟩
      · exact hbuild

/-! ## The loop -/

/-- The candidates of the results, each under the identifier of its finding. -/
def sources (results : List ProjectionResult) : List (String × ExecutionCandidate) :=
  results.filterMap fun result => result.candidate.map fun candidate =>
    (result.source_finding_id, candidate)

theorem candidateOf_eq_some : env.candidateOf finding = some candidate ↔
    ∃ result, env.projectFinding finding = .ok result ∧ result.candidate = some candidate := by
  unfold candidateOf
  cases env.projectFinding finding with
  | ok result => simp
  | error error => simp

theorem projected_cons (finding : Finding) (findings : List Finding) :
    env.projected (finding :: findings) =
      match env.candidateOf finding with
      | none => env.projected findings
      | some candidate => (finding, candidate) :: env.projected findings := by
  unfold projected
  rw [List.filterMap_cons]
  cases env.candidateOf finding <;> rfl

theorem mem_projected {item : Finding × ExecutionCandidate} :
    item ∈ env.projected findings ↔ item.1 ∈ findings ∧ env.candidateOf item.1 = some item.2 := by
  obtain ⟨finding, candidate⟩ := item
  simp only [projected, List.mem_filterMap, Option.map_eq_some_iff, Prod.mk.injEq]
  constructor
  · rintro ⟨other, hmem, found, hfound, rfl, rfl⟩
    exact ⟨hmem, hfound⟩
  · rintro ⟨hmem, hfound⟩
    exact ⟨finding, hmem, candidate, hfound, rfl, rfl⟩

/-- A finding with evidence whose candidate is built has a candidate. -/
theorem exists_candidateOf {subject : Subject} {classification : ExecutionClassification}
    (hsubject : projectionSubject env.lower finding = .ok subject)
    (hadvisory : subject.recommendation_class.isAdvisory = false)
    (hclass : classifyRecommendationClass subject.recommendation_class = some classification)
    (hevidence : subject.evidence_ids ≠ [])
    (hsafe : containsUnsafeProjectionPayload env.lower finding = false)
    (hcandidate : classifiedCandidate env.lower finding subject classification env.now =
      .ok candidate) : ∃ judged, env.candidateOf finding = some judged := by
  have hproject : env.projectFinding finding =
      .ok (judgeCandidate env.lower env.augmentedEvidenceIds env.now subject candidate) := by
    simp only [projectFinding, executionCandidateFromFinding, hsubject, hadvisory, hclass,
      hevidence, hsafe, buildCandidateResult, hcandidate, Bool.false_eq_true, if_false, reduceCtorEq]
  obtain ⟨judged, hjudged⟩ : ∃ judged, (judgeCandidate env.lower env.augmentedEvidenceIds env.now
      subject candidate).candidate = some judged := by
    unfold judgeCandidate
    simp only
    split <;> exact ⟨_, rfl⟩
  exact ⟨judged, candidateOf_eq_some.mpr ⟨_, hproject, hjudged⟩⟩

theorem exists_built {item : Finding × ExecutionCandidate} (h : item ∈ env.projected findings) :
    ∃ result, Built env item.1 result item.2 := by
  obtain ⟨result, hresult, hcandidate⟩ := candidateOf_eq_some.mp (mem_projected.mp h).2
  exact ⟨result, built_of_projectFinding hresult hcandidate⟩

/-- The loop returns when each projection does, and keeps the first candidate of each
identifier. -/
theorem projectFrom_spec (seen : List String)
    (h : ∀ finding ∈ findings, ∃ result, env.projectFinding finding = .ok result) :
    ∃ results, projectFrom env.lower env.augmentedEvidenceIds env.now seen findings = .ok results ∧
      sources results =
        ((Rows.firsts (fun item => item.2.id) (env.projected findings)).filter
          fun item => decide (item.2.id ∉ seen)).map
          fun item => (item.2.source_recommendation_id, item.2) := by
  induction findings generalizing seen with
  | nil => exact ⟨[], rfl, rfl⟩
  | cons finding findings ih =>
    have htail := fun other hother => h other (List.mem_cons_of_mem _ hother)
    obtain ⟨result, hresult⟩ := h finding List.mem_cons_self
    have hcandidateOf : env.candidateOf finding = result.candidate := by
      simp only [candidateOf, hresult]
    unfold projectFinding at hresult
    rw [projectFrom, hresult, ok_bind, projected_cons, hcandidateOf]
    cases hcandidate : result.candidate with
    | none =>
      obtain ⟨results, hresults, hsources⟩ := ih seen htail
      refine ⟨result :: results, by simp only [hresults, ok_bind, pure_eq_ok], ?_⟩
      rw [sources, List.filterMap_cons, hcandidate]
      exact hsources
    | some candidate =>
      have hbuilt := built_of_projectFinding hresult hcandidate
      simp only
      by_cases hseen : candidate.id ∈ seen
      · obtain ⟨results, hresults, hsources⟩ := ih seen htail
        refine ⟨results, by rw [if_pos hseen, hresults], ?_⟩
        rw [hsources, Rows.firsts, List.filter_cons_of_neg (by simpa using hseen),
          List.filter_filter]
        congr 1
        apply List.filter_congr
        intro item _
        by_cases hid : item.2.id = candidate.id
        · simp [hid, hseen]
        · simp [hid]
      · obtain ⟨results, hresults, hsources⟩ := ih (candidate.id :: seen) htail
        refine ⟨result :: results, by simp only [if_neg hseen, hresults, ok_bind, pure_eq_ok], ?_⟩
        have htake : sources (result :: results) =
            (candidate.source_recommendation_id, candidate) :: sources results := by
          rw [sources, List.filterMap_cons, hcandidate, ← hbuilt.source_finding_id]
          rfl
        rw [htake, hsources, Rows.firsts, List.filter_cons_of_pos (by simpa using hseen),
          List.map_cons, List.filter_filter]
        congr 2
        apply List.filter_congr
        intro item _
        simp [not_or, Bool.and_comm]

/-- The loop returns exactly when each projection does. -/
theorem exists_projectFrom (seen : List String) :
    (∃ results, projectFrom env.lower env.augmentedEvidenceIds env.now seen findings = .ok results) ↔
      ∀ finding ∈ findings, ∃ result, env.projectFinding finding = .ok result := by
  constructor
  · intro h
    induction findings generalizing seen with
    | nil => simp
    | cons finding findings ih =>
      obtain ⟨results, h⟩ := h
      rw [projectFrom] at h
      obtain ⟨result, hresult, h⟩ := bind_eq_ok.mp h
      have htail : ∃ seen results, projectFrom env.lower env.augmentedEvidenceIds env.now seen
          findings = .ok results := by
        split at h
        · obtain ⟨rest, hrest, -⟩ := bind_eq_ok.mp h
          exact ⟨_, rest, hrest⟩
        · split at h
          · exact ⟨_, _, h⟩
          · obtain ⟨rest, hrest, -⟩ := bind_eq_ok.mp h
            exact ⟨_, rest, hrest⟩
      obtain ⟨seen', htail⟩ := htail
      exact List.forall_mem_cons.mpr ⟨⟨result, hresult⟩, ih seen' htail⟩
  · intro h
    obtain ⟨results, hresults, -⟩ := projectFrom_spec seen h
    exact ⟨results, hresults⟩

/-! ## The collection -/

/-- Enriched rows, for candidates that a collection has kept. -/
theorem map_eq_of_enriched {kept : List (Finding × ExecutionCandidate)}
    {candidates : List ExecutionCandidate}
    {read : Finding × ExecutionCandidate → Except CollectionError ExecutionCandidate}
    (h : kept.mapM read = .ok candidates)
    (hkeeps : ∀ item candidate, read item = .ok candidate → candidate.id = item.2.id) :
    candidates.map ExecutionCandidate.id = kept.map fun item => item.2.id := by
  have hall := mapM_eq_ok_iff.mp h
  clear h
  induction hall with
  | nil => rfl
  | cons hread _ ih => rw [List.map_cons, List.map_cons, hkeeps _ _ hread, ih]

/-- The collection of candidates that are all projected. -/
theorem collect_eq_ok {candidates : List ExecutionCandidate} :
    env.collectCurrentExecutionCandidates findings = .ok candidates ↔
      (∀ finding ∈ findings, ∃ result, env.projectFinding finding = .ok result) ∧
        ∃ collected, (Rows.firsts (fun item => item.2.id) (env.projected findings)).mapM
            (fun item => env.collectResult (findingsById findings)
              item.2.source_recommendation_id item.2) = .ok collected ∧
          Rows.orderBy ExecutionCandidate.id collected = candidates := by
  unfold collectCurrentExecutionCandidates projectExecutionCandidates
  simp only [bind_eq_ok, mapError_eq_ok, pure_eq_ok, Except.ok.injEq]
  constructor
  · rintro ⟨results, hresults, collected, hcollected, hsorted⟩
    have hall := (exists_projectFrom []).mp ⟨results, hresults⟩
    obtain ⟨results', hresults', hsources⟩ := projectFrom_spec [] hall
    obtain rfl := Except.ok.inj (hresults.symm.trans hresults')
    simp only [List.not_mem_nil, not_false_eq_true, decide_true, List.filter_true] at hsources
    change (sources results).mapM _ = _ at hcollected
    rw [hsources, List.mapM_map] at hcollected
    exact ⟨hall, collected, hcollected, hsorted⟩
  · rintro ⟨hall, collected, hcollected, hsorted⟩
    obtain ⟨results, hresults, hsources⟩ := projectFrom_spec [] hall
    simp only [List.not_mem_nil, not_false_eq_true, decide_true, List.filter_true] at hsources
    refine ⟨results, hresults, collected, ?_, hsorted⟩
    change (sources results).mapM _ = _
    rw [hsources, List.mapM_map]
    exact hcollected

theorem expected_eq_ok {candidates : List ExecutionCandidate} :
    env.expectedCandidates findings = .ok candidates ↔
      ∃ collected, (Rows.firsts (fun item => item.2.identity) (env.projected findings)).mapM
          (fun item => env.enrichOperationalCandidate item.2 item.1) = .ok collected ∧
        Rows.orderBy ExecutionCandidate.id collected = candidates := by
  simp only [expectedCandidates, bind_eq_ok, pure_eq_ok, Except.ok.injEq]

theorem keeps_of_collectResult {findings_by_id : Dict Finding} {source_finding_id : String}
    {settled : ExecutionCandidate}
    (h : env.collectResult findings_by_id source_finding_id candidate = .ok settled) :
    settled.id = candidate.id ∧ settled.identity = candidate.identity := by
  unfold collectResult at h
  split at h
  · exact keeps_of_enrich h
  · obtain rfl := Except.ok.inj h
    exact ⟨rfl, rfl⟩

theorem findingsById_get (findings : List Finding) (id : String) :
    (findingsById findings).get id = findings.reverse.find? fun finding => decide (finding.id = id) :=
  Dict.get_ofItems_map Finding.id findings id

/-- Candidates of one identity have one identifier. -/
theorem id_eq_of_identity_eq {p q : Finding × ExecutionCandidate} (hp : p ∈ env.projected findings)
    (hq : q ∈ env.projected findings) (h : p.2.identity = q.2.identity) : p.2.id = q.2.id := by
  obtain ⟨_, hp⟩ := exists_built hp
  obtain ⟨_, hq⟩ := exists_built hq
  exact Except.ok.inj (hp.id.symm.trans (h ▸ hq.id))

/-- The condition that separates identities is about identifiers. -/
theorem separate_iff : (∀ p ∈ env.projected findings, ∀ q ∈ env.projected findings,
      buildExecutionCandidateId env.lower p.2.identity =
        buildExecutionCandidateId env.lower q.2.identity → p.2.identity = q.2.identity) ↔
    ∀ p ∈ env.projected findings, ∀ q ∈ env.projected findings,
      p.2.id = q.2.id → p.2.identity = q.2.identity := by
  refine forall₂_congr fun p hp => forall₂_congr fun q hq => ?_
  obtain ⟨_, hp⟩ := exists_built hp
  obtain ⟨_, hq⟩ := exists_built hq
  rw [hp.id, hq.id, Except.ok.injEq]

/-- Keeping the first of each identifier is then keeping the first of each identity. -/
theorem firsts_eq (h : ∀ p ∈ env.projected findings, ∀ q ∈ env.projected findings,
      p.2.id = q.2.id → p.2.identity = q.2.identity) :
    Rows.firsts (fun item => item.2.id) (env.projected findings) =
      Rows.firsts (fun item => item.2.identity) (env.projected findings) :=
  Rows.firsts_congr fun p hp q hq => ⟨h p hp q hq, id_eq_of_identity_eq hp hq⟩

/-- The table leads a candidate to what its own finding gives exactly when both name one target. -/
theorem collectResult_eq_enrich {item : Finding × ExecutionCandidate}
    (hitem : item ∈ env.projected findings)
    (hintent : item.2.execution_intent = .restartService) {settled : ExecutionCandidate} :
    (env.collectResult (findingsById findings) item.2.source_recommendation_id item.2 = .ok settled ∧
        env.enrichOperationalCandidate item.2 item.1 = .ok settled) ↔
      ∃ named, findings.reverse.find? (fun finding =>
          decide (finding.id = item.2.source_recommendation_id)) = some named ∧
        ∃ target, env.operationalTarget item.2 named = .ok target ∧
          env.operationalTarget item.2 item.1 = .ok target ∧
          env.settle item.2 target = settled := by
  obtain ⟨_, hbuilt⟩ := exists_built hitem
  rw [collectResult, findingsById_get, enrich_eq_ok hintent]
  cases hnamed : findings.reverse.find? (fun finding =>
      decide (finding.id = item.2.source_recommendation_id)) with
  | none =>
    simp only [Except.ok.injEq, reduceCtorEq, false_and, exists_false, iff_false]
    rintro ⟨rfl, target, -, hsettle⟩
    exact settle_ne hbuilt.operational_target hbuilt.resolution_reason target hsettle
  | some named =>
    simp only [Option.some.injEq, exists_eq_left', enrich_eq_ok hintent]
    constructor
    · rintro ⟨⟨target, htarget, hsettle⟩, other, hother, hsettle'⟩
      obtain rfl := settle_injective hbuilt.operational_target (hsettle.trans hsettle'.symm)
      exact ⟨target, htarget, hother, hsettle⟩
    · rintro ⟨target, htarget, hother, hsettle⟩
      exact ⟨⟨target, htarget, hsettle⟩, target, hother, hsettle⟩

/-- For a regular list of findings the rows that are kept are the same, and each is enriched the
same way. -/
theorem Regular.collected (h : env.Regular findings) :
    ∃ collected, (Rows.firsts (fun item => item.2.identity) (env.projected findings)).mapM
        (fun item => env.enrichOperationalCandidate item.2 item.1) = .ok collected ∧
      env.collectCurrentExecutionCandidates findings =
        .ok (Rows.orderBy ExecutionCandidate.id collected) := by
  set kept := Rows.firsts (fun item => item.2.identity) (env.projected findings) with hkept
  have hread : ∀ item ∈ kept, ∃ settled,
      env.collectResult (findingsById findings) item.2.source_recommendation_id item.2 =
          .ok settled ∧
        env.enrichOperationalCandidate item.2 item.1 = .ok settled := by
    intro item hitem
    by_cases hintent : item.2.execution_intent = .restartService
    · obtain ⟨named, hnamed, target, htarget, hown⟩ := h.own item hitem hintent
      exact ⟨_, (collectResult_eq_enrich (Rows.mem_of_mem_firsts hitem) hintent).mpr
        ⟨named, hnamed, target, htarget, hown, rfl⟩⟩
    · refine ⟨item.2, ?_, enrich_of_ne hintent⟩
      unfold collectResult
      split
      · exact enrich_of_ne hintent
      · rfl
  obtain ⟨collected, hcollected⟩ := exists_mapM_eq_ok.mpr fun item hitem =>
    (hread item hitem).imp fun _ hsettled => hsettled.2
  refine ⟨collected, hcollected, collect_eq_ok.mpr ⟨?_, collected, ?_, rfl⟩⟩
  · exact fun finding hfinding => exists_projectFinding.mpr (h.presentable finding hfinding)
  · rw [firsts_eq (separate_iff.mp h.separate), ← hkept, ← hcollected]
    apply mapM_congr
    intro item hitem
    obtain ⟨settled, hcollect, hown⟩ := hread item hitem
    rw [hcollect, hown]

theorem perFinding_of_regular (h : env.Regular findings) : env.PerFinding findings := by
  obtain ⟨collected, hcollected, hcollect⟩ := h.collected
  exact ⟨_, hcollect, expected_eq_ok.mpr ⟨collected, hcollected, rfl⟩⟩

theorem regular_of_perFinding (h : env.PerFinding findings) : env.Regular findings := by
  obtain ⟨candidates, hcollect, hexpected⟩ := h
  obtain ⟨hall, collected, hcollected, hsorted⟩ := collect_eq_ok.mp hcollect
  obtain ⟨owned, howned, hsorted'⟩ := expected_eq_ok.mp hexpected
  -- Both ways hold the same candidates, each once under its identifier.
  have hperm : collected.Perm owned :=
    (Rows.orderBy_perm _ collected).symm.trans
      (hsorted.trans hsorted'.symm ▸ Rows.orderBy_perm _ owned)
  have hnodup : (owned.map ExecutionCandidate.id).Nodup := by
    rw [← (hperm.map _).nodup_iff,
      map_eq_of_enriched hcollected fun item candidate hread => (keeps_of_collectResult hread).1]
    exact Rows.nodup_firsts _ _
  have hunique {a b : ExecutionCandidate} (ha : a ∈ owned) (hb : b ∈ owned) (hid : a.id = b.id) :
      a = b := List.inj_on_of_nodup_map hnodup ha hb hid
  have hseparate : ∀ p ∈ env.projected findings, ∀ q ∈ env.projected findings,
      p.2.id = q.2.id → p.2.identity = q.2.identity := by
    intro p hp q hq hid
    obtain ⟨first, hfirst, hfirstp⟩ := Rows.exists_firsts (fun item => item.2.identity) hp
    obtain ⟨other, hother, hotherq⟩ := Rows.exists_firsts (fun item => item.2.identity) hq
    obtain ⟨a, ha, hread⟩ := exists_of_mapM_eq_ok howned hfirst
    obtain ⟨b, hb, hread'⟩ := exists_of_mapM_eq_ok howned hother
    have hfirstId := id_eq_of_identity_eq (Rows.mem_of_mem_firsts hfirst) hp hfirstp
    have hotherId := id_eq_of_identity_eq (Rows.mem_of_mem_firsts hother) hq hotherq
    have hab : a.id = b.id := by
      rw [(keeps_of_enrich hread).1, (keeps_of_enrich hread').1, hfirstId, hid, hotherId]
    calc p.2.identity = first.2.identity := hfirstp.symm
      _ = a.identity := (keeps_of_enrich hread).2.symm
      _ = b.identity := by rw [hunique ha hb hab]
      _ = other.2.identity := (keeps_of_enrich hread').2
      _ = q.2.identity := hotherq
  refine {
    presentable := fun finding hfinding => exists_projectFinding.mp (hall finding hfinding)
    separate := separate_iff.mpr hseparate
    own := ?_ }
  intro item hitem hintent
  rw [firsts_eq hseparate] at hcollected
  obtain ⟨a, ha, hread⟩ := exists_of_mapM_eq_ok hcollected hitem
  obtain ⟨b, hb, hread'⟩ := exists_of_mapM_eq_ok howned hitem
  have hab : a = b := by
    apply hunique (hperm.mem_iff.mp ha) hb
    rw [(keeps_of_collectResult hread).1, (keeps_of_enrich hread').1]
  obtain ⟨named, hnamed, target, htarget, hown, -⟩ :=
    (collectResult_eq_enrich (Rows.mem_of_mem_firsts hitem) hintent).mp ⟨hread, hab ▸ hread'⟩
  exact ⟨named, hnamed, target, htarget, hown⟩

/-! ## Other findings -/

/-- The findings of an identity determine the candidates that are kept for it. -/
theorem filter_projected (findings : List Finding) (identity : Identity) :
    (env.projected findings).filter (fun item => decide (item.2.identity = identity)) =
      env.projected (findings.filter (env.hasIdentity identity)) := by
  induction findings with
  | nil => rfl
  | cons finding findings ih =>
    rw [projected_cons]
    cases hcandidate : env.candidateOf finding with
    | none =>
      rw [List.filter_cons_of_neg (by simp [hasIdentity, hcandidate])]
      exact ih
    | some candidate =>
      by_cases hidentity : candidate.identity = identity
      · rw [List.filter_cons_of_pos (by simpa using hidentity),
          List.filter_cons_of_pos (by simpa [hasIdentity, hcandidate] using hidentity),
          projected_cons, hcandidate, ih]
      · rw [List.filter_cons_of_neg (by simpa using hidentity),
          List.filter_cons_of_neg (by simpa [hasIdentity, hcandidate] using hidentity)]
        exact ih

/-- The candidate of an identity is made from the findings of that identity. -/
theorem mem_collected_iff {collected : List ExecutionCandidate}
    (h : (Rows.firsts (fun item => item.2.identity) (env.projected findings)).mapM
        (fun item => env.enrichOperationalCandidate item.2 item.1) = .ok collected)
    {settled : ExecutionCandidate} :
    settled ∈ collected ↔
      ∃ item ∈ Rows.firsts (fun item => item.2.identity)
          (env.projected (findings.filter (env.hasIdentity settled.identity))),
        env.enrichOperationalCandidate item.2 item.1 = .ok settled := by
  rw [← filter_projected, ← Rows.filter_firsts]
  simp only [List.mem_filter, decide_eq_true_eq]
  constructor
  · intro hmem
    obtain ⟨item, hitem, hread⟩ := Rows.exists_of_mem_right (mapM_eq_ok_iff.mp h) hmem
    exact ⟨item, ⟨hitem, (keeps_of_enrich hread).2.symm⟩, hread⟩
  · rintro ⟨item, ⟨hitem, -⟩, hread⟩
    obtain ⟨other, hother, hread'⟩ := exists_of_mapM_eq_ok h hitem
    exact Except.ok.inj (hread.symm.trans hread') ▸ hother

end Environment

open Environment in
/-- A collection returns and holds, for each finding, the candidate computed from that finding
alone, exactly when the findings are regular; findings of other identities then neither remove nor
change a candidate. -/
theorem collection_per_finding (env : Environment) :
    (∀ findings, env.PerFinding findings ↔ env.Regular findings) ∧
      ∀ findings others identity, env.Regular findings → env.Regular others →
        findings.filter (env.hasIdentity identity) = others.filter (env.hasIdentity identity) →
        ∃ candidates otherCandidates,
          env.collectCurrentExecutionCandidates findings = .ok candidates ∧
          env.collectCurrentExecutionCandidates others = .ok otherCandidates ∧
          ∀ candidate : ExecutionCandidate, candidate.identity = identity →
            (candidate ∈ candidates ↔ candidate ∈ otherCandidates) := by
  refine ⟨fun findings => ⟨regular_of_perFinding, perFinding_of_regular⟩, ?_⟩
  intro findings others identity hregular hothers hsame
  obtain ⟨collected, hcollected, hcollect⟩ := hregular.collected
  obtain ⟨collected', hcollected', hcollect'⟩ := hothers.collected
  refine ⟨_, _, hcollect, hcollect', ?_⟩
  rintro candidate rfl
  rw [Rows.mem_orderBy, Rows.mem_orderBy, mem_collected_iff hcollected,
    mem_collected_iff hcollected', hsame]

/-! ## A few findings -/

/-- The one resource of the one provider. -/
def mediaServer : ResolvedOperationalTarget where
  provider_id := "docker"
  resource_id := "jellyfin"
  resource_type := "service"
  resource_fingerprint := "operational-target-fingerprint-v1:0"
  current_state := "running"

/-- A home server with one provider, which has one resource. -/
def homeServer : Environment where
  lower := String.toLower
  available_evidence_ids := ["probe-1"]
  fixture_evidence_ids := []
  now := DateTime.utc ⟨0, zero_lt_MAX_MICROS⟩
  resolveOperationalTarget provider_id _ _ :=
    if provider_id = "docker" then .ok mediaServer else .error .resourceNotFound

/-- A finding that asks for a restart. -/
def restartFinding : Finding where
  id := "restart-jellyfin"
  source := "orion"
  message := "Jellyfin stopped responding."
  details := Dict.ofItems [("recommendation_class", .str "restart_service"),
    ("target_id", .str "jellyfin"), ("target_type", .str "service"),
    ("evidence_ids", .arr [.str "probe-1"]), ("provider_id", .str "docker")]

/-- A finding that recommends nothing. -/
def noticeFinding : Finding where
  id := "disk-usage"
  source := "orion"
  message := "The disk is half full."
  details := ∅

/-- An advisory finding. -/
def reviewFinding (message : String) : Finding where
  id := "review-jellyfin"
  source := "orion"
  message
  details := Dict.ofItems [("recommendation_class", .str "review_logs"),
    ("target_id", .str "jellyfin"), ("target_type", .str "service")]

/-- What the restart is identified by. -/
def restartIdentity : Identity where
  source_subsystem := "orion"
  source_recommendation_id := "restart-jellyfin"
  catalog_item_id := none
  target_id := "jellyfin"
  execution_category := .restart
  execution_intent := .restartService

open Environment in
/-- The restart alone has a candidate, whatever stands before it. -/
theorem regular_restart {findings : List Finding}
    (h : ∀ finding ∈ findings, finding = noticeFinding) :
    homeServer.Regular (findings ++ [restartFinding]) := by
  have hnotice : projectionSubject homeServer.lower noticeFinding =
      .error (plainResult .unsupported "disk-usage" .missingRecommendationClass
        "Finding does not declare a structured recommendation class.") := by decide
  have hrestart : (projectionSubject homeServer.lower restartFinding).map
      (fun subject => subject.recommendation_class.isAdvisory) = .ok false := by decide +kernel
  have hprojected : ∀ p ∈ homeServer.projected (findings ++ [restartFinding]),
      p.1 = restartFinding := by
    intro p hp
    obtain ⟨hmem, hcandidate⟩ := mem_projected.mp hp
    rcases List.mem_append.mp hmem with hmem | hmem
    · rw [h _ hmem, candidateOf, projectFinding, executionCandidateFromFinding, hnotice]
        at hcandidate
      cases hcandidate
    · exact List.mem_singleton.mp hmem
  constructor
  · intro finding hfinding subject hsubject hadvisory
    rcases List.mem_append.mp hfinding with hmem | hmem
    · rw [h _ hmem, hnotice] at hsubject
      cases hsubject
    · rw [List.mem_singleton.mp hmem] at hsubject
      rw [hsubject] at hrestart
      exact absurd (hadvisory.symm.trans (Except.ok.inj hrestart)) (by decide)
  · intro p hp q hq _
    have hp' := (mem_projected.mp hp).2
    have hq' := (mem_projected.mp hq).2
    rw [hprojected p hp] at hp'
    rw [hprojected q hq] at hq'
    rw [Option.some.inj (hp'.symm.trans hq')]
  · intro p hp _
    have hmem := Rows.mem_of_mem_firsts hp
    have hown := hprojected p hmem
    obtain ⟨_, hbuilt⟩ := exists_built hmem
    have hid : p.2.source_recommendation_id = restartFinding.id := by
      rw [hbuilt.source_recommendation_id, hown]
      decide
    have hprovider : stringDetail restartFinding.details "provider_id" = some "docker" := by
      decide
    have hresolve : homeServer.resolveOperationalTarget "docker" p.2.target_id p.2.target_type =
        .ok mediaServer := by simp only [homeServer, if_true]
    obtain ⟨reference, hreference⟩ : ∃ reference, homeServer.targetReference mediaServer =
        .ok reference := ⟨⟨"docker", "jellyfin", "service", "operational-target-fingerprint-v1:0",
      none, "running"⟩, by decide +kernel⟩
    have htarget : homeServer.operationalTarget p.2 restartFinding = .ok (.ok reference) := by
      simp only [operationalTarget, hprovider, hresolve, hreference, Except.mapError, ok_bind,
        pure_eq_ok]
    refine ⟨restartFinding, ?_, .ok reference, htarget, hown ▸ htarget⟩
    rw [hid, List.reverse_append, List.reverse_singleton, List.singleton_append, List.find?_cons]
    simp

/-- A notice before the restart leaves its candidate as it is. -/
theorem collection_per_finding_notice :
    ∃ candidates otherCandidates,
      homeServer.collectCurrentExecutionCandidates [restartFinding] = .ok candidates ∧
        homeServer.collectCurrentExecutionCandidates [noticeFinding, restartFinding] =
          .ok otherCandidates ∧
        ∀ candidate : ExecutionCandidate, candidate.identity = restartIdentity →
          (candidate ∈ candidates ↔ candidate ∈ otherCandidates) := by
  have hnotice : homeServer.hasIdentity restartIdentity noticeFinding = false := by decide
  refine (collection_per_finding homeServer).2 [restartFinding] [noticeFinding, restartFinding]
    restartIdentity ?_ ?_ ?_
  · exact @regular_restart [] (by simp)
  · exact @regular_restart [noticeFinding] (by simp)
  · rw [List.filter_cons_of_neg (Bool.eq_false_iff.mp hnotice)]

/-- An advisory finding whose message has a semicolon fails the collection. -/
theorem collection_not_per_finding :
    ¬∀ (env : Environment) (findings : List Finding),
      (∀ provider_id resource_id resource_type error,
        env.resolveOperationalTarget provider_id resource_id resource_type = .error error →
          error.reason.isSome = true) →
      env.PerFinding findings := by
  intro h
  obtain ⟨candidates, hcollect, -⟩ := h homeServer [reviewFinding "Read the logs; then report."]
    (by
      intro provider_id resource_id resource_type error herror
      change (if _ then _ else _) = _ at herror
      split_ifs at herror
      obtain rfl := Except.error.inj herror
      rfl)
  obtain ⟨hprojects, -⟩ := Environment.collect_eq_ok.mp hcollect
  have hadvisory : (projectionSubject homeServer.lower
      (reviewFinding "Read the logs; then report.")).map
        (fun subject => subject.recommendation_class.isAdvisory) = .ok true := by decide +kernel
  cases hsubject : projectionSubject homeServer.lower
      (reviewFinding "Read the logs; then report.") with
  | error e =>
    rw [hsubject] at hadvisory
    cases hadvisory
  | ok subject =>
    rw [hsubject] at hadvisory
    have hpresentable := Environment.exists_projectFinding.mp
      (hprojects _ (List.mem_singleton_self _)) subject hsubject (Except.ok.inj hadvisory)
    exact absurd hpresentable.message.safe (by decide +kernel)

end AtlasOS.Candidates
