import AtlasOS.Discovery.Verdicts

/-!
# Findings of compatibility checks

A check that does not pass has a finding, and every finding refers to the evidence
of its check. So the status of an assessment is read off the checks.
-/

namespace AtlasOS.Discovery

/-! ## Findings of the checks -/

/-- A check of a type that passes, without a finding, or that has a finding which says why it does
not. -/
def Check.Ordinary (c : Check) (check_type : CompatibilityCheckType) : Prop :=
  c.check_type = check_type ∧
    ((c.severity = none ∧ c.status = .compatible) ∨
      (c.severity ≠ none ∧ (c.status = .insufficientInformation ∨ c.status = .incompatible)))

theorem ordinary_evidence {check_type : CompatibilityCheckType}
    {subject message source requirement observed : String} {fact : Option String} :
    (evidenceCheck check_type subject message source requirement observed fact).Ordinary
      check_type :=
  ⟨rfl, .inl ⟨rfl, rfl⟩⟩

theorem ordinary_unknown {check_type : CompatibilityCheckType}
    {subject requirement fact_name message : String} :
    (unknownCheck check_type subject requirement fact_name message).Ordinary check_type :=
  ⟨rfl, .inr ⟨by simp [unknownCheck], .inl rfl⟩⟩

theorem ordinary_incompatible {check_type : CompatibilityCheckType} {subject requirement : String}
    {observed : Option String} {message fact : String} :
    (incompatibleCheck check_type subject requirement observed message fact).Ordinary check_type :=
  ⟨rfl, .inr ⟨by simp [incompatibleCheck], .inr rfl⟩⟩

section Ordinary

variable {context : CompatibilityContext} {item : DiscoveryItem}

theorem ordinary_capabilities : ∀ c ∈ evaluateCapabilities item context, c.Ordinary .capability := by
  intro c hc
  obtain ⟨id, -, rfl⟩ := List.mem_map.mp hc
  simp only [capabilityCheck]
  cases context.capabilities with
  | none => exact ordinary_unknown
  | some observed =>
    simp only
    split_ifs
    · exact ordinary_evidence
    · exact ordinary_incompatible

theorem ordinary_minimum {general : Amount → String} {check_type : CompatibilityCheckType}
    {subject : String} {requirement observed : Option Amount} {fact_name unit : String} :
    ∀ c ∈ evaluateMinimum general check_type subject requirement observed fact_name unit,
      c.Ordinary check_type := by
  intro c hc
  cases requirement with
  | none => simp [evaluateMinimum] at hc
  | some amount =>
    cases observed with
    | none =>
      rw [List.mem_singleton.mp hc]
      exact ordinary_unknown
    | some seen =>
      simp only [evaluateMinimum] at hc
      split_ifs at hc
      · rw [List.mem_singleton.mp hc]
        exact ordinary_evidence
      · rw [List.mem_singleton.mp hc]
        exact ordinary_incompatible

theorem ordinary_gpu {gpu_available : Option Bool} : (gpuCheck gpu_available).Ordinary .resource := by
  rcases gpu_available with _ | available
  · exact ordinary_unknown
  · cases available with
    | true => exact ordinary_evidence
    | false => exact ordinary_incompatible

theorem ordinary_resources {general : Amount → String} :
    ∀ c ∈ evaluateResources general item context, c.Ordinary .resource := by
  intro c hc
  simp only [evaluateResources, List.mem_append] at hc
  rcases hc with (((hc | hc) | hc) | hc) | hc
  · exact ordinary_minimum c hc
  · exact ordinary_minimum c hc
  · exact ordinary_minimum c hc
  · split_ifs at hc
    · rw [List.mem_singleton.mp hc]
      exact ordinary_gpu
    · cases hc
  · exact ordinary_minimum c hc

theorem ordinary_allowed {subject : String} {allowed : List String} {observed : Option String}
    {fact_name : String} :
    ∀ c ∈ evaluateAllowedValues subject allowed observed fact_name, c.Ordinary .platform := by
  intro c hc
  simp only [evaluateAllowedValues] at hc
  split_ifs at hc
  · cases hc
  cases observed with
  | none =>
    rw [List.mem_singleton.mp hc]
    exact ordinary_unknown
  | some seen =>
    simp only at hc
    split_ifs at hc
    · rw [List.mem_singleton.mp hc]
      exact ordinary_evidence
    · rw [List.mem_singleton.mp hc]
      exact ordinary_incompatible

theorem ordinary_required_set {subject : String} {required : List String}
    {observed : Option (List String)} {fact_name : String} :
    ∀ c ∈ evaluateRequiredSet subject required observed fact_name, c.Ordinary .platform := by
  intro c hc
  simp only [evaluateRequiredSet] at hc
  split_ifs at hc
  · cases hc
  cases observed with
  | none =>
    rw [List.mem_singleton.mp hc]
    exact ordinary_unknown
  | some seen =>
    obtain ⟨value, -, rfl⟩ := List.mem_map.mp hc
    simp only [requiredValueCheck]
    split_ifs
    · exact ordinary_evidence
    · exact ordinary_incompatible

theorem ordinary_platform : ∀ c ∈ evaluatePlatform item context, c.Ordinary .platform := by
  intro c hc
  simp only [evaluatePlatform, List.mem_append] at hc
  rcases hc with ((hc | hc) | hc) | hc
  · exact ordinary_allowed c hc
  · exact ordinary_allowed c hc
  · exact ordinary_required_set c hc
  · exact ordinary_required_set c hc

theorem ordinary_port (open_ports : Option (List ObservedPort)) (port : PortRequirement) :
    (portCheck open_ports port).Ordinary .network := by
  cases open_ports with
  | none =>
    simp only [portCheck]
    split_ifs
    · exact ordinary_unknown
    · exact ordinary_evidence
  | some ports =>
    simp only [portCheck]
    split_ifs
    · exact ordinary_evidence
    · exact ordinary_incompatible
    · exact ordinary_evidence

theorem ordinary_network : ∀ c ∈ evaluateNetwork item context, c.Ordinary .network := by
  intro c hc
  simp only [evaluateNetwork, List.mem_append] at hc
  rcases hc with (hc | hc) | hc
  · split_ifs at hc
    · rw [List.mem_singleton.mp hc]
      exact ordinary_unknown
    · cases hc
  · split_ifs at hc
    · rw [List.mem_singleton.mp hc]
      exact ordinary_unknown
    · cases hc
  · obtain ⟨port, -, rfl⟩ := List.mem_map.mp hc
    exact ordinary_port _ port

theorem ordinary_version {r : DiscoveryRelationship} {target : DiscoveryItem}
    {service : ObservedService} : ∀ c ∈ evaluateVersionBounds r target service, c.Ordinary .version := by
  intro c hc
  simp only [evaluateVersionBounds] at hc
  split at hc
  · cases hc
  split at hc
  · split_ifs at hc
    · rw [List.mem_singleton.mp hc]
      exact ordinary_unknown
    · rw [List.mem_singleton.mp hc]
      exact ordinary_incompatible
    · rw [List.mem_singleton.mp hc]
      exact ordinary_incompatible
    · rw [List.mem_singleton.mp hc]
      exact ⟨rfl, .inl ⟨rfl, rfl⟩⟩
  · rw [List.mem_singleton.mp hc]
    exact ordinary_unknown

/-- A check of a relationship or of the version of its target. -/
def Check.OfRelationship (r : DiscoveryRelationship) (c : Check) : Prop :=
  (c.Ordinary .relationship ∧ c.subject = r.subject) ∨ c.Ordinary .version

theorem ordinary_presence {repository : DiscoveryRepository} {r : DiscoveryRelationship}
    {target : DiscoveryItem} (htarget : repository r.target = some target)
    (hrequired : r.required = true) (hasks : r.type.asksPresence = true) :
    ∀ c ∈ evaluateRelationship context repository r, c.OfRelationship r := by
  intro c hc
  simp only [evaluateRelationship, htarget, hrequired, hasks, Bool.not_true, Bool.false_eq_true,
    if_false, if_true] at hc
  split at hc
  · rw [List.mem_singleton.mp hc]
    exact .inl ⟨ordinary_unknown, rfl⟩
  split at hc
  · rcases List.mem_cons.mp hc with rfl | hc
    · exact .inl ⟨ordinary_evidence, rfl⟩
    · exact .inr (ordinary_version c hc)
  · rw [List.mem_singleton.mp hc]
    exact .inl ⟨ordinary_incompatible, rfl⟩

theorem ordinary_conflict {repository : DiscoveryRepository} {r : DiscoveryRelationship}
    {target : DiscoveryItem} (htarget : repository r.target = some target)
    (hrequired : r.required = true) (hasks : r.type.asksPresence = false) :
    ∀ c ∈ evaluateRelationship context repository r, c.OfRelationship r := by
  intro c hc
  simp only [evaluateRelationship, htarget, hrequired, hasks, Bool.not_true, Bool.false_eq_true,
    if_false] at hc
  split at hc
  · split at hc
    · rw [List.mem_singleton.mp hc]
      exact .inl ⟨ordinary_unknown, rfl⟩
    · split_ifs at hc
      · rw [List.mem_singleton.mp hc]
        exact .inl ⟨ordinary_incompatible, rfl⟩
      · rw [List.mem_singleton.mp hc]
        exact .inl ⟨ordinary_evidence, rfl⟩
  · cases hc

theorem ordinary_relationship {repository : DiscoveryRepository} {r : DiscoveryRelationship} :
    ∀ c ∈ evaluateRelationship context repository r, c.OfRelationship r := by
  cases htarget : repository r.target with
  | none =>
    intro c hc
    simp only [evaluateRelationship, htarget] at hc
    split_ifs at hc
    · rw [List.mem_singleton.mp hc]
      exact .inl ⟨ordinary_unknown, rfl⟩
    · rw [List.mem_singleton.mp hc]
      exact .inl ⟨ordinary_evidence, rfl⟩
  | some target =>
    cases hrequired : r.required with
    | false =>
      intro c hc
      simp only [evaluateRelationship, htarget, hrequired, Bool.not_false, if_true] at hc
      rw [List.mem_singleton.mp hc]
      exact .inl ⟨ordinary_evidence, rfl⟩
    | true =>
      cases hasks : r.type.asksPresence with
      | true => exact ordinary_presence htarget hrequired hasks
      | false => exact ordinary_conflict htarget hrequired hasks

/-- Every check but that of the catalog status is ordinary. -/
theorem ordinary_evaluate {general : Amount → String} {repository : DiscoveryRepository} :
    ∀ c ∈ evaluate general item context repository,
      c ∈ evaluateCatalogStatus item ∨ (∃ check_type, c.Ordinary check_type) := by
  intro c hc
  simp only [evaluate, List.mem_append] at hc
  rcases hc with ((((hc | hc) | hc) | hc) | hc) | hc
  · exact .inl hc
  · exact .inr ⟨_, ordinary_capabilities c hc⟩
  · exact .inr ⟨_, ordinary_resources c hc⟩
  · exact .inr ⟨_, ordinary_platform c hc⟩
  · exact .inr ⟨_, ordinary_network c hc⟩
  · obtain ⟨r, -, hr⟩ := List.mem_flatMap.mp hc
    rcases ordinary_relationship c hr with ⟨h, -⟩ | h
    · exact .inr ⟨_, h⟩
    · exact .inr ⟨_, h⟩

theorem catalog_evaluateCatalogStatus : ∀ c ∈ evaluateCatalogStatus item,
    c.check_type = .catalog ∧ (c.severity = none ↔ c.status = .compatible) ∧
      (c.status = .compatible ∨ c.status = .compatibleWithWarnings) ∧
      (c.status = .compatibleWithWarnings ↔ item.status ≠ .active) := by
  intro c hc
  simp only [evaluateCatalogStatus] at hc
  split_ifs at hc with hactive
  · rw [List.mem_singleton.mp hc]
    simp [evidenceCheck, hactive]
  · rw [List.mem_singleton.mp hc]
    simp [evidenceCheck, hactive]

/-- The evidence of a relationship is that of its own checks. -/
theorem relationship_of_checkType {general : Amount → String} {repository : DiscoveryRepository}
    {c : Check} (hc : c ∈ evaluate general item context repository)
    (htype : c.check_type = .relationship) :
    ∃ r ∈ item.relationships, c ∈ evaluateRelationship context repository r ∧
      c.subject = r.subject := by
  have hother : ∀ {check_type}, c.Ordinary check_type → check_type ≠ .relationship → False := by
    rintro check_type ⟨hsame, -⟩ hne
    exact hne (hsame.symm.trans htype)
  simp only [evaluate, List.mem_append] at hc
  rcases hc with ((((hc | hc) | hc) | hc) | hc) | hc
  · rw [(catalog_evaluateCatalogStatus c hc).1] at htype
    cases htype
  · exact (hother (ordinary_capabilities c hc) (by simp)).elim
  · exact (hother (ordinary_resources c hc) (by simp)).elim
  · exact (hother (ordinary_platform c hc) (by simp)).elim
  · exact (hother (ordinary_network c hc) (by simp)).elim
  · obtain ⟨r, hmem, hr⟩ := List.mem_flatMap.mp hc
    rcases ordinary_relationship c hr with ⟨-, hsubject⟩ | h
    · exact ⟨r, hmem, hr, hsubject⟩
    · exact (hother h (by simp)).elim

end Ordinary

/-! ## What an assessment holds of its checks -/

theorem findings_foldl_add (checks : List Check) (b : AssessmentBuilder) :
    (checks.foldl AssessmentBuilder.add b).findings.map (·.status) =
      b.findings.map (·.status) ++ (checks.filter (·.severity.isSome)).map (·.status) := by
  induction checks generalizing b with
  | nil => simp
  | cons c checks ih =>
    rw [List.foldl_cons, ih]
    cases hseverity : c.severity with
    | none => simp [AssessmentBuilder.add, AssessmentBuilder.addEvidence, hseverity]
    | some severity =>
      simp [AssessmentBuilder.add, AssessmentBuilder.addEvidence, AssessmentBuilder.addFinding,
        hseverity]

theorem evidence_add (b : AssessmentBuilder) (c : Check) :
    (b.add c).evidence = b.evidence ++ [(b.addEvidence c).1] ∧
      ∀ f ∈ (b.add c).findings, f ∈ b.findings ∨ f.evidence_ids = [(b.addEvidence c).1.id] := by
  cases hseverity : c.severity with
  | none =>
    refine ⟨by simp [AssessmentBuilder.add, AssessmentBuilder.addEvidence, hseverity], ?_⟩
    intro f hf
    exact .inl (by simpa [AssessmentBuilder.add, AssessmentBuilder.addEvidence, hseverity] using hf)
  | some severity =>
    constructor
    · simp [AssessmentBuilder.add, AssessmentBuilder.addEvidence, AssessmentBuilder.addFinding,
        hseverity]
    · intro f hf
      simp only [AssessmentBuilder.add, AssessmentBuilder.addEvidence,
        AssessmentBuilder.addFinding, hseverity, List.mem_append, List.mem_singleton] at hf
      rcases hf with hf | rfl
      · exact .inl hf
      · exact .inr rfl

/-- What the evidence is about. -/
theorem evidence_foldl_add (checks : List Check) (b : AssessmentBuilder) :
    (checks.foldl AssessmentBuilder.add b).evidence.map (fun e => (e.check_type, e.subject)) =
      b.evidence.map (fun e => (e.check_type, e.subject)) ++
        checks.map fun c => (c.check_type, c.subject) := by
  induction checks generalizing b with
  | nil => simp
  | cons c checks ih =>
    rw [List.foldl_cons, ih, (evidence_add b c).1]
    simp [AssessmentBuilder.addEvidence]

/-- The findings refer to evidence of the builder. -/
def AssessmentBuilder.Referenced (b : AssessmentBuilder) : Prop :=
  ∀ f ∈ b.findings, ∀ id ∈ f.evidence_ids, id ∈ b.evidence.map (·.id)

theorem AssessmentBuilder.Referenced.add {b : AssessmentBuilder} (h : b.Referenced) (c : Check) :
    (b.add c).Referenced := by
  obtain ⟨he, hfindings⟩ := evidence_add b c
  intro f hf id hid
  rw [he, List.map_append, List.mem_append]
  rcases hfindings f hf with hold | hnew
  · exact .inl (h f hold id hid)
  · rw [hnew] at hid
    exact .inr (by simpa using hid)

theorem referenced_foldl_add (checks : List Check) {b : AssessmentBuilder} (h : b.Referenced) :
    (checks.foldl AssessmentBuilder.add b).Referenced := by
  induction checks generalizing b with
  | nil => exact h
  | cons c checks ih => exact ih (h.add c)

/-- Every assessment succeeds, and holds what its checks have found. -/
theorem assessCompatibility_spec (general : Amount → String) (item : DiscoveryItem)
    (context : CompatibilityContext) (repository : DiscoveryRepository) :
    ∃ a, assessCompatibility general item context repository = .ok a ∧
      a.status = aggregateStatus a.findings ∧
      (∀ status, status ∈ a.findings.map (·.status) ↔
        ∃ c ∈ evaluate general item context repository, c.severity ≠ none ∧ c.status = status) ∧
      ∀ check_type subject,
        (∃ e ∈ a.evidence, e.check_type = check_type ∧ e.subject = subject) ↔
          ∃ c ∈ evaluate general item context repository,
            c.check_type = check_type ∧ c.subject = subject := by
  have hreferenced := referenced_foldl_add (evaluate general item context repository)
    (b := ⟨[], [], []⟩) (by simp [AssessmentBuilder.Referenced])
  have hfindings := findings_foldl_add (evaluate general item context repository) ⟨[], [], []⟩
  have hevidence := evidence_foldl_add (evaluate general item context repository) ⟨[], [], []⟩
  simp only [assessCompatibility]
  generalize (evaluate general item context repository).foldl AssessmentBuilder.add
    ⟨[], [], []⟩ = b at hreferenced hfindings hevidence
  have hvalid : (b.findings.all fun finding => finding.evidence_ids.all fun id =>
      decide (id ∈ b.evidence.map (·.id))) = true := by
    simp only [List.all_eq_true, decide_eq_true_eq]
    exact hreferenced
  refine ⟨_, by simp only [CompatibilityAssessment.validate, require, hvalid, if_true]; rfl, rfl,
    ?_, ?_⟩
  · intro status
    simp only [hfindings, List.map_nil, List.nil_append, List.mem_map, List.mem_filter,
      Option.isSome_iff_ne_none, and_assoc]
  · intro check_type subject
    have hmem : (check_type, subject) ∈ b.evidence.map (fun e => (e.check_type, e.subject)) ↔
        (check_type, subject) ∈ (evaluate general item context repository).map
          fun c => (c.check_type, c.subject) := by
      rw [hevidence, List.map_nil, List.nil_append]
    simpa using hmem

/-! ## The status of an assessment -/

theorem aggregateStatus_incompatible {findings : List CompatibilityFinding} :
    aggregateStatus findings = .incompatible ↔ .incompatible ∈ findings.map (·.status) := by
  simp only [aggregateStatus]
  split_ifs <;> simp_all

theorem aggregateStatus_passes {findings : List CompatibilityFinding} :
    (aggregateStatus findings = .compatible ∨
        aggregateStatus findings = .compatibleWithWarnings) ↔
      .incompatible ∉ findings.map (·.status) ∧
        .insufficientInformation ∉ findings.map (·.status) := by
  simp only [aggregateStatus]
  split_ifs <;> simp_all

theorem aggregateStatus_congr {findings findings' : List CompatibilityFinding}
    (h : ∀ status, status ∈ findings.map (·.status) ↔ status ∈ findings'.map (·.status)) :
    aggregateStatus findings = aggregateStatus findings' := by
  simp only [aggregateStatus, h]

section Status

variable {general : Amount → String} {repository : DiscoveryRepository}
  {context context' : CompatibilityContext} {item : DiscoveryItem} {a a' : CompatibilityAssessment}

theorem severity_iff {c : Check} (hc : c ∈ evaluate general item context repository) :
    c.severity ≠ none ↔ c.status ≠ .compatible := by
  rcases ordinary_evaluate c hc with hcatalog | ⟨-, -, ⟨hnone, hcompatible⟩ | ⟨hsome, hopen⟩⟩
  · exact (catalog_evaluateCatalogStatus c hcatalog).2.1.not
  · simp [hnone, hcompatible]
  · rcases hopen with hstatus | hstatus
    · simp [hsome, hstatus]
    · simp [hsome, hstatus]

/-- The statuses of the findings, by the levels of the checks. -/
theorem findings_iff (hstatuses : ∀ status, status ∈ a.findings.map (·.status) ↔
      ∃ c ∈ evaluate general item context repository, c.severity ≠ none ∧ c.status = status) :
    (.incompatible ∈ a.findings.map (·.status) ↔
        Raised contradictedLevel (evaluate general item context repository)) ∧
      ((.incompatible ∈ a.findings.map (·.status) ∨
          .insufficientInformation ∈ a.findings.map (·.status)) ↔
        Raised openLevel (evaluate general item context repository)) ∧
      (.compatibleWithWarnings ∈ a.findings.map (·.status) ↔ item.status ≠ .active) ∧
      .compatible ∉ a.findings.map (·.status) := by
  have hcontradicted : ∀ c : Check, contradictedLevel.holds c.status.decision ↔
      c.status = .incompatible := by
    intro c
    cases hstatus : c.status <;> simp [contradictedLevel, CompatibilityStatus.decision]
  have hopen : ∀ c : Check, openLevel.holds c.status.decision ↔
      c.status = .incompatible ∨ c.status = .insufficientInformation := by
    intro c
    cases hstatus : c.status <;> simp [openLevel, CompatibilityStatus.decision]
  have hmem : ∀ status, status ≠ .compatible → (status ∈ a.findings.map (·.status) ↔
      ∃ c ∈ evaluate general item context repository, c.status = status) := by
    intro status hne
    rw [hstatuses]
    refine exists_congr fun c => and_congr_right fun hc => ?_
    rw [severity_iff hc]
    refine and_iff_right_of_imp ?_
    rintro rfl
    exact hne
  refine ⟨?_, ?_, ?_, ?_⟩
  · rw [hmem _ (by simp)]
    simp only [Raised, hcontradicted]
  · rw [hmem _ (by simp), hmem _ (by simp)]
    simp only [Raised, hopen, and_or_left, exists_or]
  · rw [hmem _ (by simp)]
    constructor
    · rintro ⟨c, hc, hwarned⟩
      rcases ordinary_evaluate c hc with hcatalog | ⟨-, -, ⟨-, hstatus⟩ | ⟨-, hstatus | hstatus⟩⟩
      · exact (catalog_evaluateCatalogStatus c hcatalog).2.2.2.mp hwarned
      · simp [hwarned] at hstatus
      · simp [hwarned] at hstatus
      · simp [hwarned] at hstatus
    · intro hinactive
      obtain ⟨c, hsingle, -⟩ := evaluateCatalogStatus_eq item
      have hc : c ∈ evaluateCatalogStatus item := by simp [hsingle]
      exact ⟨c, by simp [evaluate, hc],
        (catalog_evaluateCatalogStatus c hc).2.2.2.mpr hinactive⟩
  · rw [hstatuses]
    rintro ⟨c, hc, hseverity, hstatus⟩
    exact (severity_iff hc).mp hseverity hstatus

/-- The status of an assessment, by the levels of its checks. -/
theorem status_iff (h : assessCompatibility general item context repository = .ok a) :
    (a.status = .incompatible ↔
        Raised contradictedLevel (evaluate general item context repository)) ∧
      ((a.status = .compatible ∨ a.status = .compatibleWithWarnings) ↔
        ¬ Raised openLevel (evaluate general item context repository)) := by
  obtain ⟨found, hfound, hstatus, hstatuses, -⟩ :=
    assessCompatibility_spec general item context repository
  rw [hfound] at h
  cases h
  obtain ⟨hincompatible, hopen, -⟩ := findings_iff hstatuses
  rw [hstatus]
  exact ⟨aggregateStatus_incompatible.trans hincompatible, by
    rw [aggregateStatus_passes, ← hopen, not_or]⟩

/-- Two contexts give one status when their checks reach the same levels. -/
theorem status_eq_iff (h : assessCompatibility general item context repository = .ok a)
    (h' : assessCompatibility general item context' repository = .ok a') :
    a'.status = a.status ↔
      (Raised contradictedLevel (evaluate general item context' repository) ↔
        Raised contradictedLevel (evaluate general item context repository)) ∧
      (Raised openLevel (evaluate general item context' repository) ↔
        Raised openLevel (evaluate general item context repository)) := by
  constructor
  · intro hsame
    rw [← (status_iff h).1, ← (status_iff h').1, hsame]
    refine ⟨Iff.rfl, not_iff_not.mp ?_⟩
    rw [← (status_iff h).2, ← (status_iff h').2, hsame]
  · rintro ⟨hcontradicted, hopen⟩
    obtain ⟨found, hfound, hstatus, hstatuses, -⟩ :=
      assessCompatibility_spec general item context repository
    rw [hfound] at h
    cases h
    obtain ⟨found', hfound', hstatus', hstatuses', -⟩ :=
      assessCompatibility_spec general item context' repository
    rw [hfound'] at h'
    cases h'
    obtain ⟨hincompatible, hinsufficient, hwarned, hcompatible⟩ := findings_iff hstatuses
    obtain ⟨hincompatible', hinsufficient', hwarned', hcompatible'⟩ := findings_iff hstatuses'
    simp only [hstatus, hstatus', aggregateStatus]
    have hone : .incompatible ∈ a'.findings.map (·.status) ↔
        .incompatible ∈ a.findings.map (·.status) := by
      rw [hincompatible, hincompatible', hcontradicted]
    have htwo : (.incompatible ∈ a'.findings.map (·.status) ∨
        .insufficientInformation ∈ a'.findings.map (·.status)) ↔
        (.incompatible ∈ a.findings.map (·.status) ∨
          .insufficientInformation ∈ a.findings.map (·.status)) := by
      rw [hinsufficient, hinsufficient', hopen]
    by_cases hbad : .incompatible ∈ a.findings.map (·.status)
    · rw [if_pos hbad, if_pos (hone.mpr hbad)]
    · simp only [hone, hbad, false_or] at htwo
      simp only [hone, hbad, htwo, hwarned, hwarned']

end Status

end AtlasOS.Discovery
