import AtlasOS.Discovery.Findings

/-!
# Sound compatibility verdicts

The status of an assessment is compared with what the facts say of the requirements,
in every order in which the facts are listed. It is right in every order exactly when
it is so at both levels: for the contradicted requirements, and for those that are
not met.
-/

namespace AtlasOS.Discovery

/-! ## The levels of an evaluation -/

section Levels

variable {repository : DiscoveryRepository} {other : DiscoveryRelationship → Decision}
  {context : CompatibilityContext} {item : DiscoveryItem} {level : Level}

/-- A requirement that is decided alike in every order of the facts is at a level. -/
def PlainAt (repository : DiscoveryRepository) (other : DiscoveryRelationship → Decision)
    (context : CompatibilityContext) (item : DiscoveryItem) (level : Level) : Prop :=
  Demanded repository other context level item.declared ∨
    ∃ r ∈ item.relationships, r.required = true ∧ r.ignored repository = false ∧
      level.holds (relationshipDecision repository other context r)

/-- A relationship bounds the versions of a service. -/
def BoundedTarget (repository : DiscoveryRepository) (item : DiscoveryItem) (id : String) : Prop :=
  ∃ r ∈ item.relationships, ∃ target, repository r.target = some target ∧ r.bounded = true ∧
    target.id = id

/-- The version of an observation is at a level, by some relationship. -/
def VersionAt (repository : DiscoveryRepository) (item : DiscoveryItem) (level : Level)
    (service : ObservedService) : Prop :=
  ∃ r ∈ item.relationships, ∃ target, repository r.target = some target ∧ r.bounded = true ∧
    target.id = service.id ∧ level.holds (versionDecision r service)

/-- The first observation of some bounded service is at a level. -/
def FirstAt (repository : DiscoveryRepository) (item : DiscoveryItem) (level : Level)
    (services : List ObservedService) : Prop :=
  Answers ObservedService.id (BoundedTarget repository item) (VersionAt repository item level)
    services

theorem versionRaised_iff :
    (∃ r ∈ item.relationships, VersionRaised repository context level r) ↔
      FirstAt repository item level context.services := by
  constructor
  · rintro ⟨r, hr, target, service, htarget, hbounded, hfirst, hlevel⟩
    have hid := (mem_of_firstWith hfirst).2
    exact ⟨target.id, service, ⟨r, hr, target, htarget, hbounded, rfl⟩, hfirst,
      ⟨r, hr, target, htarget, hbounded, hid.symm, hlevel⟩⟩
  · rintro ⟨id, service, -, hfirst, r, hr, target, htarget, hbounded, hid, hlevel⟩
    have hsame := (mem_of_firstWith hfirst).2
    refine ⟨r, hr, target, service, htarget, hbounded, ?_, hlevel⟩
    rwa [hid, hsame]

theorem raised_evaluate_iff (general : Amount → String) :
    Raised level (evaluate general item context repository) ↔
      PlainAt repository other context item level ∨
        FirstAt repository item level context.services := by
  have hsplit : evaluate general item context repository =
      declaredChecks general item context ++ evaluateRelationships item context repository := rfl
  rw [hsplit, raised_append, (represents_declared general item).raised, evaluateRelationships,
    raised_flatMap, ← versionRaised_iff, PlainAt, or_assoc]
  have htells : ∀ r, Tells repository other context r (evaluateRelationship context repository r) :=
    tells_relationship
  refine or_congr_right ?_
  constructor
  · rintro ⟨r, hr, hraised⟩
    rcases ((htells r).raised level).mp hraised with hplain | hversion
    · exact .inl ⟨r, hr, hplain⟩
    · exact .inr ⟨r, hr, hversion⟩
  · rintro (⟨r, hr, hplain⟩ | ⟨r, hr, hversion⟩)
    · exact ⟨r, hr, ((htells r).raised level).mpr (.inl hplain)⟩
    · exact ⟨r, hr, ((htells r).raised level).mpr (.inr hversion)⟩

/-! ## The levels of the requirements -/

theorem holds_worst_iff {decisions : List Decision} (hne : decisions ≠ []) :
    level.holds (worst decisions) ↔ ∃ d ∈ decisions, level.holds d := by
  constructor
  · intro h
    rw [worst] at h
    split_ifs at h with hcontradicted hundecided
    · exact ⟨_, hcontradicted, h⟩
    · exact ⟨_, hundecided.resolve_right hne, h⟩
    · exact absurd h level.not_met
  · rintro ⟨d, hd, h⟩
    rw [worst]
    split_ifs with hcontradicted hundecided
    · exact level.contradicted
    · cases d with
      | met => exact absurd h level.not_met
      | undecided => exact h
      | contradicted => exact absurd hd hcontradicted
    · cases d with
      | met => exact absurd h level.not_met
      | undecided => exact absurd (.inl hd) hundecided
      | contradicted => exact absurd hd hcontradicted

theorem bounded_required {r : DiscoveryRelationship} (h : r.bounded = true) :
    r.required = true ∧ r.type.asksPresence = true := by
  rw [DiscoveryRelationship.bounded, Bool.and_eq_true, Bool.and_eq_true] at h
  exact h.1

theorem bounded_seen {r : DiscoveryRelationship} (h : r.bounded = true) :
    r.ignored repository = false := by
  simp [DiscoveryRelationship.ignored, DiscoveryRelationshipType.handled, (bounded_required h).2]

/-- A bounded relationship whose target is nowhere observed is open already without its version. -/
theorem boundsDecision_unobserved {r : DiscoveryRelationship} (hbounded : r.bounded = true)
    (hnone : ∀ target, repository r.target = some target →
      (context.services.filter (·.id = target.id)) = [])
    (h : level.holds (boundsDecision repository context r)) :
    level.holds (relationshipDecision repository other context r) := by
  cases htarget : repository r.target with
  | none =>
    simp only [boundsDecision, htarget] at h
    simpa only [relationshipDecision, htarget] using h
  | some target =>
    have hempty := hnone target htarget
    simp only [boundsDecision, htarget] at h
    rw [hempty] at h
    simp only [relationshipDecision, htarget, (bounded_required hbounded).2, if_true]
    cases hservices : context.installed_services with
    | none => simpa [worst, decideBy] using h
    | some services =>
      rw [CompatibilityContext.services, hservices] at hempty
      have habsent : servicePresent target.id services = false := by
        simpa [servicePresent, List.filter_eq_nil_iff] using hempty
      simp only [decideBy, habsent]
      exact level.contradicted

/-- What the facts say of the requirements at a level. -/
theorem demanded_requirementList_iff :
    Demanded repository other context level item.requirementList ↔
      PlainAt repository other context item level ∨
        (∃ service ∈ context.services, VersionAt repository item level service) ∨
        ∃ r ∈ item.relationships, r.ignored repository = true ∧ level.holds (other r) := by
  have hignored : ∀ r : DiscoveryRelationship, r.ignored repository = true →
      r.required = true ∧ relationshipDecision repository other context r = other r := by
    intro r hr
    simp only [DiscoveryRelationship.ignored, DiscoveryRelationshipType.handled,
      Bool.and_eq_true, Bool.not_eq_true', Bool.or_eq_false_iff, decide_eq_false_iff_not] at hr
    obtain ⟨⟨hrequired, hsome⟩, hasks, hconflicts⟩ := hr
    obtain ⟨target, htarget⟩ := Option.isSome_iff_exists.mp hsome
    exact ⟨hrequired, by simp [relationshipDecision, htarget, hasks, hconflicts]⟩
  constructor
  · rintro ⟨q, hq, hlevel⟩
    rw [DiscoveryItem.requirementList, List.mem_append, List.mem_append] at hq
    rcases hq with (hq | hq) | hq
    · exact .inl (.inl ⟨q, hq, hlevel⟩)
    · obtain ⟨r, hr, rfl⟩ := List.mem_map.mp hq
      obtain ⟨hmem, hrequired⟩ := List.mem_filter.mp hr
      cases hseen : r.ignored repository with
      | true =>
        have hother : level.holds (relationshipDecision repository other context r) := hlevel
        rw [(hignored r hseen).2] at hother
        exact .inr (.inr ⟨r, hmem, hseen, hother⟩)
      | false => exact .inl (.inr ⟨r, hmem, hrequired, hseen, hlevel⟩)
    · obtain ⟨r, hr, rfl⟩ := List.mem_map.mp hq
      obtain ⟨hmem, hbounded⟩ := List.mem_filter.mp hr
      have hbounds : level.holds (boundsDecision repository context r) := hlevel
      by_cases hnone : ∀ target, repository r.target = some target →
          (context.services.filter (·.id = target.id)) = []
      · exact .inl (.inr ⟨r, hmem, (bounded_required hbounded).1, bounded_seen hbounded,
          boundsDecision_unobserved hbounded hnone hbounds⟩)
      · push Not at hnone
        obtain ⟨target, htarget, hne⟩ := hnone
        simp only [boundsDecision, htarget] at hbounds
        obtain ⟨d, hd, hlevel⟩ := (holds_worst_iff (by simpa using hne)).mp hbounds
        obtain ⟨service, hservice, rfl⟩ := List.mem_map.mp hd
        obtain ⟨hservice, hid⟩ := List.mem_filter.mp hservice
        exact .inr (.inl ⟨service, hservice, r, hmem, target, htarget, hbounded,
          by simpa using (of_decide_eq_true hid).symm, hlevel⟩)
  · rintro ((⟨q, hq, hlevel⟩ | ⟨r, hr, hrequired, -, hlevel⟩) |
      ⟨service, hservice, r, hr, target, htarget, hbounded, hid, hlevel⟩ | ⟨r, hr, hseen, hlevel⟩)
    · exact ⟨q, by simp [DiscoveryItem.requirementList, hq], hlevel⟩
    · exact ⟨.relationship r, by simp [DiscoveryItem.requirementList, hr, hrequired], hlevel⟩
    · refine ⟨.version r, by simp [DiscoveryItem.requirementList, hr, hbounded], ?_⟩
      have hmem : service ∈ context.services.filter (·.id = target.id) := by
        simp [hservice, hid]
      have hne : context.services.filter (·.id = target.id) ≠ [] := List.ne_nil_of_mem hmem
      change level.holds (boundsDecision repository context r)
      simp only [boundsDecision, htarget]
      exact (holds_worst_iff (by simpa using hne)).mpr
        ⟨_, List.mem_map_of_mem hmem, hlevel⟩
    · obtain ⟨hrequired, hother⟩ := hignored r hseen
      refine ⟨.relationship r, by simp [DiscoveryItem.requirementList, hr, hrequired], ?_⟩
      change level.holds (relationshipDecision repository other context r)
      rwa [hother]

end Levels

/-! ## The facts in another order -/

/-- The same facts, listed in another order. -/
structure Reordered (context context' : CompatibilityContext) : Prop where
  capabilities : Option.Rel List.Perm context.capabilities context'.capabilities
  runtimes : Option.Rel List.Perm context.runtimes context'.runtimes
  devices : Option.Rel List.Perm context.devices context'.devices
  open_ports : Option.Rel List.Perm context.open_ports context'.open_ports
  installed_services : Option.Rel List.Perm context.installed_services context'.installed_services
  rest : context' =
    { context with
      capabilities := context'.capabilities
      runtimes := context'.runtimes
      devices := context'.devices
      open_ports := context'.open_ports
      installed_services := context'.installed_services }

theorem rel_perm_refl {α : Type} (known : Option (List α)) :
    Option.Rel List.Perm known known := by
  cases known with
  | none => exact .none
  | some facts => exact .some (List.Perm.refl facts)

theorem Reordered.refl (context : CompatibilityContext) : Reordered context context :=
  ⟨rel_perm_refl _, rel_perm_refl _, rel_perm_refl _, rel_perm_refl _, rel_perm_refl _, rfl⟩

theorem decideBy_perm {α : Type} {known known' : Option (List α)} {test : List α → Bool}
    (hrel : Option.Rel List.Perm known known')
    (htest : ∀ xs ys : List α, xs.Perm ys → test xs = test ys) :
    decideBy known test = decideBy known' test := by
  cases hrel with
  | none => rfl
  | some hperm => simp only [decideBy, htest _ _ hperm]

theorem mem_perm {α : Type} [DecidableEq α] (a : α) (xs ys : List α) (h : xs.Perm ys) :
    decide (a ∈ xs) = decide (a ∈ ys) := by
  simp only [h.mem_iff]

theorem any_perm {α : Type} (test : α → Bool) (xs ys : List α) (h : xs.Perm ys) :
    xs.any test = ys.any test := by
  rw [Bool.eq_iff_iff, List.any_eq_true, List.any_eq_true]
  simp only [h.mem_iff]

section Orders

variable {repository : DiscoveryRepository} {other : DiscoveryRelationship → Decision}
  {context context' : CompatibilityContext} {item : DiscoveryItem} {level : Level}

theorem Reordered.services (h : Reordered context context') :
    context'.services.Perm context.services := by
  have hrel := h.installed_services
  simp only [CompatibilityContext.services]
  generalize context.installed_services = known at hrel ⊢
  generalize context'.installed_services = known' at hrel ⊢
  cases hrel with
  | none => exact List.Perm.refl _
  | some hperm => exact hperm.symm

/-- Every order of the observed services is that of some context. -/
theorem exists_reordered {services : List ObservedService}
    (h : services.Perm context.services) :
    ∃ context', Reordered context context' ∧ context'.services = services := by
  cases hknown : context.installed_services with
  | none =>
    refine ⟨context, Reordered.refl context, ?_⟩
    rw [CompatibilityContext.services, hknown, Option.getD_none] at h ⊢
    exact h.eq_nil.symm
  | some observed =>
    rw [CompatibilityContext.services, hknown, Option.getD_some] at h
    refine ⟨{ context with installed_services := some services }, ⟨rel_perm_refl _, rel_perm_refl _,
      rel_perm_refl _, rel_perm_refl _, ?_, rfl⟩, rfl⟩
    rw [hknown]
    exact .some h.symm

theorem relationshipDecision_reordered (h : Reordered context context')
    (r : DiscoveryRelationship) :
    relationshipDecision repository other context' r =
      relationshipDecision repository other context r := by
  simp only [relationshipDecision]
  cases repository r.target with
  | none => rfl
  | some target =>
    have hpresent : ∀ xs ys : List ObservedService, xs.Perm ys →
        servicePresent target.id xs = servicePresent target.id ys := any_perm _
    simp only
    split_ifs
    · exact (decideBy_perm h.installed_services hpresent).symm
    · symm
      apply decideBy_perm h.installed_services
      intro xs ys hperm
      rw [hpresent xs ys hperm]
    · rfl

theorem worst_perm {first second : List Decision} (h : first.Perm second) :
    worst first = worst second := by
  simp only [worst, h.mem_iff, ← List.length_eq_zero_iff, h.length_eq]

theorem boundsDecision_reordered (h : Reordered context context') (r : DiscoveryRelationship) :
    boundsDecision repository context' r = boundsDecision repository context r := by
  simp only [boundsDecision]
  cases repository r.target with
  | none => rfl
  | some target =>
    exact worst_perm ((h.services.filter _).map _)

theorem decision_reordered (h : Reordered context context') (q : Requirement) :
    q.decision repository other context' = q.decision repository other context := by
  have hrest := h.rest
  cases q with
  | capability id => exact (decideBy_perm h.capabilities fun xs ys => mem_perm id xs ys).symm
  | resource kind amount =>
    cases kind <;> simp only [Requirement.decision, Resource.observed] <;> rw [hrest]
  | gpu =>
    simp only [Requirement.decision]
    rw [hrest]
  | architecture allowed =>
    simp only [Requirement.decision]
    rw [hrest]
  | operatingSystem allowed =>
    simp only [Requirement.decision]
    rw [hrest]
  | runtime value => exact (decideBy_perm h.runtimes fun xs ys => mem_perm value xs ys).symm
  | device value => exact (decideBy_perm h.devices fun xs ys => mem_perm value xs ys).symm
  | internet => rfl
  | lan => rfl
  | port p => exact (decideBy_perm h.open_ports fun xs ys => any_perm (·.meets p) xs ys).symm
  | relationship r => exact relationshipDecision_reordered h r
  | version r => exact boundsDecision_reordered h r

theorem plainAt_reordered (h : Reordered context context') :
    PlainAt repository other context' item level ↔ PlainAt repository other context item level := by
  simp only [PlainAt, Demanded, decision_reordered h, relationshipDecision_reordered h]

end Orders

/-! ## Sound verdicts -/

section Sound

variable {general : Amount → String} {repository : DiscoveryRepository}
  {other : DiscoveryRelationship → Decision} {context context' : CompatibilityContext}
  {item : DiscoveryItem} {a a' : CompatibilityAssessment}

/-- The status of an assessment says what the facts say of the requirements, and there is evidence
for each of those that are met. -/
structure SoundAssessment (repository : DiscoveryRepository)
    (other : DiscoveryRelationship → Decision) (context : CompatibilityContext)
    (item : DiscoveryItem) (a : CompatibilityAssessment) : Prop where
  passes : (a.status = .compatible ∨ a.status = .compatibleWithWarnings) ↔
    ∀ q ∈ item.requirementList, q.decision repository other context = .met ∧
      ∃ e ∈ a.evidence, e.check_type = q.checkType ∧ e.subject = q.subject
  fails : a.status = .incompatible ↔
    ∃ q ∈ item.requirementList, q.decision repository other context = .contradicted

/-- The verdict on an item is sound, and the same in every order of the facts. -/
def SoundVerdict (general : Amount → String) (repository : DiscoveryRepository)
    (other : DiscoveryRelationship → Decision) (context : CompatibilityContext)
    (item : DiscoveryItem) : Prop :=
  ∃ a, assessCompatibility general item context repository = .ok a ∧
    SoundAssessment repository other context item a ∧
    ∀ context', Reordered context context' →
      ∃ a', assessCompatibility general item context' repository = .ok a' ∧ a'.status = a.status

/-- Every order of the facts is at the level with the requirements: some requirement that no order
changes is at the level, or all observations of a bounded service are, or none is and no check
leaves a relationship out. -/
def SettledAt (repository : DiscoveryRepository) (other : DiscoveryRelationship → Decision)
    (context : CompatibilityContext) (item : DiscoveryItem) (level : Level)
    (left_out : DiscoveryRelationship → Prop) : Prop :=
  PlainAt repository other context item level ∨
    (∃ id, BoundedTarget repository item id ∧ (∃ service ∈ context.services, service.id = id) ∧
      ∀ service ∈ context.services, service.id = id → VersionAt repository item level service) ∨
    ((∀ service ∈ context.services, BoundedTarget repository item service.id →
        ¬ VersionAt repository item level service) ∧
      ∀ r ∈ item.relationships, r.ignored repository = true → ¬ left_out r)

/-- An assessment is right at a level in every order of the facts exactly when the level is
settled. -/
theorem settledAt_iff {level : Level} {left_out : DiscoveryRelationship → Prop} :
    SettledAt repository other context item level left_out ↔
      (Raised level (evaluate general item context repository) ↔
        (PlainAt repository other context item level ∨
          (∃ service ∈ context.services, VersionAt repository item level service) ∨
          ∃ r ∈ item.relationships, r.ignored repository = true ∧ left_out r)) ∧
      ∀ context', Reordered context context' →
        (Raised level (evaluate general item context' repository) ↔
          Raised level (evaluate general item context repository)) := by
  have hraised : ∀ context', Reordered context context' →
      (Raised level (evaluate general item context' repository) ↔
        PlainAt repository other context item level ∨
          FirstAt repository item level context'.services) := by
    intro context' h
    rw [@raised_evaluate_iff repository other, plainAt_reordered h]
  have hself := hraised context (Reordered.refl context)
  have horders : (∀ context', Reordered context context' → ¬ PlainAt repository other context item
      level → (Raised level (evaluate general item context' repository) ↔
        FirstAt repository item level context'.services)) := by
    intro context' h hplain
    rw [hraised context' h]
    exact or_iff_right hplain
  have hbounded : ∀ service, VersionAt repository item level service →
      BoundedTarget repository item service.id := by
    rintro service ⟨r, hr, target, htarget, hb, hid, -⟩
    exact ⟨r, hr, target, htarget, hb, hid⟩
  constructor
  · rintro (hplain | ⟨id, htarget, hobserved, hall⟩ | ⟨hnone, hleft⟩)
    · refine ⟨iff_of_true (hself.mpr (.inl hplain)) (.inl hplain), fun context' h => ?_⟩
      exact iff_of_true ((hraised context' h).mpr (.inl hplain)) (hself.mpr (.inl hplain))
    · have hevery : ∀ context', Reordered context context' →
          Raised level (evaluate general item context' repository) := by
        intro context' h
        exact (hraised context' h).mpr (.inr
          (forall_answers_iff.mpr ⟨id, htarget, hobserved, hall⟩ _ h.services))
      obtain ⟨service, hservice, hid⟩ := hobserved
      refine ⟨iff_of_true (hevery context (Reordered.refl context))
        (.inr (.inl ⟨service, hservice, hall service hservice hid⟩)), fun context' h => ?_⟩
      exact iff_of_true (hevery context' h) (hevery context (Reordered.refl context))
    · have hfirst : ∀ context', Reordered context context' →
          ¬ FirstAt repository item level context'.services :=
        fun context' h => forall_not_answers_iff.mpr hnone _ h.services
      have hplain : ∀ context', Reordered context context' →
          (Raised level (evaluate general item context' repository) ↔
            PlainAt repository other context item level) := by
        intro context' h
        rw [hraised context' h]
        exact or_iff_left (hfirst context' h)
      refine ⟨?_, fun context' h => (hplain context' h).trans
        (hplain context (Reordered.refl context)).symm⟩
      rw [hplain context (Reordered.refl context)]
      refine (or_iff_left ?_).symm
      rintro (⟨service, hservice, hversion⟩ | ⟨r, hr, hignored, hout⟩)
      · exact hnone service hservice (hbounded service hversion) hversion
      · exact hleft r hr hignored hout
  · rintro ⟨hright, hsame⟩
    by_cases hplain : PlainAt repository other context item level
    · exact .inl hplain
    right
    have hevery : ∀ services, services.Perm context.services →
        (FirstAt repository item level services ↔
          Raised level (evaluate general item context repository)) := by
      intro services hperm
      obtain ⟨context', h, rfl⟩ := exists_reordered hperm
      rw [← hsame context' h, horders context' h hplain]
    by_cases hnow : Raised level (evaluate general item context repository)
    · exact .inl (forall_answers_iff.mp fun services hperm => (hevery services hperm).mpr hnow)
    · refine .inr ⟨forall_not_answers_iff.mp fun services hperm => ?_, ?_⟩
      · exact (hevery services hperm).not.mpr hnow
      · intro r hr hignored hout
        exact hnow (hright.mpr (.inr (.inr ⟨r, hr, hignored, hout⟩)))

/-! ## Evidence for every requirement -/

theorem value_injective {s t : DiscoveryRelationshipType} (h : s.value = t.value) : s = t := by
  cases s <;> cases t <;> first | rfl | simp [DiscoveryRelationshipType.value] at h

theorem not_mem_value (s : DiscoveryRelationshipType) : '.' ∉ s.value.toList := by
  cases s <;> decide

/-- What stands before the first separator, and after it. -/
theorem append_cons_injective {α : Type} {a : α} {first first' rest rest' : List α}
    (h : a ∉ first) (h' : a ∉ first') (heq : first ++ a :: rest = first' ++ a :: rest') :
    first = first' ∧ rest = rest' := by
  induction first generalizing first' with
  | nil =>
    cases first' with
    | nil => exact ⟨rfl, (List.cons.inj heq).2⟩
    | cons b first' => exact absurd (List.cons.inj heq).1 (List.ne_of_not_mem_cons h')
  | cons b first ih =>
    cases first' with
    | nil => exact absurd (List.cons.inj heq).1.symm (List.ne_of_not_mem_cons h)
    | cons b' first' =>
      obtain ⟨rfl, htail⟩ := List.cons.inj heq
      obtain ⟨rfl, hrest⟩ := ih (List.not_mem_of_not_mem_cons h)
        (List.not_mem_of_not_mem_cons h') htail
      exact ⟨rfl, hrest⟩

theorem subject_injective {r r' : DiscoveryRelationship} (h : r.subject = r'.subject) :
    r.type = r'.type ∧ r.target = r'.target := by
  have hchars : r.type.value.toList ++ '.' :: r.target.toList =
      r'.type.value.toList ++ '.' :: r'.target.toList := by
    simpa [DiscoveryRelationship.subject] using congrArg String.toList h
  obtain ⟨htype, htarget⟩ :=
    append_cons_injective (not_mem_value r.type) (not_mem_value r'.type) hchars
  exact ⟨value_injective (String.toList_inj.mp htype), String.toList_inj.mp htarget⟩

/-- No check shows a relationship that the checks leave out. -/
theorem not_shown_ignored {r : DiscoveryRelationship} (hr : r ∈ item.relationships)
    (hignored : r.ignored repository = true) :
    ¬ Shown (evaluate general item context repository) (.relationship r) := by
  rintro ⟨c, hc, htype, hsubject⟩
  obtain ⟨r', hr', hmem, hsubject'⟩ := relationship_of_checkType hc htype
  have hsame : r' = r := by
    obtain ⟨ht, htarget⟩ := subject_injective (hsubject'.symm.trans hsubject)
    exact List.inj_on_of_nodup_map item.unique_relationships hr' hr (by rw [ht, htarget])
  rw [hsame] at hmem
  have htells : Tells repository (fun _ => .met) context r
    (evaluateRelationship context repository r) := tells_relationship r
  rw [htells.silent hignored] at hmem
  cases hmem

/-- Every requirement is met and shown exactly when none is open and no relationship is left
out. -/
theorem all_met_iff (h : assessCompatibility general item context repository = .ok a) :
    (∀ q ∈ item.requirementList, q.decision repository other context = .met ∧
        ∃ e ∈ a.evidence, e.check_type = q.checkType ∧ e.subject = q.subject) ↔
      ¬ (PlainAt repository other context item openLevel ∨
        (∃ service ∈ context.services, VersionAt repository item openLevel service) ∨
        ∃ r ∈ item.relationships, r.ignored repository = true ∧ True) := by
  obtain ⟨found, hfound, -, -, hevidence⟩ :=
    assessCompatibility_spec general item context repository
  rw [hfound] at h
  cases h
  have hdemanded := @demanded_requirementList_iff repository other context item openLevel
  constructor
  · intro hall hopen
    have hmet : ¬ Demanded repository other context openLevel item.requirementList := by
      rintro ⟨q, hq, hlevel⟩
      exact hlevel (hall q hq).1
    rw [hdemanded] at hmet
    rcases hopen with hplain | hversion | ⟨r, hr, hignored, -⟩
    · exact hmet (.inl hplain)
    · exact hmet (.inr (.inl hversion))
    · have hrequired : r.required = true := by
        simp only [DiscoveryRelationship.ignored, Bool.and_eq_true] at hignored
        exact hignored.1.1
      have hq : Requirement.relationship r ∈ item.requirementList := by
        simp [DiscoveryItem.requirementList, hr, hrequired]
      exact not_shown_ignored hr hignored ((hevidence _ _).mp (hall _ hq).2)
  · intro hclosed q hq
    rw [not_or, not_or] at hclosed
    obtain ⟨hplain, hversion, hleft⟩ := hclosed
    have hseen : ∀ r ∈ item.relationships, r.ignored repository = false := by
      intro r hr
      by_contra hignored
      exact hleft ⟨r, hr, by simpa using hignored, trivial⟩
    have hmet : ¬ Demanded repository other context openLevel item.requirementList := by
      rw [hdemanded]
      rintro (hp | hv | ⟨r, hr, hignored, -⟩)
      · exact hplain hp
      · exact hversion hv
      · rw [hseen r hr] at hignored
        cases hignored
    have hquiet : ¬ Raised openLevel (evaluate general item context repository) := by
      rw [@raised_evaluate_iff repository other]
      rintro (hp | ⟨id, service, -, hfirst, hat⟩)
      · exact hplain hp
      · exact hversion ⟨service, (mem_of_firstWith hfirst).1, hat⟩
    refine ⟨by_contra fun hlevel => hmet ⟨q, hq, hlevel⟩, (hevidence _ _).mpr ?_⟩
    have hsplit : evaluate general item context repository =
      declaredChecks general item context ++ evaluateRelationships item context repository := rfl
    rw [hsplit, raised_append, not_or, evaluateRelationships, raised_flatMap] at hquiet
    have hsilent : ∀ r ∈ item.relationships,
        ¬ Raised openLevel (evaluateRelationship context repository r) :=
      fun r hr hraised => hquiet.2 ⟨r, hr, hraised⟩
    have hshown : ∀ {r q}, r ∈ item.relationships →
        Shown (evaluateRelationship context repository r) q →
        Shown (evaluate general item context repository) q := by
      rintro r q hr ⟨c, hc, habout⟩
      exact ⟨c, List.mem_append_right _ (List.mem_flatMap.mpr ⟨r, hr, hc⟩), habout⟩
    have htells : ∀ r, Tells repository other context r
      (evaluateRelationship context repository r) := tells_relationship
    rw [DiscoveryItem.requirementList, List.mem_append, List.mem_append] at hq
    rcases hq with (hq | hq) | hq
    · have hdeclared : Represents repository other context (declaredChecks general item context)
        item.declared := represents_declared general item
      obtain ⟨c, hc, habout⟩ := hdeclared.shown hquiet.1 q hq
      exact ⟨c, List.mem_append_left _ hc, habout⟩
    · obtain ⟨r, hr, rfl⟩ := List.mem_map.mp hq
      obtain ⟨hmem, hrequired⟩ := List.mem_filter.mp hr
      exact hshown hmem ((htells r).shown (hsilent r hmem) hrequired (hseen r hmem))
    · obtain ⟨r, hr, rfl⟩ := List.mem_map.mp hq
      obtain ⟨hmem, hbounded⟩ := List.mem_filter.mp hr
      exact hshown hmem ((htells r).versioned (hsilent r hmem) hbounded)

end Sound

/-! ## Verdicts that are not sound -/

/-- An item that asks for nothing beside its relationships. -/
def itemWith (id : String) (relationships : List DiscoveryRelationship)
    (h : (relationships.map fun r => (r.type, r.target)).Nodup) : DiscoveryItem where
  id := id
  status := .active
  requirements :=
    { capabilities := []
      resources := ⟨none, none, none, false, none⟩
      platform := ⟨[], [], [], []⟩
      network := ⟨[], false, false⟩ }
  relationships := relationships
  unique_relationships := h

/-- The catalog with one database. -/
def databaseCatalog : DiscoveryRepository := fun id =>
  if id = "database" then some (itemWith "database" [] List.nodup_nil) else none

/-- A target of which only the installed services are known. -/
def observing (services : List ObservedService) : CompatibilityContext where
  target_id := "node"
  target_type := "host"
  capabilities := none
  runtimes := none
  operating_system := none
  architecture := none
  cpu_cores := none
  memory_mb := none
  storage_gb := none
  gpu_available := none
  gpu_memory_gb := none
  devices := none
  open_ports := none
  installed_services := some services

/-- An item that requires the database. -/
def requiringItem : DiscoveryItem :=
  itemWith "app" [⟨.requires, "database", true, none, none⟩] (by simp)

/-- An item that depends on a second version of the database. -/
def dependingItem : DiscoveryItem :=
  itemWith "app" [⟨.dependsOn, "database", true, some "2.0.0", none⟩] (by simp)

/-- The first version of the database, as observed. -/
def oldDatabase : ObservedService := ⟨"database", some "1.0.0"⟩

/-- The second version of the database, as observed. -/
def newDatabase : ObservedService := ⟨"database", some "2.0.0"⟩

end AtlasOS.Discovery
