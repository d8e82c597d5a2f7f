import AtlasOS.Candidates.Projection

/-!
# What the constructors accept

An identifier that is built is well formed, so the constructor of a candidate
refuses its fields only, and with a `ValueError`. The guarded branch of the
projection therefore never raises, and the advisory branch raises exactly when
a field of the finding is refused.
-/

namespace AtlasOS.Candidates

variable {lower : String → String}

/-! ## Identifiers -/

theorem isSlug_normalizeCandidateIdPart {part : Option String} {word : String}
    (h : normalizeCandidateIdPart lower part = .ok word) : isSlug word = true := by
  cases part with
  | none =>
    obtain rfl := Except.ok.inj h
    decide
  | some value =>
    simp only [normalizeCandidateIdPart, require_bind_eq_ok, pure_eq_ok, Except.ok.injEq,
      decide_eq_true_eq] at h
    obtain ⟨hne, rfl⟩ := h
    set words := hyphenate (fun c => !isSlugChar c) (lower (strip value)).toList with hwords
    set joined := hyphenate (· == '-') words with hjoined
    -- Only hyphens and characters of words are left, and no two hyphens are neighbours.
    have hchars : ∀ c ∈ joined, isIdChar c = true := by
      intro c hc
      rcases mem_hyphenateFrom hc with rfl | ⟨hc, hdash⟩
      · decide
      · rcases mem_hyphenateFrom hc with rfl | ⟨-, hslug⟩
        · simp at hdash
        · simpa [isIdChar] using Or.inl hslug
    have hchain : joined.IsChain Spaced := (isChain_hyphenateFrom (by decide) false words).1
    have hmiddle : stripBy (· == '-') joined <:+: joined :=
      (List.rdropWhile_prefix _ _).isInfix.trans (List.dropWhile_suffix _).isInfix
    have hlast : (stripBy (· == '-') joined).getLast? ≠ some '-' := by
      intro hlast
      have hmem : stripBy (· == '-') joined ≠ [] := by
        intro hnil
        simp [hnil] at hlast
      rw [List.getLast?_eq_some_getLast hmem, Option.some.injEq] at hlast
      have hkept := List.rdropWhile_last_not (· == '-') (joined.dropWhile (· == '-')) hmem
      exact hkept (beq_iff_eq.mpr hlast)
    have hrest : slugRest (stripBy (· == '-') joined) = true :=
      slugRest_of_isChain (fun c hc => hchars c (hmiddle.subset hc)) ( List.IsChain.infix hchain hmiddle) hlast
    have hhead := dropWhile_stripBy (· == '-') joined
    unfold isSlug
    rw [String.toList_ofList]
    cases hcs : stripBy (· == '-') joined with
    | nil => exact absurd (congrArg String.ofList hcs) hne
    | cons c cs =>
      rw [hcs] at hhead hrest
      have hc : c ≠ '-' := by
        rintro rfl
        have hlength := congrArg List.length hhead
        have hle := (List.dropWhile_suffix (· == '-') (l := cs)).length_le
        simp at hlength
        omega
      rw [slugRest.eq_3 _ _ fun _ _ heq _ => hc heq] at hrest
      exact hrest

/-- An identifier that is built is well formed. -/
theorem isSlug_buildExecutionCandidateId {identity : Identity} {id : String}
    (h : buildExecutionCandidateId lower identity = .ok id) : isSlug id = true := by
  simp only [buildExecutionCandidateId, bind_eq_ok, pure_eq_ok, Except.ok.injEq] at h
  obtain ⟨words, hwords, rfl⟩ := h
  refine isSlug_join (by simp) (List.forall_mem_cons.mpr ⟨by decide, fun word hword => ?_⟩)
  obtain ⟨part, -, hpart⟩ := Rows.exists_of_mem_right (mapM_eq_ok_iff.mp hwords) hword
  exact isSlug_normalizeCandidateIdPart hpart

theorem normalizeCandidateIdPart_strip (value : String) :
    normalizeCandidateIdPart lower (some (strip value)) =
      normalizeCandidateIdPart lower (some value) := by
  rw [normalizeCandidateIdPart, normalizeCandidateIdPart, strip_strip]

/-- The identifier does not depend on blanks around the target. -/
theorem buildExecutionCandidateId_strip (identity : Identity) :
    buildExecutionCandidateId lower { identity with target_id := strip identity.target_id } =
      buildExecutionCandidateId lower identity := by
  simp only [buildExecutionCandidateId, Identity.parts, List.mapM_cons,
    normalizeCandidateIdPart_strip]

/-- An identifier is built exactly when each part has a letter or a digit. -/
theorem exists_buildExecutionCandidateId {identity : Identity} :
    (∃ id, buildExecutionCandidateId lower identity = .ok id) ↔
      ∀ part ∈ identity.parts, ∃ word, normalizeCandidateIdPart lower part = .ok word := by
  rw [← exists_mapM_eq_ok]
  simp only [buildExecutionCandidateId, bind_eq_ok, pure_eq_ok, Except.ok.injEq]
  constructor
  · rintro ⟨-, words, hwords, -⟩
    exact ⟨words, hwords⟩
  · rintro ⟨words, hwords⟩
    exact ⟨_, words, hwords, rfl⟩

/-! ## Texts -/

/-- A text that is not blank and carries no command or secret. -/
structure SafeText (lower : String → String) (value : String) : Prop where
  nonempty : strip value ≠ ""
  safe : containsUnsafePayload lower (strip value) = false

/-- An item of a tuple of identifiers that is not refused. -/
structure SafeItem (lower : String → String) (value : String) : Prop where
  nonempty : lower (strip value) ≠ ""
  safe : containsUnsafePayload lower (lower (strip value)) = false

theorem validateSafeText_eq_ok {value text : String} :
    validateSafeText lower value = .ok text ↔ SafeText lower value ∧ strip value = text := by
  simp only [validateSafeText, require_bind_eq_ok, pure_eq_ok, Except.ok.injEq, decide_eq_true_eq,
    Bool.not_eq_true']
  constructor
  · rintro ⟨hne, hsafe, heq⟩
    exact ⟨⟨hne, hsafe⟩, heq⟩
  · rintro ⟨h, heq⟩
    exact ⟨h.nonempty, h.safe, heq⟩

theorem exists_normalizeUniqueString {value : String} :
    (∃ item, normalizeUniqueString lower value = .ok item) ↔ SafeItem lower value := by
  simp only [normalizeUniqueString, require_bind_eq_ok, pure_eq_ok, Except.ok.injEq,
    decide_eq_true_eq, Bool.not_eq_true']
  constructor
  · rintro ⟨-, hne, hsafe, -⟩
    exact ⟨hne, hsafe⟩
  · intro h
    exact ⟨_, h.nonempty, h.safe, rfl⟩

theorem exists_normalizeUniqueStringTuple {values : List String} :
    (∃ items, normalizeUniqueStringTuple lower values = .ok items) ↔
      ∀ value ∈ values, SafeItem lower value := by
  simp only [← exists_normalizeUniqueString]
  rw [← exists_mapM_eq_ok]
  simp only [normalizeUniqueStringTuple, bind_eq_ok, pure_eq_ok, Except.ok.injEq]
  constructor
  · rintro ⟨-, values, h, -⟩
    exact ⟨values, h⟩
  · rintro ⟨values, h⟩
    exact ⟨_, values, h, rfl⟩

theorem exists_validateCompatibilityStatus {value : Option String} :
    (∃ status, validateCompatibilityStatus lower value = .ok status) ↔
      ∀ text ∈ value, lower (strip text) ∈ COMPATIBILITY_STATUSES := by
  cases value with
  | none => simp [validateCompatibilityStatus]
  | some text => simp [validateCompatibilityStatus]

theorem checkPattern_eq_ok {field value : String} :
    checkPattern field value = .ok () ↔ isSlug value = true := require_eq_ok

theorem checkOptionalPattern_eq_ok {field : String} {value : Option String} :
    checkOptionalPattern field value = .ok () ↔ value.all isSlug = true := require_eq_ok

/-! ## Candidates -/

namespace ExecutionCandidate

/-- What the validators of the fields accept. -/
structure Acceptable (lower : String → String) (c : ExecutionCandidate) : Prop where
  source_recommendation_id : isSlug c.source_recommendation_id = true
  source_subsystem : isSlug c.source_subsystem = true
  recommendation_class : isSlug c.recommendation_class = true
  catalog_item_id : c.catalog_item_id.all isSlug = true
  target_id : SafeText lower c.target_id
  target_type : isSlug c.target_type = true
  rationale : SafeText lower c.rationale
  evidence_ids : ∀ value ∈ c.evidence_ids, SafeItem lower value
  compatibility_assessment_id : c.compatibility_assessment_id.all isSlug = true
  compatibility_status : ∀ text ∈ c.compatibility_status,
    lower (strip text) ∈ COMPATIBILITY_STATUSES
  relationship_ids : ∀ value ∈ c.relationship_ids, SafeItem lower value

/-- A candidate as the projection passes it to the constructor: its identifier is the one that is
built, it does not expire, has no target, and its effect is that of its intent. -/
structure Fresh (lower : String → String) (c : ExecutionCandidate) : Prop where
  category : c.execution_category = c.execution_intent.category
  id : buildExecutionCandidateId lower c.identity = .ok c.id
  expires_at : c.expires_at = none
  effect_kind : c.execution_intent = .restartService ↔ c.effect_kind = .operationalAction
  operational_target : c.operational_target = none
  resolution_reason : c.operational_target_resolution_reason = none

theorem Fresh.validateCandidate {c : ExecutionCandidate} (h : Fresh lower c) :
    c.validateCandidate lower = .ok () := by
  unfold ExecutionCandidate.validateCandidate
  rw [h.id, h.category, h.expires_at, h.operational_target]
  by_cases hintent : c.execution_intent = .restartService
  · simp [hintent, h.effect_kind.mp hintent]
  · have heffect : c.effect_kind ≠ .operationalAction := fun heq =>
      hintent (h.effect_kind.mpr heq)
    simp [hintent, heffect]

/-- A fresh candidate is constructed exactly when its fields are accepted. -/
theorem Fresh.exists_construct {c : ExecutionCandidate} (h : Fresh lower c) :
    (∃ candidate, construct lower c = .ok candidate) ↔ Acceptable lower c := by
  simp only [construct, bind_eq_ok, exists_unit, checkPattern_eq_ok, checkOptionalPattern_eq_ok,
    validateSafeText_eq_ok, pure_eq_ok, Except.ok.injEq]
  constructor
  · rintro ⟨_, -, hsource, hsubsystem, hclass, hcatalog, _, ⟨htarget, -⟩, htype, _, ⟨hrationale, -⟩,
      _, hevidence, hassessment, _, hstatus, _, hrelationship, -⟩
    exact {
      source_recommendation_id := hsource
      source_subsystem := hsubsystem
      recommendation_class := hclass
      catalog_item_id := hcatalog
      target_id := htarget
      target_type := htype
      rationale := hrationale
      evidence_ids := exists_normalizeUniqueStringTuple.mp ⟨_, hevidence⟩
      compatibility_assessment_id := hassessment
      compatibility_status := exists_validateCompatibilityStatus.mp ⟨_, hstatus⟩
      relationship_ids := exists_normalizeUniqueStringTuple.mp ⟨_, hrelationship⟩ }
  · intro ha
    obtain ⟨evidence_ids, hevidence⟩ := exists_normalizeUniqueStringTuple.mpr ha.evidence_ids
    obtain ⟨status, hstatus⟩ := exists_validateCompatibilityStatus.mpr ha.compatibility_status
    obtain ⟨relationship_ids, hrelationship⟩ :=
      exists_normalizeUniqueStringTuple.mpr ha.relationship_ids
    have hid := (buildExecutionCandidateId_strip c.identity).trans h.id
    refine ⟨_, isSlug_buildExecutionCandidateId h.id, ha.source_recommendation_id,
      ha.source_subsystem, ha.recommendation_class, ha.catalog_item_id, _, ⟨ha.target_id, rfl⟩,
      ha.target_type, _, ⟨ha.rationale, rfl⟩, evidence_ids, hevidence,
      ha.compatibility_assessment_id, status, hstatus, relationship_ids, hrelationship, ?_, rfl⟩
    apply Fresh.validateCandidate
    exact {
      category := h.category
      id := hid
      expires_at := h.expires_at
      effect_kind := h.effect_kind
      operational_target := h.operational_target
      resolution_reason := h.resolution_reason }

/-- What the constructor leaves as it is, and what it has checked. -/
structure Constructed (lower : String → String) (c candidate : ExecutionCandidate) : Prop where
  id : buildExecutionCandidateId lower candidate.identity = .ok candidate.id
  source_recommendation_id : candidate.source_recommendation_id = c.source_recommendation_id
  execution_intent : candidate.execution_intent = c.execution_intent
  operational_target : candidate.operational_target = c.operational_target
  resolution_reason :
    candidate.operational_target_resolution_reason = c.operational_target_resolution_reason

theorem constructed_of_construct {c candidate : ExecutionCandidate}
    (h : construct lower c = .ok candidate) : Constructed lower c candidate := by
  simp only [construct, bind_eq_ok, pure_eq_ok, Except.ok.injEq] at h
  obtain ⟨_, -, _, -, _, -, _, -, _, -, _, -, _, -, _, -, _, -, _, -, _, -, _, -, _, hvalidate,
    rfl⟩ := h
  simp only [ExecutionCandidate.validateCandidate, bind_eq_ok, exists_unit, require_eq_ok,
    decide_eq_true_eq] at hvalidate
  obtain ⟨-, id, hid, hsame, -⟩ := hvalidate
  exact ⟨hid.trans (congrArg Except.ok hsame.symm), rfl, rfl, rfl, rfl⟩

end ExecutionCandidate

/-! ## The advisory branch -/

variable {finding : Finding} {subject : Subject} {now : DateTime}

/-- What a finding must bring for the candidate of an advisory class to be built. -/
structure Presentable (lower : String → String) (finding : Finding) (subject : Subject) :
    Prop where
  parts : ∀ part ∈ (candidateIdentity finding subject .unsupported .unsupportedRecommendation).parts,
    ∃ word, normalizeCandidateIdPart lower part = .ok word
  source_finding_id : isSlug subject.source_finding_id = true
  catalog_item_id : (stringDetail finding.details "catalog_item_id").all isSlug = true
  target_id : SafeText lower subject.target_id
  target_type : isSlug (replaceChar '_' '-' subject.target_type) = true
  message : SafeText lower finding.message
  evidence_ids : ∀ value ∈ subject.evidence_ids, SafeItem lower value
  compatibility_assessment_id :
    (stringDetail finding.details "compatibility_assessment_id").all isSlug = true
  compatibility_status : ∀ text ∈ stringDetail finding.details "compatibility_status",
    lower (strip text) ∈ COMPATIBILITY_STATUSES
  relationship_ids :
    ∀ value ∈ tupleDetailOr lower finding.details "relationship_ids" "compatibility_finding_ids",
      SafeItem lower value

theorem isSlug_of_trusted {source : String} (h : source ∈ TRUSTED_SOURCE_SUBSYSTEMS) :
    isSlug source = true := by
  revert source
  decide

theorem RecommendationClass.isSlug_hyphenated (c : RecommendationClass) :
    isSlug c.hyphenated = true := by
  rw [hyphenated, isSlug, replaceChar, String.toList_ofList]
  cases c <;> decide

theorem exists_unsupportedCandidate (now : DateTime)
    (htrusted : subject.source_subsystem ∈ TRUSTED_SOURCE_SUBSYSTEMS) :
    (∃ candidate, unsupportedCandidate lower finding subject now = .ok candidate) ↔
      Presentable lower finding subject := by
  unfold unsupportedCandidate
  constructor
  · rintro ⟨candidate, h⟩
    obtain ⟨id, hid, h⟩ := bind_eq_ok.mp h
    have hfresh := (ExecutionCandidate.Fresh.exists_construct ?_).mp ⟨candidate, h⟩
    · exact {
        parts := exists_buildExecutionCandidateId.mp ⟨id, hid⟩
        source_finding_id := hfresh.source_recommendation_id
        catalog_item_id := hfresh.catalog_item_id
        target_id := hfresh.target_id
        target_type := hfresh.target_type
        message := hfresh.rationale
        evidence_ids := hfresh.evidence_ids
        compatibility_assessment_id := hfresh.compatibility_assessment_id
        compatibility_status := hfresh.compatibility_status
        relationship_ids := hfresh.relationship_ids }
    · exact ⟨rfl, hid, rfl, by simp, rfl, rfl⟩
  · intro h
    obtain ⟨id, hid⟩ := exists_buildExecutionCandidateId.mpr h.parts
    rw [hid, ok_bind]
    refine (ExecutionCandidate.Fresh.exists_construct ?_).mpr ?_
    · exact ⟨rfl, hid, rfl, by simp, rfl, rfl⟩
    · exact {
        source_recommendation_id := h.source_finding_id
        source_subsystem := isSlug_of_trusted htrusted
        recommendation_class := subject.recommendation_class.isSlug_hyphenated
        catalog_item_id := h.catalog_item_id
        target_id := h.target_id
        target_type := h.target_type
        rationale := h.message
        evidence_ids := h.evidence_ids
        compatibility_assessment_id := h.compatibility_assessment_id
        compatibility_status := h.compatibility_status
        relationship_ids := h.relationship_ids }

/-! ## The guarded branch -/

/-- A block that fails with a `ValueError` only. -/
def Refuses {α : Type} (block : Except PyError α) : Prop :=
  ∀ error, block = .error error → ∃ message, error = .valueError message

section Refuses

variable {α β : Type}

theorem refuses_ok (a : α) : Refuses (.ok a) := by
  intro error h
  cases h

theorem refuses_require (condition : Bool) (message : String) :
    Refuses (require condition (.valueError message)) := by
  intro error h
  cases condition with
  | true => cases h
  | false =>
    injection h with h
    exact ⟨message, h.symm⟩

theorem refuses_bind {block : Except PyError α} {next : α → Except PyError β}
    (hblock : Refuses block) (hnext : ∀ a, Refuses (next a)) : Refuses (block >>= next) := by
  intro error h
  cases hcase : block with
  | ok a =>
    rw [hcase, ok_bind] at h
    exact hnext a error h
  | error e =>
    rw [hcase, error_bind] at h
    injection h with h
    exact h ▸ hblock e hcase

theorem refuses_mapM {read : α → Except PyError β} (hread : ∀ a, Refuses (read a))
    (items : List α) : Refuses (items.mapM read) := by
  induction items with
  | nil => exact refuses_ok _
  | cons item items ih =>
    rw [List.mapM_cons]
    exact refuses_bind (hread item) fun _ => refuses_bind ih fun _ => refuses_ok _

end Refuses

theorem refuses_normalizeCandidateIdPart (part : Option String) :
    Refuses (normalizeCandidateIdPart lower part) := by
  cases part with
  | none => exact refuses_ok _
  | some value => exact refuses_bind (refuses_require _ _) fun _ => refuses_ok _

theorem refuses_buildExecutionCandidateId (identity : Identity) :
    Refuses (buildExecutionCandidateId lower identity) :=
  refuses_bind (refuses_mapM refuses_normalizeCandidateIdPart _) fun _ => refuses_ok _

theorem refuses_validateSafeText (value : String) : Refuses (validateSafeText lower value) :=
  refuses_bind (refuses_require _ _) fun _ => refuses_bind (refuses_require _ _) fun _ =>
    refuses_ok _

theorem refuses_normalizeUniqueStringTuple (values : List String) :
    Refuses (normalizeUniqueStringTuple lower values) :=
  refuses_bind (refuses_mapM (fun _ => refuses_bind (refuses_require _ _) fun _ =>
    refuses_bind (refuses_require _ _) fun _ => refuses_ok _) _) fun _ => refuses_ok _

theorem refuses_validateCompatibilityStatus (value : Option String) :
    Refuses (validateCompatibilityStatus lower value) := by
  cases value with
  | none => exact refuses_ok _
  | some text => exact refuses_bind (refuses_require _ _) fun _ => refuses_ok _

theorem refuses_composeMutation (details : Dict Json) : Refuses (composeMutation lower details) := by
  unfold composeMutation
  split
  · rw [map_eq_pure_bind]
    refine refuses_bind ?_ fun _ => refuses_ok _
    exact refuses_bind (refuses_require _ _) fun _ => refuses_bind (refuses_require _ _) fun _ =>
      refuses_bind (refuses_require _ _) fun _ => refuses_bind (refuses_require _ _) fun _ =>
      refuses_bind (refuses_require _ _) fun _ => refuses_ok _
  · exact refuses_ok _

theorem ExecutionCandidate.refuses_validateCandidate {c : ExecutionCandidate}
    (h : c.expires_at = none) : Refuses (c.validateCandidate lower) := by
  unfold ExecutionCandidate.validateCandidate
  rw [h]
  refine refuses_bind (refuses_require _ _) fun _ =>
    refuses_bind (refuses_buildExecutionCandidateId _) fun id =>
    refuses_bind (refuses_require _ _) fun _ => refuses_bind ?_ fun _ => refuses_require _ _
  split
  · exact refuses_require _ _
  · exact refuses_require _ _

/-- The constructor of a candidate that does not expire fails with a `ValueError` only. -/
theorem ExecutionCandidate.refuses_construct {c : ExecutionCandidate} (h : c.expires_at = none) :
    Refuses (construct lower c) := by
  unfold construct
  exact refuses_bind (refuses_require _ _) fun _ => refuses_bind (refuses_require _ _) fun _ =>
    refuses_bind (refuses_require _ _) fun _ => refuses_bind (refuses_require _ _) fun _ =>
    refuses_bind (refuses_require _ _) fun _ => refuses_bind (refuses_validateSafeText _) fun _ =>
    refuses_bind (refuses_require _ _) fun _ => refuses_bind (refuses_validateSafeText _) fun _ =>
    refuses_bind (refuses_normalizeUniqueStringTuple _) fun _ =>
    refuses_bind (refuses_require _ _) fun _ =>
    refuses_bind (refuses_validateCompatibilityStatus _) fun _ =>
    refuses_bind (refuses_normalizeUniqueStringTuple _) fun _ =>
    refuses_bind (refuses_validateCandidate h) fun _ => refuses_ok _

theorem refuses_classifiedCandidate (classification : ExecutionClassification) :
    Refuses (classifiedCandidate lower finding subject classification now) :=
  refuses_bind (refuses_buildExecutionCandidateId _) fun _ =>
    refuses_bind (refuses_composeMutation _) fun _ => ExecutionCandidate.refuses_construct rfl

/-- The guarded branch never raises. -/
theorem exists_buildCandidateResult (lower : String → String)
    (available_evidence_ids : List String) (now : DateTime) (finding : Finding) (subject : Subject) :
    ∃ result, buildCandidateResult lower available_evidence_ids now finding subject = .ok result := by
  unfold buildCandidateResult
  split
  · exact ⟨_, rfl⟩
  · next classification _ =>
    split
    · exact ⟨_, rfl⟩
    · exact ⟨_, rfl⟩
    · next error hother hcandidate =>
      obtain ⟨message, rfl⟩ := refuses_classifiedCandidate classification error hcandidate
      exact absurd rfl (hother message)

end AtlasOS.Candidates
