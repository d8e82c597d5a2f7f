import AtlasOS.Candidates.OperatorIntents
import AtlasOS.Candidates.PerFinding

/-!
# What an identifier tells of an identity

The parts of an identity are cut into words, and the words are joined by the hyphen
that also stands inside the parts. An identifier therefore tells the words of an
identity in their order, and neither what separated them nor where a part ends. Two
identities of the same words have one identifier: of two such candidates the later
one is dropped, or is never found.
-/

namespace AtlasOS.Candidates

/-! ## Words -/

section Lowered

variable (lower : String → String)

/-- The words of a part; a part that is missing is one word. -/
def partWords : Option String → List (List Char)
  | none => ["none".toList]
  | some value => words (fun c => !isSlugChar c) (lower (strip value)).toList

/-- The words of an identity in the order of its parts. -/
def Identity.words (identity : Identity) : List (List Char) :=
  identity.parts.flatMap (partWords lower)

variable {lower}

/-- A part is normalized to its words. -/
theorem words_normalizeCandidateIdPart {part : Option String} {text : String}
    (h : normalizeCandidateIdPart lower part = .ok text) :
    AtlasOS.words (· == '-') text.toList = partWords lower part := by
  cases part with
  | none =>
    obtain rfl := Except.ok.inj h
    rfl
  | some value =>
    simp only [normalizeCandidateIdPart, require_bind_eq_ok, pure_eq_ok, Except.ok.injEq] at h
    obtain ⟨-, rfl⟩ := h
    rw [String.toList_ofList, words_stripBy, words_hyphenate (by decide),
      words_hyphenate (by decide), partWords]

/-- The words of an identifier are those of its identity. -/
theorem words_buildExecutionCandidateId {identity : Identity} {id : String}
    (h : buildExecutionCandidateId lower identity = .ok id) :
    AtlasOS.words (· == '-') id.toList = "candidate".toList :: identity.words lower := by
  simp only [buildExecutionCandidateId, bind_eq_ok, pure_eq_ok, Except.ok.injEq] at h
  obtain ⟨texts, htexts, rfl⟩ := h
  have hparts : texts.flatMap (fun text => AtlasOS.words (· == '-') text.toList) =
      identity.words lower := by
    rw [Identity.words]
    have hall := mapM_eq_ok_iff.mp htexts
    clear htexts
    generalize identity.parts = parts at hall
    induction hall with
    | nil => rfl
    | cons hread _ ih =>
      rw [List.flatMap_cons, List.flatMap_cons, ih, words_normalizeCandidateIdPart hread]
  have hcandidate : AtlasOS.words (· == '-') "candidate".toList = ["candidate".toList] := by decide
  have hdash : "-".toList = ['-'] := rfl
  rw [join, String.toList_ofList, hdash, words_intercalate (by decide), List.map_cons,
    List.flatMap_cons, hcandidate, List.flatMap_map, hparts, List.singleton_append]

/-- Two identities have one identifier exactly when they have the same words. -/
theorem id_eq_iff_words_eq {identity identity' : Identity} {id id' : String}
    (h : buildExecutionCandidateId lower identity = .ok id)
    (h' : buildExecutionCandidateId lower identity' = .ok id') :
    id = id' ↔ identity.words lower = identity'.words lower := by
  rw [← words_injective_of_isSlug (isSlug_buildExecutionCandidateId h)
    (isSlug_buildExecutionCandidateId h'), words_buildExecutionCandidateId h,
    words_buildExecutionCandidateId h', List.cons.injEq, eq_self, true_and]

end Lowered

/-! ## The projection -/

namespace Environment

variable {env : Environment} {finding : Finding} {findings : List Finding}

/-- The projection of findings, as the loop computes it. -/
def project (env : Environment) (findings : List Finding) : Except PyError (List ProjectionResult) :=
  projectExecutionCandidates env.lower env.augmentedEvidenceIds env.now findings

/-- A further finding whose candidate has the identifier of an earlier one adds no result. -/
theorem projectFrom_append_singleton {seen : List String} {results : List ProjectionResult}
    {result : ProjectionResult} {candidate : ExecutionCandidate}
    (h : projectFrom env.lower env.augmentedEvidenceIds env.now seen findings = .ok results)
    (hfinding : env.projectFinding finding = .ok result)
    (hcandidate : result.candidate = some candidate) :
    projectFrom env.lower env.augmentedEvidenceIds env.now seen (findings ++ [finding]) =
      .ok (if candidate.id ∈ seen ++ (env.projected findings).map (fun item => item.2.id) then
        results else results ++ [result]) := by
  induction findings generalizing seen results with
  | nil =>
    obtain rfl := Except.ok.inj h
    unfold projectFinding at hfinding
    have hprojected : env.projected [] = [] := rfl
    rw [List.nil_append, projectFrom, hfinding, ok_bind, hcandidate, hprojected, List.map_nil,
      List.append_nil]
    by_cases hseen : candidate.id ∈ seen
    · simp [hseen, projectFrom]
    · simp [hseen, projectFrom]
  | cons first findings ih =>
    rw [projectFrom] at h
    obtain ⟨head, hhead, h⟩ := bind_eq_ok.mp h
    have hcandidateOf : env.candidateOf first = head.candidate := by
      simp only [candidateOf, projectFinding, hhead]
    rw [List.cons_append, projectFrom, hhead, ok_bind, projected_cons, hcandidateOf]
    cases hfirst : head.candidate with
    | none =>
      rw [hfirst] at h
      obtain ⟨rest, hrest, h⟩ := bind_eq_ok.mp h
      obtain rfl := Except.ok.inj h
      simp only [ih hrest, ok_bind, pure_eq_ok]
      split_ifs <;> rfl
    | some earlier =>
      rw [hfirst] at h
      simp only at h ⊢
      by_cases hseen : earlier.id ∈ seen
      · rw [if_pos hseen] at h ⊢
        rw [ih h]
        refine congrArg Except.ok (if_congr ?_ rfl rfl)
        simp only [List.mem_append, List.map_cons, List.mem_cons]
        constructor
        · exact fun hmem => hmem.imp_right Or.inr
        · rintro (hmem | heq | hmem)
          · exact .inl hmem
          · exact .inl (heq ▸ hseen)
          · exact .inr hmem
      · rw [if_neg hseen] at h ⊢
        obtain ⟨rest, hrest, h⟩ := bind_eq_ok.mp h
        obtain rfl := Except.ok.inj h
        rw [ih hrest, ok_bind, pure_eq_ok]
        have hmem : candidate.id ∈ earlier.id :: seen ++ (env.projected findings).map
            (fun item => item.2.id) ↔ candidate.id ∈ seen ++ ((first, earlier) ::
              env.projected findings).map (fun item => item.2.id) := by
          simp only [List.mem_append, List.map_cons, List.mem_cons]
          exact or_assoc.trans or_left_comm
        rw [if_congr hmem rfl rfl]
        split_ifs <;> rfl

/-- A finding is dropped exactly when an earlier candidate has the words of its identity. -/
theorem project_append_singleton_iff {results : List ProjectionResult} {result : ProjectionResult}
    {candidate : ExecutionCandidate} (h : env.project findings = .ok results)
    (hfinding : env.projectFinding finding = .ok result)
    (hcandidate : result.candidate = some candidate) :
    env.project (findings ++ [finding]) = .ok results ↔
      ∃ earlier ∈ env.projected findings,
        earlier.2.identity.words env.lower = candidate.identity.words env.lower := by
  have hbuilt := built_of_projectFinding hfinding hcandidate
  have hsame : candidate.id ∈ [] ++ (env.projected findings).map (fun item => item.2.id) ↔
      ∃ earlier ∈ env.projected findings,
        earlier.2.identity.words env.lower = candidate.identity.words env.lower := by
    rw [List.nil_append, List.mem_map]
    refine exists_congr fun earlier => and_congr_right fun hearlier => ?_
    obtain ⟨_, hbuilt'⟩ := exists_built hearlier
    exact id_eq_iff_words_eq hbuilt'.id hbuilt.id
  unfold project projectExecutionCandidates at h ⊢
  rw [projectFrom_append_singleton h hfinding hcandidate, ← hsame, Except.ok.injEq]
  constructor
  · intro heq
    by_contra hmem
    rw [if_neg hmem] at heq
    simpa using congrArg List.length heq
  · intro hmem
    rw [if_pos hmem]

/-! ## The collection -/

section Collection

variable {resolver : String → String → String → Except OperationalTargetError IntentTarget}
  {records : List OperatorOperationalIntentRecord}

/-- A candidate that one of the findings or one of the records gives. -/
def Meant (env : Environment)
    (resolver : String → String → String → Except OperationalTargetError IntentTarget)
    (findings : List Finding) (records : List OperatorOperationalIntentRecord)
    (candidate : ExecutionCandidate) : Prop :=
  (∃ finding ∈ findings, env.candidateOf finding = some candidate) ∨
    ∃ record ∈ records, ∃ reason,
      projectOperatorIntentWithReason env.lower resolver record env.now = .ok (candidate, reason)

/-- The candidate of a record has the identifier of its identity. -/
theorem id_of_projectOperatorIntentWithReason {record : OperatorOperationalIntentRecord}
    {now : DateTime} {candidate : ExecutionCandidate} {reason : IntentReason}
    (h : projectOperatorIntentWithReason env.lower resolver record now = .ok (candidate, reason)) :
    buildExecutionCandidateId env.lower candidate.identity = .ok candidate.id := by
  unfold projectOperatorIntentWithReason at h
  obtain ⟨built, hbuilt, h⟩ := bind_eq_ok.mp h
  have hid : buildExecutionCandidateId env.lower built.identity = .ok built.id := by
    unfold candidateFromRecord at hbuilt
    obtain ⟨digest, -, hbuilt⟩ := bind_eq_ok.mp hbuilt
    obtain ⟨id, -, hbuilt⟩ := bind_eq_ok.mp hbuilt
    obtain ⟨target, -, hconstruct⟩ := bind_eq_ok.mp hbuilt
    exact (ExecutionCandidate.constructed_of_construct hconstruct).id
  -- Only the status is changed afterwards.
  have hstatus (status : ExecutionCandidateStatus) :
      buildExecutionCandidateId env.lower { built with status }.identity =
        .ok { built with status }.id := hid
  obtain ⟨expired, -, h⟩ := bind_eq_ok.mp h
  split at h
  · obtain ⟨rfl, -⟩ := Prod.mk.inj (Except.ok.inj h)
    exact hid
  · obtain ⟨target, -, h⟩ := bind_eq_ok.mp h
    split at h
    · obtain ⟨rfl, -⟩ := Prod.mk.inj (Except.ok.inj h)
      exact hid
    · split at h
      · obtain ⟨rfl, -⟩ := Prod.mk.inj (Except.ok.inj h)
        exact hid
      · obtain ⟨rfl, -⟩ := Prod.mk.inj (Except.ok.inj h)
        exact hstatus _

theorem id_of_meant {candidate : ExecutionCandidate}
    (h : env.Meant resolver findings records candidate) :
    buildExecutionCandidateId env.lower candidate.identity = .ok candidate.id := by
  rcases h with ⟨finding, hfinding, hcandidate⟩ | ⟨record, -, reason, hrecord⟩
  · have hmem : (finding, candidate) ∈ env.projected findings :=
      mem_projected.mpr ⟨hfinding, hcandidate⟩
    obtain ⟨_, hbuilt⟩ := exists_built hmem
    exact hbuilt.id
  · exact id_of_projectOperatorIntentWithReason hrecord

/-- The candidates of the findings keep the first of each identifier. -/
theorem findingCandidates_spec {kept : List ExecutionCandidate}
    (h : env.findingCandidates findings = .ok kept) :
    (∀ candidate ∈ kept, ∃ item ∈ env.projected findings,
        candidate.id = item.2.id ∧ candidate.identity = item.2.identity) ∧
      ∀ item ∈ env.projected findings, ∃ candidate ∈ kept, candidate.id = item.2.id := by
  have hcollect : env.collectCurrentExecutionCandidates findings =
      .ok (Rows.orderBy ExecutionCandidate.id kept) := by
    unfold findingCandidates at h
    obtain ⟨results, hresults, h⟩ := bind_eq_ok.mp h
    unfold collectCurrentExecutionCandidates
    rw [hresults, ok_bind, h]
    rfl
  obtain ⟨-, collected, hcollected, hsame⟩ := collect_eq_ok.mp hcollect
  have hmem (candidate : ExecutionCandidate) : candidate ∈ kept ↔ candidate ∈ collected := by
    have hordered : candidate ∈ Rows.orderBy ExecutionCandidate.id kept ↔ candidate ∈ kept :=
      Rows.mem_orderBy
    rw [← hordered, ← hsame, Rows.mem_orderBy]
  have hrows := mapM_eq_ok_iff.mp hcollected
  constructor
  · intro candidate hcandidate
    obtain ⟨item, hitem, hread⟩ := Rows.exists_of_mem_right hrows ((hmem candidate).mp hcandidate)
    exact ⟨item, Rows.mem_of_mem_firsts hitem, keeps_of_collectResult hread⟩
  · intro item hitem
    obtain ⟨first, hfirst, hid⟩ := Rows.exists_firsts (fun item => item.2.id) hitem
    obtain ⟨candidate, hcandidate, hread⟩ := Rows.exists_of_mem_left hrows hfirst
    exact ⟨candidate, (hmem candidate).mpr hcandidate, (keeps_of_collectResult hread).1.trans hid⟩

/-- A collection holds meant candidates only, and one for each identifier that is meant. -/
theorem collectWithIntents_spec {candidates : List ExecutionCandidate}
    (h : env.collectWithIntents resolver findings records = .ok candidates) :
    (∀ candidate ∈ candidates, ∃ meant, env.Meant resolver findings records meant ∧
        candidate.id = meant.id ∧ candidate.identity = meant.identity) ∧
      ∀ meant, env.Meant resolver findings records meant →
        ∃ candidate ∈ candidates, candidate.id = meant.id := by
  simp only [collectWithIntents, bind_eq_ok, mapError_eq_ok, pure_eq_ok, Except.ok.injEq] at h
  obtain ⟨kept, hkept, intents, hintents, rfl⟩ := h
  obtain ⟨hfrom, hinto⟩ := findingCandidates_spec hkept
  have hrows := mapM_eq_ok_iff.mp hintents
  constructor
  · intro candidate hcandidate
    rw [Rows.mem_orderBy, List.mem_append, List.mem_map] at hcandidate
    rcases hcandidate with hcandidate | ⟨intent, hintent, rfl⟩
    · obtain ⟨item, hitem, hid, hidentity⟩ := hfrom candidate hcandidate
      obtain ⟨hfinding, hof⟩ := mem_projected.mp hitem
      exact ⟨item.2, .inl ⟨item.1, hfinding, hof⟩, hid, hidentity⟩
    · obtain ⟨record, hrecord, hread⟩ := Rows.exists_of_mem_right hrows hintent
      exact ⟨intent.1, .inr ⟨record, hrecord, intent.2, hread⟩, rfl, rfl⟩
  · rintro meant (⟨finding, hfinding, hof⟩ | ⟨record, hrecord, reason, hread⟩)
    · obtain ⟨candidate, hcandidate, hid⟩ :=
        hinto (finding, meant) (mem_projected.mpr ⟨hfinding, hof⟩)
      exact ⟨candidate, Rows.mem_orderBy.mpr (List.mem_append_left _ hcandidate), hid⟩
    · obtain ⟨intent, hintent, hread'⟩ := Rows.exists_of_mem_left hrows hrecord
      obtain rfl := Except.ok.inj (hread'.symm.trans hread)
      refine ⟨meant, Rows.mem_orderBy.mpr (List.mem_append_right _ ?_), rfl⟩
      exact List.mem_map.mpr ⟨_, hintent, rfl⟩

/-- A candidate that is meant is found under its identifier exactly when the words of identities
tell them apart. -/
theorem findCandidate_iff {candidates : List ExecutionCandidate}
    (h : env.collectWithIntents resolver findings records = .ok candidates) :
    (∀ meant, env.Meant resolver findings records meant →
        ∃ found, findCandidate candidates meant.id = some found ∧ found.identity = meant.identity) ↔
      ∀ meant other, env.Meant resolver findings records meant →
        env.Meant resolver findings records other →
        meant.identity.words env.lower = other.identity.words env.lower →
          meant.identity = other.identity := by
  obtain ⟨hfrom, hinto⟩ := collectWithIntents_spec h
  constructor
  · intro hfound meant other hmeant hother hwords
    have hid : meant.id = other.id :=
      (id_eq_iff_words_eq (id_of_meant hmeant) (id_of_meant hother)).mpr hwords
    obtain ⟨found, hlookup, hidentity⟩ := hfound meant hmeant
    obtain ⟨found', hlookup', hidentity'⟩ := hfound other hother
    obtain rfl : found = found' := Option.some.inj (hlookup.symm.trans (hid ▸ hlookup'))
    exact hidentity.symm.trans hidentity'
  · intro hseparate meant hmeant
    obtain ⟨candidate, hcandidate, hid⟩ := hinto meant hmeant
    have hsome : (findCandidate candidates meant.id).isSome = true :=
      List.find?_isSome.mpr ⟨candidate, hcandidate, decide_eq_true hid⟩
    obtain ⟨found, hfound⟩ := Option.isSome_iff_exists.mp hsome
    refine ⟨found, hfound, ?_⟩
    have hfoundId : found.id = meant.id := by
      unfold findCandidate at hfound
      simpa using List.find?_some hfound
    obtain ⟨other, hother, hotherId, hidentity⟩ := hfrom found (List.mem_of_find?_eq_some hfound)
    have hwords := (id_eq_iff_words_eq (id_of_meant hother) (id_of_meant hmeant)).mp
      (hotherId.symm.trans hfoundId)
    exact hidentity.trans (hseparate other meant hother hmeant hwords)

end Collection

end Environment

/-- Different identities give different identifiers, an identity that no earlier finding has is
not dropped, and a candidate is found under its identifier, exactly when the words of the
identities differ. -/
theorem candidate_ids_iff (env : Environment) :
    (∀ given given' first second,
      ExecutionCandidate.construct env.lower given = .ok first →
      ExecutionCandidate.construct env.lower given' = .ok second →
      ((first.identity ≠ second.identity → first.id ≠ second.id) ↔
        (first.identity ≠ second.identity →
          first.identity.words env.lower ≠ second.identity.words env.lower))) ∧
    (∀ earlier finding results result candidate,
      env.project earlier = .ok results → env.projectFinding finding = .ok result →
      result.candidate = some candidate →
      ((env.project (earlier ++ [finding]) = .ok results →
          ∃ item ∈ env.projected earlier, item.2.identity = candidate.identity) ↔
        ((∃ item ∈ env.projected earlier,
            item.2.identity.words env.lower = candidate.identity.words env.lower) →
          ∃ item ∈ env.projected earlier, item.2.identity = candidate.identity))) ∧
    ∀ resolver findings records candidates,
      env.collectWithIntents resolver findings records = .ok candidates →
      ((∀ meant, env.Meant resolver findings records meant →
          ∃ found, Environment.findCandidate candidates meant.id = some found ∧
            found.identity = meant.identity) ↔
        ∀ meant other, env.Meant resolver findings records meant →
          env.Meant resolver findings records other →
          meant.identity.words env.lower = other.identity.words env.lower →
            meant.identity = other.identity) := by
  refine ⟨?_, ?_, ?_⟩
  · intro given given' first second hfirst hsecond
    have hids := id_eq_iff_words_eq (ExecutionCandidate.constructed_of_construct hfirst).id
      (ExecutionCandidate.constructed_of_construct hsecond).id
    exact imp_congr_right fun _ => not_congr hids
  · intro earlier finding results result candidate h hfinding hcandidate
    rw [Environment.project_append_singleton_iff h hfinding hcandidate]
  · intro resolver findings records candidates h
    exact Environment.findCandidate_iff h

/-- A candidate for the restart of one of several web servers. -/
def webCandidate (target_id : String) : ExecutionCandidate where
  id := "candidate-orion-restart-web-none-web-1-restart-restart-service"
  source_recommendation_id := "restart-web"
  source_subsystem := "orion"
  recommendation_class := "restart-service"
  catalog_item_id := none
  target_id
  target_type := "service"
  execution_category := .restart
  execution_intent := .restartService
  effect_kind := .operationalAction
  status := .notEligible
  required_approval_level := .standard
  rationale := "The web server stopped responding."
  constraints := []
  evidence_ids := []
  compatibility_assessment_id := none
  compatibility_status := none
  relationship_ids := []
  created_at := DateTime.utc ⟨0, zero_lt_MAX_MICROS⟩
  expires_at := none
  mutation := none
  operational_target := none
  operational_target_resolution_reason := none

/-- The candidate of a web server is built when its target is safe and gives the identifier. -/
theorem construct_webCandidate_of {target_id : String}
    (htext : validateSafeText String.toLower target_id = .ok target_id)
    (hid : buildExecutionCandidateId String.toLower (webCandidate target_id).identity =
      .ok (webCandidate target_id).id) :
    ExecutionCandidate.construct String.toLower (webCandidate target_id) =
      .ok (webCandidate target_id) := by
  have hfields : ["candidate-orion-restart-web-none-web-1-restart-restart-service", "restart-web",
      "orion", "restart-service", "service"].all isSlug = true := by decide
  have hrationale : validateSafeText String.toLower "The web server stopped responding." =
      .ok "The web server stopped responding." := by decide +kernel
  have hvalid : (webCandidate target_id).validateCandidate String.toLower = .ok () := by
    rw [ExecutionCandidate.validateCandidate, hid]
    rfl
  simp only [List.all_cons, List.all_nil, Bool.and_true, Bool.and_eq_true] at hfields
  obtain ⟨hslug, hsource, hsubsystem, hclass, htype⟩ := hfields
  rw [webCandidate] at hvalid
  simp only [ExecutionCandidate.construct, webCandidate, checkPattern, checkOptionalPattern, hslug,
    hsource, hsubsystem, hclass, htype, htext, hrationale, require_true, ok_bind, Option.all_none,
    normalizeUniqueStringTuple, validateCompatibilityStatus, normalizeUniqueConstraints,
    List.mapM_nil, pure_eq_ok, sortedSet, List.dedup_nil, List.insertionSort_nil, Rows.orderBy_nil]
  rw [hvalid]
  rfl

theorem construct_webCandidate :
    ExecutionCandidate.construct String.toLower (webCandidate "web.1") = .ok (webCandidate "web.1") ∧
      ExecutionCandidate.construct String.toLower (webCandidate "web-1") =
        .ok (webCandidate "web-1") :=
  ⟨construct_webCandidate_of (by decide +kernel) (by decide +kernel),
    construct_webCandidate_of (by decide +kernel) (by decide +kernel)⟩

/-- What is read of the restart. -/
def restartSubject : Subject where
  source_finding_id := "restart-jellyfin"
  source_subsystem := "orion"
  recommendation_class := .restartService
  target_id := "jellyfin"
  target_type := "service"
  evidence_ids := ["probe-1"]

open Environment in
/-- A candidate is built for the restart. -/
theorem exists_classifiedCandidate_restart {classification : ExecutionClassification}
    (hclassified : classifyRecommendationClass .restartService = some classification) :
    ∃ candidate, classifiedCandidate homeServer.lower restartFinding restartSubject classification
      homeServer.now = .ok candidate := by
  obtain rfl := Option.some.inj hclassified
  have hid : buildExecutionCandidateId homeServer.lower (candidateIdentity restartFinding
      restartSubject ExecutionIntent.restartService.category .restartService) =
      .ok "candidate-orion-restart-jellyfin-none-jellyfin-restart-restart-service" := by
    decide +kernel
  have hmutation : composeMutation homeServer.lower restartFinding.details = .ok none := by
    decide +kernel
  unfold classifiedCandidate
  simp only
  rw [hid, ok_bind, hmutation, ok_bind]
  refine (ExecutionCandidate.Fresh.exists_construct ?_).mpr ?_
  · exact ⟨rfl, hid, rfl, by simp, rfl, rfl⟩
  exact {
    source_recommendation_id := by decide +kernel
    source_subsystem := by decide +kernel
    recommendation_class := RecommendationClass.isSlug_hyphenated _
    catalog_item_id := by decide +kernel
    target_id := ⟨by decide +kernel, by decide +kernel⟩
    target_type := by decide +kernel
    rationale := ⟨by decide +kernel, by decide +kernel⟩
    evidence_ids := by
      intro value hvalue
      rw [List.mem_singleton.mp hvalue]
      exact ⟨by decide +kernel, by decide +kernel⟩
    compatibility_assessment_id := by decide +kernel
    compatibility_status := by decide +kernel
    relationship_ids := by
      have hnone : tupleDetailOr homeServer.lower restartFinding.details "relationship_ids"
          "compatibility_finding_ids" = [] := by decide +kernel
      simp only [hnone, List.not_mem_nil, false_imp_iff, implies_true] }

open Environment in
theorem exists_candidateOf_restart :
    ∃ candidate, homeServer.candidateOf restartFinding = some candidate := by
  have hsubject : projectionSubject homeServer.lower restartFinding = .ok restartSubject := by
    decide +kernel
  have hsafe : containsUnsafeProjectionPayload homeServer.lower restartFinding = false := by
    decide +kernel
  obtain ⟨candidate, hcandidate⟩ := exists_classifiedCandidate_restart rfl
  exact exists_candidateOf hsubject rfl rfl (List.cons_ne_nil _ _) hsafe hcandidate

open Environment in
/-- The iffs at two web servers and at a home server whose notice comes before a restart. -/
theorem candidate_ids_home :
    (((webCandidate "web.1").identity ≠ (webCandidate "web-1").identity →
          (webCandidate "web.1").id ≠ (webCandidate "web-1").id) ↔
        ((webCandidate "web.1").identity ≠ (webCandidate "web-1").identity →
          (webCandidate "web.1").identity.words String.toLower ≠
            (webCandidate "web-1").identity.words String.toLower)) ∧
      (∃ results candidate, homeServer.candidateOf restartFinding = some candidate ∧
        ((homeServer.project ([noticeFinding] ++ [restartFinding]) = .ok results →
            ∃ item ∈ homeServer.projected [noticeFinding],
              item.2.identity = candidate.identity) ↔
          ((∃ item ∈ homeServer.projected [noticeFinding],
              item.2.identity.words String.toLower = candidate.identity.words String.toLower) →
            ∃ item ∈ homeServer.projected [noticeFinding],
              item.2.identity = candidate.identity))) ∧
      ((∀ meant, homeServer.Meant (fun _ _ _ => .error .resourceNotFound) [noticeFinding] [] meant →
          ∃ found, findCandidate [] meant.id = some found ∧ found.identity = meant.identity) ↔
        ∀ meant other,
          homeServer.Meant (fun _ _ _ => .error .resourceNotFound) [noticeFinding] [] meant →
          homeServer.Meant (fun _ _ _ => .error .resourceNotFound) [noticeFinding] [] other →
          meant.identity.words String.toLower = other.identity.words String.toLower →
            meant.identity = other.identity) := by
  have hnotice : homeServer.projectFinding noticeFinding =
      .ok (plainResult .unsupported "disk-usage" .missingRecommendationClass
        "Finding does not declare a structured recommendation class.") := by decide
  have hnone : homeServer.candidateOf noticeFinding = none := by
    simp only [candidateOf, hnotice, plainResult]
  have hprojected : homeServer.projected [noticeFinding] = [] := by
    rw [projected_cons, hnone]
    rfl
  have hcollect : homeServer.collectWithIntents (fun _ _ _ => .error .resourceNotFound)
      [noticeFinding] [] = .ok [] := by
    rw [collectWithIntents_nil, collect_eq_ok]
    refine ⟨by simp [hnotice], [], ?_, Rows.orderBy_nil _⟩
    rw [hprojected]
    rfl
  refine ⟨(candidate_ids_iff homeServer).1 _ _ _ _ construct_webCandidate.1
    construct_webCandidate.2, ?_, (candidate_ids_iff homeServer).2.2 _ _ _ _ hcollect⟩
  obtain ⟨candidate, hcandidate⟩ := exists_candidateOf_restart
  obtain ⟨results, hresults⟩ : ∃ results, homeServer.project [noticeFinding] = .ok results :=
    (exists_projectFrom []).mpr (by simp [hnotice])
  refine ⟨results, candidate, hcandidate, ?_⟩
  obtain ⟨result, hresult, hcandidate⟩ := candidateOf_eq_some.mp hcandidate
  exact (candidate_ids_iff homeServer).2.1 _ _ _ _ _ hresults hresult hcandidate

/-- The targets `web.1` and `web-1` give one identifier. -/
theorem candidate_ids_collide :
    ¬∀ (lower : String → String) (given given' first second : ExecutionCandidate),
      ExecutionCandidate.construct lower given = .ok first →
      ExecutionCandidate.construct lower given' = .ok second →
      first.identity ≠ second.identity → first.id ≠ second.id := by
  intro h
  exact h String.toLower _ _ _ _ construct_webCandidate.1 construct_webCandidate.2 (by decide) rfl

end AtlasOS.Candidates
