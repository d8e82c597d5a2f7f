import AtlasOS.Discovery.DynamicSources

/-!
# Freshness of dynamic claims

`dynamic_evaluation.py` grades a claim by its age at the time of evaluation:
fresh for a day, stale for thirty, expired after that. A claim retrieved after the
time of evaluation has no grade, and the end of the calendar can be met in
counting the thirty days.
-/

namespace AtlasOS.Discovery

variable {chars : Characters}

/-- `FRESH_WINDOW` -/
def FRESH_WINDOW : ℕ := DAY

/-- `STALE_WINDOW` -/
def STALE_WINDOW : ℕ := 30 * DAY

/-- `FreshnessState` -/
inductive FreshnessState where
  | fresh | stale | expired
  deriving DecidableEq

/-- `FreshnessResult`: a state, or the one failure there is. -/
inductive FreshnessResult where
  | state (state : FreshnessState)
  | invalidChronology
  deriving DecidableEq

/-! ## Normalized provenance -/

/-- `^[a-z0-9]+(?:_[a-z0-9]+)*$` -/
def isSourceType (text : String) : Bool :=
  !text.toList.contains '-' && isSlug (replaceChar '_' '-' text)

/-- `^[0-9]{4}-[0-9]{2}-[0-9]{2}$` -/
def isApiVersion (text : String) : Bool :=
  decide (text.toList.length = 10) && (List.range 10).all fun i =>
    let c := text.toList.getD i ' '
    if i ∈ [4, 7] then c = '-' else c.isDigit

/-- `NormalizedDynamicProvenance`, without its constant fields. -/
structure NormalizedDynamicProvenance (chars : Characters) where
  source_id : String
  source_type : String
  repository : String
  upstream_release_id : ℤ
  retrieved_at : Utc
  expires_at : Utc
  response_etag : Option String
  api_version : String
  canonical_source : isSlug source_id = true ∧ source_id.length ≤ 128
  canonical_type : isSourceType source_type = true ∧ source_type.length ≤ 64
  printable_repository : 1 ≤ repository.length ∧ repository.length ≤ 256 ∧
    isPrintableText chars repository = true
  positive_id : 1 ≤ upstream_release_id
  printable_etag : response_etag.all (isEtag chars) = true
  canonical_api : isApiVersion api_version = true
  expiry : later retrieved_at FRESH_WINDOW = .ok expires_at

instance {chars : Characters} : DecidableEq (NormalizedDynamicProvenance chars) := fun a b =>
  decidable_of_iff (a.source_id = b.source_id ∧ a.source_type = b.source_type ∧
      a.repository = b.repository ∧ a.upstream_release_id = b.upstream_release_id ∧
      a.retrieved_at = b.retrieved_at ∧ a.expires_at = b.expires_at ∧
      a.response_etag = b.response_etag ∧ a.api_version = b.api_version)
    (by cases a; cases b; simp)

namespace NormalizedDynamicProvenance

/-- `NormalizedDynamicProvenance.model_validate` -/
def validate (raw : Dumped) : Except PyError (NormalizedDynamicProvenance chars) := do
  let fields ← raw.fields
  let source_id := required fields "source_id" >>= asText
  let source_type := required fields "source_type" >>= asText
  let repository := required fields "repository" >>= asText
  let upstream_release_id := required fields "upstream_release_id" >>= asPositive
  let retrieved_at :=
    required fields "retrieved_at" >>= asUtc "provenance timestamps must be timezone-aware"
  let expires_at :=
    required fields "expires_at" >>= asUtc "provenance timestamps must be timezone-aware"
  let response_etag := asOptionalText (optional fields "response_etag")
  let api_version := required fields "api_version" >>= asText
  collect [
    discard source_id,
    discard source_type,
    required fields "origin_class" >>= literal "public_https_allowlisted",
    required fields "trust_tier" >>= literal "supplemental",
    discard repository,
    discard upstream_release_id,
    discard retrieved_at,
    discard expires_at,
    discard response_etag,
    discard api_version,
    forbidExtra ["source_id", "source_type", "origin_class", "trust_tier", "repository",
      "upstream_release_id", "retrieved_at", "expires_at", "response_etag", "api_version"] fields]
  let source ← source_id
  let type ← source_type
  let repo ← repository
  let id ← upstream_release_id
  let retrieved ← retrieved_at
  let expires ← expires_at
  let etag ← response_etag
  let api ← api_version
  if h : (isSlug source = true ∧ source.length ≤ 128) ∧
      (isSourceType type = true ∧ type.length ≤ 64) ∧
      (1 ≤ repo.length ∧ repo.length ≤ 256 ∧ isPrintableText chars repo = true) ∧
      1 ≤ id ∧ etag.all (isEtag chars) = true ∧ isApiVersion api = true then
    let expected ← later retrieved FRESH_WINDOW
    if hexpiry : later retrieved FRESH_WINDOW = .ok expires ∧ expires = expected then
      .ok ⟨source, type, repo, id, retrieved, expires, etag, api, h.1, h.2.1, h.2.2.1, h.2.2.2.1,
        h.2.2.2.2.1, h.2.2.2.2.2, hexpiry.1⟩
    else .error (validationError "expiry must be exactly 24 hours after retrieval")
  else .error (validationError "invalid fields")

/-- `model_dump` of a normalized provenance. -/
def dump (provenance : NormalizedDynamicProvenance chars) : Dumped := .dict [
  ("source_id", .str provenance.source_id),
  ("source_type", .str provenance.source_type),
  ("origin_class", .str "public_https_allowlisted"),
  ("trust_tier", .str "supplemental"),
  ("repository", .str provenance.repository),
  ("upstream_release_id", .int provenance.upstream_release_id),
  ("retrieved_at", dumpUtc provenance.retrieved_at),
  ("expires_at", dumpUtc provenance.expires_at),
  ("response_etag", dumpOptionalText provenance.response_etag),
  ("api_version", .str provenance.api_version)]

/-- A normalized provenance is accepted again as it is. -/
@[simp] theorem validate_dump (provenance : NormalizedDynamicProvenance chars) :
    validate provenance.dump = .ok provenance := by
  simp [validate, dump, Dumped.fields, required, optional, List.lookup_cons, literal, asText,
    forbidExtra, discard, asPositive_int provenance.positive_id, provenance.positive_id,
    provenance.canonical_source, provenance.canonical_type, provenance.printable_repository,
    provenance.printable_etag, provenance.canonical_api, provenance.expiry, collect_eq_ok,
    check_bind_eq_ok, Except.map]

/-- `NormalizedDynamicProvenance.from_p1` -/
def fromP1 (provenance : DynamicSourceProvenance chars) :
    Except PyError (NormalizedDynamicProvenance chars) := do
  let validated : DynamicSourceProvenance chars ←
    DynamicSourceProvenance.validate provenance.dump
  validate validated.dump

end NormalizedDynamicProvenance

namespace DynamicSourceProvenance

/-- `expires_at` is a day after the retrieval. -/
theorem expires_at_val (provenance : DynamicSourceProvenance chars) :
    provenance.expires_at.val = provenance.retrieved_at.val + DAY :=
  later_eq_ok.mp provenance.expiry

/-- The normalized form of a provenance. -/
def normalized (provenance : DynamicSourceProvenance chars) : NormalizedDynamicProvenance chars where
  source_id := FRIGATE_ADAPTER_ID
  source_type := "github_latest_release"
  repository := "blakeblackshear/frigate"
  upstream_release_id := provenance.upstream_release_id
  retrieved_at := provenance.retrieved_at
  expires_at := provenance.expires_at
  response_etag := provenance.response_etag
  api_version := GITHUB_API_VERSION
  canonical_source := by decide
  canonical_type := by decide
  printable_repository := by
    refine ⟨by decide, by decide, ?_⟩
    rw [isPrintableText, Bool.and_eq_true]
    have hletters : ("blakeblackshear/frigate".toList.all fun c =>
        decide (32 ≤ c.toNat) && decide (c.toNat ≤ 126)) = true := rfl
    refine ⟨by decide, List.all_eq_true.mpr fun c hc => ?_⟩
    have hletter := List.all_eq_true.mp hletters c hc
    rw [Bool.and_eq_true, decide_eq_true_eq, decide_eq_true_eq] at hletter
    exact chars.isprintable_ascii c hletter.1 hletter.2
  positive_id := provenance.positive_id
  printable_etag := provenance.printable_etag
  canonical_api := by decide
  expiry := provenance.expiry

/-- A provenance is normalized without a failure. -/
@[simp] theorem fromP1_eq (provenance : DynamicSourceProvenance chars) :
    NormalizedDynamicProvenance.fromP1 provenance = .ok provenance.normalized := by
  have hdump : provenance.dump = provenance.normalized.dump := rfl
  rw [NormalizedDynamicProvenance.fromP1, validate_dump, ok_bind, hdump,
    NormalizedDynamicProvenance.validate_dump]

end DynamicSourceProvenance

/-! ## Freshness -/

/-- The checks of a provenance before its age is graded. -/
def checkChronology (provenance : NormalizedDynamicProvenance chars) (now : Utc) :
    Except PyError (NormalizedDynamicProvenance chars) := do
  let candidate : NormalizedDynamicProvenance chars ←
    NormalizedDynamicProvenance.validate provenance.dump
  let expected ← later candidate.retrieved_at FRESH_WINDOW
  require (candidate.expires_at = expected) (validationError "")
  require (¬now < candidate.retrieved_at) (validationError "")
  .ok candidate

/-- `evaluate_freshness` -/
def evaluateFreshness (provenance : NormalizedDynamicProvenance chars) (now : Utc) :
    Except PyError FreshnessResult :=
  match checkChronology provenance now with
  | .error (.typeError _) | .error (.valueError _) => .ok .invalidChronology
  | .error e => .error e
  | .ok candidate =>
      if now ≤ candidate.expires_at then .ok (.state .fresh)
      else do
        let limit ← later candidate.retrieved_at STALE_WINDOW
        .ok (.state (if now ≤ limit then .stale else .expired))

/-- The grade of a claim that was retrieved at a moment, or the end of the calendar. -/
def grade (retrieved_at now : Utc) : Except PyError FreshnessResult :=
  if now < retrieved_at then .ok .invalidChronology
  else if now.val ≤ retrieved_at.val + DAY then .ok (.state .fresh)
  else if retrieved_at.val + STALE_WINDOW < MAX_MICROS then
    .ok (.state (if now.val ≤ retrieved_at.val + STALE_WINDOW then .stale else .expired))
  else .error .overflowError

theorem evaluateFreshness_eq (provenance : NormalizedDynamicProvenance chars) (now : Utc) :
    evaluateFreshness provenance now = grade provenance.retrieved_at now := by
  have hexpires : provenance.expires_at.val = provenance.retrieved_at.val + DAY :=
    later_eq_ok.mp provenance.expiry
  unfold evaluateFreshness checkChronology grade
  rw [NormalizedDynamicProvenance.validate_dump, ok_bind, provenance.expiry, ok_bind]
  simp only [decide_true, require_true, ok_bind]
  by_cases hfuture : now < provenance.retrieved_at
  · simp [require, hfuture, validationError]
  · simp only [require, hfuture, not_false_eq_true, decide_true, if_true, if_false, ok_bind,
      Fin.le_def, hexpires]
    by_cases hfresh : now.val ≤ provenance.retrieved_at.val + DAY
    · rw [if_pos hfresh, if_pos hfresh]
    rw [if_neg hfresh, if_neg hfresh, later]
    by_cases hrange : provenance.retrieved_at.val + STALE_WINDOW < MAX_MICROS
    · rw [dif_pos hrange, if_pos hrange, ok_bind]
    · rw [dif_neg hrange, if_neg hrange, error_bind]

/-! ## Evaluated claims -/

/-- `EvaluatedDynamicClaim` -/
structure EvaluatedDynamicClaim (chars : Characters) where
  fact : DynamicReleaseFact
  provenance : NormalizedDynamicProvenance chars
  freshness : FreshnessState
  evaluated_at : Utc
  deriving DecidableEq

namespace EvaluatedDynamicClaim

/-- `validate_relationships` -/
def validateRelationships (claim : EvaluatedDynamicClaim chars) : Except PyError Unit := do
  let expected ← evaluateFreshness claim.provenance claim.evaluated_at
  require (expected = .state claim.freshness)
    (validationError "freshness does not match provenance and evaluation time")

/-- `EvaluatedDynamicClaim.from_p1` -/
def fromP1 (fact : DynamicReleaseFact) (provenance : DynamicSourceProvenance chars) (now : Utc) :
    Except PyError (EvaluatedDynamicClaim chars) := do
  let validated_fact ← DynamicReleaseFact.validate fact.dump
  let normalized ← NormalizedDynamicProvenance.fromP1 provenance
  match ← evaluateFreshness normalized now with
  | .invalidChronology => .error (.valueError "dynamic claim chronology is invalid")
  | .state freshness => do
      let claim := ⟨validated_fact, normalized, freshness, now⟩
      validateRelationships claim
      .ok claim

end EvaluatedDynamicClaim

section Grades

variable {fact : DynamicReleaseFact} {provenance : DynamicSourceProvenance chars} {now : Utc}

/-- What the evaluation of a claim gives is decided by its grade. -/
theorem fromP1_eq_grade :
    EvaluatedDynamicClaim.fromP1 fact provenance now =
      match grade provenance.retrieved_at now with
      | .error e => .error e
      | .ok .invalidChronology => .error (.valueError "dynamic claim chronology is invalid")
      | .ok (.state freshness) => .ok ⟨fact, provenance.normalized, freshness, now⟩ := by
  have hgrade : evaluateFreshness provenance.normalized now = grade provenance.retrieved_at now :=
    evaluateFreshness_eq provenance.normalized now
  unfold EvaluatedDynamicClaim.fromP1 EvaluatedDynamicClaim.validateRelationships
  simp only [DynamicReleaseFact.validate_dump, DynamicSourceProvenance.fromP1_eq, ok_bind, hgrade]
  cases hresult : grade provenance.retrieved_at now with
  | error e => simp
  | ok result => cases result <;> simp

/-- A claim retrieved after the time of evaluation. -/
def FutureDated (provenance : DynamicSourceProvenance chars) (now : Utc) : Prop :=
  now < provenance.retrieved_at

/-- A claim whose thirty days end before the time of evaluation. -/
def Expired (provenance : DynamicSourceProvenance chars) (now : Utc) : Prop :=
  provenance.retrieved_at.val + STALE_WINDOW < now.val

/-- A claim more than a day old whose thirty days do not end within the calendar. -/
def BeyondCalendar (provenance : DynamicSourceProvenance chars) (now : Utc) : Prop :=
  provenance.retrieved_at.val + DAY < now.val ∧
    MAX_MICROS ≤ provenance.retrieved_at.val + STALE_WINDOW

instance : Decidable (FutureDated provenance now) :=
  inferInstanceAs (Decidable (now < provenance.retrieved_at))

instance : Decidable (Expired provenance now) :=
  inferInstanceAs (Decidable (provenance.retrieved_at.val + STALE_WINDOW < now.val))

instance : Decidable (BeyondCalendar provenance now) :=
  inferInstanceAs (Decidable (_ ∧ _))

/-- A claim from the future is refused with a `ValueError`. -/
theorem fromP1_of_futureDated (h : FutureDated provenance now) :
    EvaluatedDynamicClaim.fromP1 fact provenance now =
      .error (.valueError "dynamic claim chronology is invalid") := by
  have hfuture : now < provenance.retrieved_at := h
  rw [fromP1_eq_grade, grade, if_pos hfuture]

/-- At the end of the calendar the evaluation raises `OverflowError`. -/
theorem fromP1_of_beyondCalendar (h : BeyondCalendar provenance now) :
    EvaluatedDynamicClaim.fromP1 fact provenance now = .error .overflowError := by
  obtain ⟨hage, hend⟩ := h
  have hpast : ¬now < provenance.retrieved_at := by
    rw [Fin.lt_def]
    omega
  rw [fromP1_eq_grade, grade, if_neg hpast, if_neg (by omega), if_neg (by omega)]

/-- Any other claim is evaluated, and found expired exactly when its thirty days are over. -/
theorem fromP1_eq_ok (hpast : ¬FutureDated provenance now) (hcalendar : ¬BeyondCalendar provenance now) :
    ∃ claim, EvaluatedDynamicClaim.fromP1 fact provenance now = .ok claim ∧
      claim.fact = fact ∧ claim.provenance = provenance.normalized ∧
      (claim.freshness = .expired ↔ Expired provenance now) := by
  have hnow : ¬now < provenance.retrieved_at := hpast
  rw [fromP1_eq_grade, grade, if_neg hnow]
  unfold BeyondCalendar at hcalendar
  unfold Expired
  have hwindow : DAY ≤ STALE_WINDOW := by decide
  by_cases hfresh : now.val ≤ provenance.retrieved_at.val + DAY
  · rw [if_pos hfresh]
    refine ⟨_, rfl, rfl, rfl, iff_of_false (by simp) ?_⟩
    omega
  · rw [if_neg hfresh, if_pos (by omega)]
    refine ⟨_, rfl, rfl, rfl, ?_⟩
    split_ifs with hstale
    · exact iff_of_false (by simp) (by omega)
    · exact iff_of_true rfl (by omega)

end Grades

end AtlasOS.Discovery
