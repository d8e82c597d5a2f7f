import AtlasOS.Lib.Text

/-!
# Dynamic source contracts

The contracts of `dynamic_sources.py` for what an adapter hands over. An adapter's
result is dumped and validated strictly before anything else is done with it, and
so are its parts when they are evaluated; a validated part is accepted again
unchanged. Fields whose type admits one value only are checked and not kept.
-/

namespace AtlasOS.Discovery

/-! ## Dumped values -/

/-- `DynamicSourceHealth` -/
inductive DynamicSourceHealth where
  | healthy | degraded | unavailable
  deriving DecidableEq

/-- `DynamicSourceFailure` -/
inductive DynamicSourceFailure where
  | dnsDisallowed | connectionFailed | timeout | tlsFailed | redirectRefused | httpError
  | rateLimited | responseTooLarge | invalidContentType | malformedJson | schemaInvalid
  | noStableRelease
  deriving DecidableEq

/-- A value in what `model_dump` returns, as far as strict validation tells values apart.
A dump holds no models. -/
inductive Dumped where
  | none
  | int (value : ℤ)
  | str (text : String)
  | datetime (value : DateTime)
  | health (value : DynamicSourceHealth)
  | failure (value : DynamicSourceFailure)
  | dict (fields : List (String × Dumped))
  | other

/-- A moment in UTC, in microseconds of the clock. -/
abbrev Utc := Fin MAX_MICROS

/-- `ValidationError`, which is a `ValueError`. -/
def validationError (message : String) : PyError := .valueError message

/-- The fields of a model are all validated: an exception that is not a validation error is raised
at once, and the validation errors of the fields are raised together. -/
def collect (checks : List (Except PyError Unit)) : Except PyError Unit :=
  if .error .overflowError ∈ checks then .error .overflowError
  else if ∀ check ∈ checks, check = .ok () then .ok ()
  else .error (validationError "invalid fields")

theorem collect_eq_ok {checks : List (Except PyError Unit)} :
    collect checks = .ok () ↔ ∀ check ∈ checks, check = .ok () := by
  unfold collect
  split_ifs with hoverflow hall
  · refine iff_of_false (by simp) fun h => ?_
    simpa using h _ hoverflow
  · exact iff_of_true rfl hall
  · exact iff_of_false (by simp) hall

/-- Whether a field is valid, without its value. -/
def discard {α : Type} (field : Except PyError α) : Except PyError Unit := field.map fun _ => ()

@[simp] theorem discard_eq_ok {α : Type} {field : Except PyError α} :
    discard field = .ok () ↔ ∃ a, field = .ok a := by
  cases field <;> simp [discard, Except.map]

namespace Dumped

/-- The fields of a dumped model. -/
def fields : Dumped → Except PyError (List (String × Dumped))
  | .dict fields => .ok fields
  | _ => .error (validationError "Input should be a valid dictionary")

end Dumped

/-- A field that has no default. -/
def required (fields : List (String × Dumped)) (name : String) : Except PyError Dumped :=
  match fields.lookup name with
  | some value => .ok value
  | none => .error (validationError "Field required")

/-- A field whose default is `None`. -/
def optional (fields : List (String × Dumped)) (name : String) : Dumped :=
  (fields.lookup name).getD .none

/-- `extra="forbid"` -/
def forbidExtra (names : List String) (fields : List (String × Dumped)) : Except PyError Unit :=
  require (fields.all fun field => field.1 ∈ names) (validationError "Extra inputs are not permitted")

/-- A field of type `str`. -/
def asText : Dumped → Except PyError String
  | .str text => .ok text
  | _ => .error (validationError "Input should be a valid string")

/-- A field of a `Literal` type with one value. -/
def literal (value : String) (raw : Dumped) : Except PyError Unit := do
  require ((← asText raw) = value) (validationError "Input should be the literal")

/-- A `datetime` field, checked to be timezone-aware and converted to UTC. -/
def asUtc (message : String) : Dumped → Except PyError Utc
  | .datetime value =>
      match value.offset with
      | none => .error (validationError message)
      | some offset =>
          -- the offset is kept with one day added to it
          let shifted : ℤ := value.micros - offset + 86400000000
          if h : 0 ≤ shifted ∧ shifted.toNat < MAX_MICROS then .ok ⟨shifted.toNat, h.2⟩
          else .error .overflowError
  | _ => .error (validationError "Input should be a valid datetime")

/-- A moment as `model_dump` gives it. -/
def dumpUtc (moment : Utc) : Dumped := .datetime (.utc moment)

@[simp] theorem asUtc_dumpUtc (message : String) (moment : Utc) :
    asUtc message (dumpUtc moment) = .ok moment := by
  have hshifted : ((moment.val : ℤ) - 86400000000 + 86400000000) = moment.val := by omega
  simp [asUtc, dumpUtc, DateTime.utc, hshifted, moment.isLt]

/-- A later moment; dates end with the year 9999. -/
def later (moment : Utc) (delta : ℕ) : Except PyError Utc :=
  if h : moment.val + delta < MAX_MICROS then .ok ⟨moment.val + delta, h⟩
  else .error .overflowError

theorem later_eq_ok {moment after : Utc} {delta : ℕ} :
    later moment delta = .ok after ↔ after.val = moment.val + delta := by
  unfold later
  split_ifs with h
  · simp [Fin.ext_iff, eq_comm]
  · refine iff_of_false (by simp) fun heq => h ?_
    exact heq ▸ after.isLt

/-- 24 hours in microseconds. -/
def DAY : ℕ := 86400000000

/-! ## Facts -/

/-- `DYNAMIC_RELEASE_FACT_SCHEMA` -/
def DYNAMIC_RELEASE_FACT_SCHEMA : String := "discovery-dynamic-release-fact-v1"

/-- `FRIGATE_ADAPTER_ID` -/
def FRIGATE_ADAPTER_ID : String := "frigate-github-latest-release-v1"

/-- `GITHUB_API_VERSION` -/
def GITHUB_API_VERSION : String := "2022-11-28"

/-- `[0-9]+(?:\.[0-9]+){parts}` after its first digit. -/
def versionRest : ℕ → List Char → Bool
  | parts, [] => parts = 0
  | parts + 1, '.' :: c :: rest => c.isDigit && versionRest parts rest
  | parts, c :: rest => c.isDigit && versionRest parts rest

/-- `^[0-9]+\.[0-9]+\.[0-9]+$`, of at most 64 characters and not stripped further. -/
def isVersion (text : String) : Bool :=
  (match text.toList with
    | [] => false
    | c :: rest => c.isDigit && versionRest 2 rest) &&
  decide (text.length ≤ 64) && decide (text = strip text)

/-- `DynamicReleaseFact`, without its constant fields. -/
structure DynamicReleaseFact where
  version : String
  published_at : Utc
  canonical_version : isVersion version = true
  deriving DecidableEq

namespace DynamicReleaseFact

/-- The only item a fact is about. -/
def catalog_item_id (_ : DynamicReleaseFact) : String := "frigate"

/-- The only kind of fact. -/
def fact_kind (_ : DynamicReleaseFact) : String := "latest_stable_release"

/-- `DynamicReleaseFact.model_validate` -/
def validate (raw : Dumped) : Except PyError DynamicReleaseFact := do
  let fields ← raw.fields
  let version := required fields "version" >>= asText
  let published_at := required fields "published_at" >>= asUtc "published_at must be timezone-aware"
  collect [
    required fields "schema_version" >>= literal DYNAMIC_RELEASE_FACT_SCHEMA,
    required fields "catalog_item_id" >>= literal "frigate",
    required fields "fact_kind" >>= literal "latest_stable_release",
    version >>= fun text => require (isVersion text) (validationError "version"),
    discard published_at,
    forbidExtra ["schema_version", "catalog_item_id", "fact_kind", "version", "published_at"] fields]
  let text ← version
  let moment ← published_at
  if h : isVersion text = true then .ok ⟨text, moment, h⟩
  else .error (validationError "version")

/-- `model_dump` of a fact. -/
def dump (fact : DynamicReleaseFact) : Dumped := .dict [
  ("schema_version", .str DYNAMIC_RELEASE_FACT_SCHEMA),
  ("catalog_item_id", .str fact.catalog_item_id),
  ("fact_kind", .str fact.fact_kind),
  ("version", .str fact.version),
  ("published_at", dumpUtc fact.published_at)]

/-- A fact is accepted again as it is. -/
@[simp] theorem validate_dump (fact : DynamicReleaseFact) : validate fact.dump = .ok fact := by
  simp [validate, dump, Dumped.fields, required, List.lookup_cons, literal, asText, forbidExtra, discard,
    catalog_item_id, fact_kind, fact.canonical_version, collect_eq_ok, check_bind_eq_ok, Except.map]

end DynamicReleaseFact

/-! ## Provenance -/

/-- The characters that `str.isprintable` accepts, those of ASCII among them. -/
structure Characters where
  isprintable : Char → Bool
  isprintable_ascii : ∀ c : Char, 32 ≤ c.toNat → c.toNat ≤ 126 → isprintable c = true

/-- The characters of ASCII only. -/
def Characters.ascii : Characters where
  isprintable c := decide (32 ≤ c.toNat) && decide (c.toNat ≤ 126)
  isprintable_ascii c hlow hhigh := by simp [hlow, hhigh]

/-- `value == value.strip() and value.isprintable()` -/
def isPrintableText (chars : Characters) (text : String) : Bool :=
  decide (text = strip text) && text.toList.all chars.isprintable

/-- `response_etag` of a provenance. -/
def isEtag (chars : Characters) (text : String) : Bool :=
  decide (1 ≤ text.length) && decide (text.length ≤ 256) && isPrintableText chars text

/-- `DynamicSourceProvenance`, without its constant fields. -/
structure DynamicSourceProvenance (chars : Characters) where
  upstream_release_id : ℤ
  retrieved_at : Utc
  expires_at : Utc
  response_etag : Option String
  positive_id : 1 ≤ upstream_release_id
  expiry : later retrieved_at DAY = .ok expires_at
  printable_etag : response_etag.all (isEtag chars) = true
  deriving DecidableEq

/-- A field of type `int`, at least 1. -/
def asPositive : Dumped → Except PyError ℤ
  | .int value => do
      require (1 ≤ value) (validationError "Input should be greater than or equal to 1")
      .ok value
  | _ => .error (validationError "Input should be a valid integer")

/-- A field of type `str | None`. -/
def asOptionalText : Dumped → Except PyError (Option String)
  | .none => .ok none
  | .str text => .ok (some text)
  | _ => .error (validationError "Input should be a valid string")

/-- An optional text as `model_dump` gives it. -/
def dumpOptionalText : Option String → Dumped
  | none => .none
  | some text => .str text

@[simp] theorem asOptionalText_dumpOptionalText (text : Option String) :
    asOptionalText (dumpOptionalText text) = .ok text := by
  cases text <;> rfl

theorem asPositive_int {value : ℤ} (h : 1 ≤ value) : asPositive (.int value) = .ok value := by
  simp [asPositive, require, h]

namespace DynamicSourceProvenance

variable {chars : Characters}

/-- The only source. -/
def source_id (_ : DynamicSourceProvenance chars) : String := FRIGATE_ADAPTER_ID

/-- `DynamicSourceProvenance.model_validate` -/
def validate (raw : Dumped) : Except PyError (DynamicSourceProvenance chars) := do
  let fields ← raw.fields
  let upstream_release_id := required fields "upstream_release_id" >>= asPositive
  let retrieved_at :=
    required fields "retrieved_at" >>= asUtc "provenance timestamps must be timezone-aware"
  let expires_at :=
    required fields "expires_at" >>= asUtc "provenance timestamps must be timezone-aware"
  let response_etag := asOptionalText (optional fields "response_etag")
  collect [
    required fields "source_id" >>= literal FRIGATE_ADAPTER_ID,
    required fields "source_type" >>= literal "github_latest_release",
    required fields "origin_class" >>= literal "public_https_allowlisted",
    required fields "trust_tier" >>= literal "supplemental",
    required fields "repository" >>= literal "blakeblackshear/frigate",
    discard upstream_release_id,
    discard retrieved_at,
    discard expires_at,
    response_etag >>= fun etag =>
      require (etag.all (isEtag chars))
        (validationError "response_etag must be bounded printable text"),
    required fields "api_version" >>= literal GITHUB_API_VERSION,
    forbidExtra ["source_id", "source_type", "origin_class", "trust_tier", "repository",
      "upstream_release_id", "retrieved_at", "expires_at", "response_etag", "api_version"] fields]
  let id ← upstream_release_id
  let retrieved ← retrieved_at
  let expires ← expires_at
  let etag ← response_etag
  let expected ← later retrieved DAY
  if h : 1 ≤ id ∧ expires = expected ∧ etag.all (isEtag chars) = true ∧
      later retrieved DAY = .ok expected then
    .ok ⟨id, retrieved, expires, etag, h.1, by rw [h.2.1]; exact h.2.2.2, h.2.2.1⟩
  else .error (validationError "expires_at must be exactly 24 hours after retrieved_at")

/-- `model_dump` of a provenance. -/
def dump (provenance : DynamicSourceProvenance chars) : Dumped := .dict [
  ("source_id", .str provenance.source_id),
  ("source_type", .str "github_latest_release"),
  ("origin_class", .str "public_https_allowlisted"),
  ("trust_tier", .str "supplemental"),
  ("repository", .str "blakeblackshear/frigate"),
  ("upstream_release_id", .int provenance.upstream_release_id),
  ("retrieved_at", dumpUtc provenance.retrieved_at),
  ("expires_at", dumpUtc provenance.expires_at),
  ("response_etag", dumpOptionalText provenance.response_etag),
  ("api_version", .str GITHUB_API_VERSION)]

/-- A provenance is accepted again as it is. -/
@[simp] theorem validate_dump (provenance : DynamicSourceProvenance chars) :
    validate provenance.dump = .ok provenance := by
  simp [validate, dump, Dumped.fields, required, optional, List.lookup_cons, literal, asText,
    forbidExtra, discard, source_id, asPositive_int provenance.positive_id, provenance.positive_id,
    provenance.expiry, provenance.printable_etag, collect_eq_ok, check_bind_eq_ok, Except.map]

end DynamicSourceProvenance

/-! ## Results of an adapter -/

/-- The failures of a source that cannot be reached. -/
def unreachable : List DynamicSourceFailure :=
  [.dnsDisallowed, .connectionFailed, .timeout, .tlsFailed, .rateLimited]

/-- The health that goes with a failure. -/
def DynamicSourceFailure.health (failure : DynamicSourceFailure) : DynamicSourceHealth :=
  if failure ∈ unreachable then .unavailable else .degraded

/-- `DynamicSourceResult` -/
structure DynamicSourceResult (chars : Characters) where
  health : DynamicSourceHealth
  fact : Option DynamicReleaseFact
  provenance : Option (DynamicSourceProvenance chars)
  failure_reason : Option DynamicSourceFailure

namespace DynamicSourceResult

variable {chars : Characters}

/-- `validate_shape` -/
def validateShape (result : DynamicSourceResult chars) : Except PyError Unit := do
  let success := decide (result.health = .healthy)
  require (success = (result.fact.isSome && result.provenance.isSome))
    (validationError "healthy results require fact and provenance only")
  require (success ≠ result.failure_reason.isSome)
    (validationError "failed results require exactly one controlled failure")
  require (result.failure_reason.all fun failure => result.health = failure.health)
    (validationError "health must match the controlled failure category")

/-- A field that is a model or `None`. -/
def nested {α : Type} (validate : Dumped → Except PyError α) : Dumped → Except PyError (Option α)
  | .none => .ok none
  | raw => (validate raw).map some

/-- The field `failure_reason`. -/
def asFailure : Dumped → Except PyError (Option DynamicSourceFailure)
  | .none => .ok none
  | .failure failure => .ok (some failure)
  | _ => .error (validationError "Input should be an instance of DynamicSourceFailure")

/-- The field `health`. -/
def asHealth : Dumped → Except PyError DynamicSourceHealth
  | .health health => .ok health
  | _ => .error (validationError "Input should be an instance of DynamicSourceHealth")

/-- `DynamicSourceResult.model_validate` -/
def validate (raw : Dumped) : Except PyError (DynamicSourceResult chars) := do
  let fields ← raw.fields
  let health := required fields "health" >>= asHealth
  let fact := nested DynamicReleaseFact.validate (optional fields "fact")
  let provenance := nested DynamicSourceProvenance.validate (optional fields "provenance")
  let failure_reason := asFailure (optional fields "failure_reason")
  collect [discard health, discard fact, discard provenance, discard failure_reason,
    forbidExtra ["health", "fact", "provenance", "failure_reason"] fields]
  let result := ⟨← health, ← fact, ← provenance, ← failure_reason⟩
  validateShape result
  .ok result

/-- `validate_shape` accepts a fact with its provenance, or a failure with its health. -/
theorem validateShape_eq_ok {result : DynamicSourceResult chars} :
    result.validateShape = .ok () ↔
      (result.health = .healthy ∧ (∃ fact provenance, result.fact = some fact ∧
        result.provenance = some provenance) ∧ result.failure_reason = none) ∨
      (∃ failure, result.failure_reason = some failure ∧ result.health = failure.health ∧
        (result.fact = none ∨ result.provenance = none)) := by
  obtain ⟨health, fact, provenance, failure⟩ := result
  have hfailed (failure : DynamicSourceFailure) : failure.health ≠ .healthy := by
    unfold DynamicSourceFailure.health
    split_ifs <;> simp
  simp only [validateShape, require_bind_eq_ok, require_eq_ok, decide_eq_true_eq]
  cases failure with
  | none => cases fact <;> cases provenance <;> simp
  | some failure =>
    have := hfailed failure
    cases fact <;> cases provenance <;> simp <;> grind

/-- A model or `None` as `model_dump` gives it. -/
def dumpNested {α : Type} (dump : α → Dumped) : Option α → Dumped
  | none => .none
  | some a => dump a

/-- `model_dump` of a result. -/
def dump (result : DynamicSourceResult chars) : Dumped := .dict [
  ("health", .health result.health),
  ("fact", dumpNested DynamicReleaseFact.dump result.fact),
  ("provenance", dumpNested DynamicSourceProvenance.dump result.provenance),
  ("failure_reason", dumpNested .failure result.failure_reason)]

/-- A result with an accepted shape is accepted as it is. -/
theorem validate_dump {result : DynamicSourceResult chars} (h : result.validateShape = .ok ()) :
    validate result.dump = .ok result := by
  have hfact : nested DynamicReleaseFact.validate (dumpNested DynamicReleaseFact.dump result.fact) =
      .ok result.fact := by
    cases result.fact with
    | none => rfl
    | some fact =>
      have hvalid := fact.validate_dump
      unfold DynamicReleaseFact.dump at hvalid
      simp [dumpNested, DynamicReleaseFact.dump, nested, hvalid, Except.map]
  have hprovenance : nested DynamicSourceProvenance.validate
      (dumpNested DynamicSourceProvenance.dump result.provenance) = .ok result.provenance := by
    cases result.provenance with
    | none => rfl
    | some provenance =>
      have hvalid := provenance.validate_dump
      unfold DynamicSourceProvenance.dump at hvalid
      simp [dumpNested, DynamicSourceProvenance.dump, nested, hvalid, Except.map]
  have hfailure : asFailure (dumpNested .failure result.failure_reason) = .ok result.failure_reason := by
    cases result.failure_reason <;> rfl
  have hfields : collect [discard (.ok result.health), discard (.ok result.fact),
      discard (.ok result.provenance), discard (.ok result.failure_reason), .ok ()] = .ok () :=
    collect_eq_ok.mpr (by simp)
  simp [validate, dump, Dumped.fields, required, optional, List.lookup_cons, asHealth, forbidExtra,
    hfact, hprovenance, hfailure, h, hfields]

/-- A result that was validated has an accepted shape. -/
theorem shape_of_validate {raw : Dumped} {result : DynamicSourceResult chars}
    (h : validate raw = .ok result) : result.validateShape = .ok () := by
  simp only [validate, bind_eq_ok, exists_unit] at h
  obtain ⟨_, _, _, _, _, _, _, _, _, _, _, hshape, hresult⟩ := h
  cases hresult
  exact hshape

end DynamicSourceResult

end AtlasOS.Discovery
