import AtlasOS.InstallationPlan.Evidence
import AtlasOS.InstallationPlan.OciCanonical

/-!
# The kind of a record of evidence

The documentation lists the kinds of observations in an order of precedence, and says
for each which released fields it has. The first kind that applies to a record can
always be given to it, with the fields that are valid on their own, unless the record
is complete and two of its timestamp, source identity and digest are malformed: its
kind then promises fields that are not valid, and the constructor raises.
-/

namespace AtlasOS.InstallationPlan

/-! ## Validators -/

/-- The value of a field that is valid on its own. -/
def validValue (check : Text → Except PyError Text) : Option Node → Option Text
  | some (.text value) => (check value).toOption
  | _ => none

/-- A validator that raises a `ValueError` or returns the text as it is. -/
structure Validator (check : Text → Except PyError Text) : Prop where
  raises : ∀ value, RaisesValueError (check value)
  keeps : ∀ value value', check value = .ok value' → value' = value

section Validators

theorem validator_boundedId (maximum : ℕ) : Validator (boundedId maximum) where
  raises _ := .bind (.require _ _) fun _ => .bind (.require _ _) fun _ => .ok _
  keeps value value' h := by
    simp only [boundedId, require_bind_eq_ok, pure_eq_ok, Except.ok.injEq] at h
    exact h.2.2.symm

theorem validator_id128 : Validator id128 := validator_boundedId 128

theorem validator_source : Validator source := validator_boundedId 256

theorem validator_version : Validator version where
  raises _ := .bind (.require _ _) fun _ => .bind (.require _ _) fun _ => .ok _
  keeps value value' h := by
    simp only [version, require_bind_eq_ok, pure_eq_ok, Except.ok.injEq] at h
    exact h.2.2.symm

theorem validator_digest : Validator digest where
  raises _ := .bind (.require _ _) fun _ => .bind (.require _ _) fun _ => .ok _
  keeps value value' h := by
    simp only [digest, require_bind_eq_ok, pure_eq_ok, Except.ok.injEq] at h
    exact h.2.2.symm

theorem validator_utcSecond : Validator utcSecond where
  raises _ := .bind (.require _ _) fun _ => .bind (.require _ _) fun _ => .ok _
  keeps value value' h := by
    simp only [utcSecond, require_bind_eq_ok, pure_eq_ok, Except.ok.injEq] at h
    exact h.2.2.symm

theorem validator_ociRepository : Validator ociRepository where
  raises value := by
    refine .bind (raisesValueError_normalizeOciReference value) fun result => ?_
    split
    · exact .ok _
    · exact .valueError _
  keeps value value' h := by
    obtain ⟨result, -, h⟩ := bind_eq_ok.mp h
    split at h
    · next heq =>
      obtain rfl := Except.ok.inj h
      exact congrArg Prod.fst heq
    · cases h

variable {check : Text → Except PyError Text} (hcheck : Validator check)
include hcheck

theorem validated_eq_ok (node : Option Node) : validated check node = .ok (validValue check node) := by
  cases node with
  | none => rfl
  | some node =>
    cases node with
    | text value =>
      cases h : check value with
      | ok value' => simp only [validated, validValue, h, Except.toOption]
      | error e =>
        obtain ⟨message, rfl⟩ := hcheck.raises value e h
        simp only [validated, validValue, h, Except.toOption]
    | sequence => rfl
    | mapping => rfl

/-- A value that is valid on its own is accepted again. -/
theorem checkOptional_validValue (node : Option Node) :
    RawEvidenceObservation.checkOptional check (validValue check node) =
      .ok (validValue check node) := by
  cases node with
  | none => rfl
  | some node =>
    cases node with
    | text value =>
      cases h : check value with
      | ok value' =>
        obtain rfl := hcheck.keeps value value' h
        simp only [validValue, Except.toOption, RawEvidenceObservation.checkOptional, h, ok_bind,
          pure_eq_ok]
      | error e => simp only [validValue, h, Except.toOption, RawEvidenceObservation.checkOptional,
          pure_eq_ok]
    | sequence => rfl
    | mapping => rfl

end Validators

/-! ## The table of the documentation -/

/-- The fields of a record; what is not a mapping has none. -/
def fieldsOf : Option Document → Dict Node
  | some (.mapping fields) => fields
  | _ => ∅

/-- Whether the record is a mapping. -/
def isMapping : Option Document → Bool
  | some (.mapping _) => true
  | _ => false

/-- A required field is given as a text that is not valid. -/
def malformed (check : Text → Except PyError Text) (fields : Dict Node) (key : String) : Bool :=
  (fields.get key).isSome && (validValue check (fields.get key)).isNone

/-- The order of precedence of the kinds of a record that was read. -/
def PRECEDENCE : List ObservationKind :=
  [.parseFailure, .unsupportedSourceClass, .schemaFailure, .missingRequiredField,
    .malformedTimestamp, .malformedIdentity, .malformedDigest, .present]

/-- Whether a kind applies to a record, whatever comes before it. -/
def applies (document : Option Document) : ObservationKind → Bool
  | .parseFailure => document.isNone
  | .unsupportedSourceClass => unsupportedClass (fieldsOf document)
  | .schemaFailure =>
      !isMapping document || structural (fieldsOf document) ||
        malformed id128 (fieldsOf document) "catalog_item_id" ||
        malformed version (fieldsOf document) "release_version" ||
        malformed ociRepository (fieldsOf document) "image_reference"
  | .missingRequiredField => missing (fieldsOf document)
  | .malformedTimestamp => malformed utcSecond (fieldsOf document) "attested_at"
  | .malformedIdentity => malformed source (fieldsOf document) "source_id"
  | .malformedDigest => malformed digest (fieldsOf document) "image_digest"
  | .present => true
  | .absent | .sourceUnavailable => false

/-- The released fields of a record that are valid on their own. -/
def validReleased (fields : Dict Node) : Released where
  source_class := normalizedSource fields
  subject := validValue id128 (fields.get "catalog_item_id")
  release_version := validValue version (fields.get "release_version")
  image_reference := validValue ociRepository (fields.get "image_reference")
  image_digest := validValue digest (fields.get "image_digest")
  released_source_id := validValue source (fields.get "source_id")
  attested_at := validValue utcSecond (fields.get "attested_at")

/-- The released fields that the table gives to a kind: of a record with an unsupported source class
only its identity is kept. -/
def releasedFor (document : Option Document) : ObservationKind → Released
  | .unsupportedSourceClass => {
      source_class := some .unknown
      released_source_id := validValue source ((fieldsOf document).get "source_id") }
  | _ => validReleased (fieldsOf document)

/-- The adapter returns the observation that the documentation describes. -/
def Classified (load : String → Option Document) (raw : ByteArray) (expected_source_id : Text) :
    Prop :=
  ∃ observation, adaptRawEvidenceRecord expected_source_id load (some raw) false = .ok observation ∧
    PRECEDENCE.find? (applies (readDocument load raw)) = some observation.observation_kind ∧
    observation.adapter_reason = observation.observation_kind.reason ∧
    observation.expected_source_id = expected_source_id ∧
    observation.toReleased =
      releasedFor (readDocument load raw) observation.observation_kind

/-- A record to which no kind before the malformed ones applies. -/
def Complete (document : Option Document) : Prop :=
  ∀ kind ∈ PRECEDENCE.take 4, applies document kind = false

/-- At most one of the timestamp, the source identity and the digest is malformed. -/
def AtMostOneMalformed (document : Option Document) : Prop :=
  ((PRECEDENCE.drop 4).take 3).countP (fun kind => applies document kind) ≤ 1

/-! ## The observation of a kind -/

theorem validReleased_eq (fields : Dict Node) : releasedValues fields = .ok (validReleased fields) := by
  simp only [releasedValues, validated_eq_ok validator_id128, validated_eq_ok validator_source,
    validated_eq_ok validator_version, validated_eq_ok validator_ociRepository,
    validated_eq_ok validator_digest, validated_eq_ok validator_utcSecond, ok_bind, pure_eq_ok]
  rfl

section Observing

variable {load : String → Option Document} {raw : ByteArray} {expected_source_id : Text}
  {fields : Dict Node} {kind : ObservationKind}

/-- An observation with a kind. -/
def observation (expected_source_id : Text) (kind : ObservationKind) (released : Released) :
    RawEvidenceObservation :=
  { released with
    observation_kind := kind
    expected_source_id
    adapter_reason := kind.reason }

/-- The fields that the table gives to a kind pass their validators, so that the relation decides. -/
theorem observe_releasedFor (hexpected : source expected_source_id = .ok expected_source_id)
    (document : Option Document) :
    observe expected_source_id kind (releasedFor document kind) =
      (observation expected_source_id kind (releasedFor document kind)).relation.map
        fun _ => observation expected_source_id kind (releasedFor document kind) := by
  have hnone (check : Text → Except PyError Text) :
      RawEvidenceObservation.checkOptional check none = .ok none := rfl
  have hmap (o : RawEvidenceObservation) :
      (o.relation >>= fun _ => pure o) = o.relation.map fun _ => o := by
    cases o.relation <;> rfl
  have hvalid (fields : Dict Node) : observe expected_source_id kind (validReleased fields) =
      (observation expected_source_id kind (validReleased fields)).relation.map
        fun _ => observation expected_source_id kind (validReleased fields) := by
    simp only [observe, RawEvidenceObservation.construct, validReleased, hexpected, ok_bind,
      checkOptional_validValue validator_id128, checkOptional_validValue validator_source,
      checkOptional_validValue validator_version, checkOptional_validValue validator_ociRepository,
      checkOptional_validValue validator_digest, checkOptional_validValue validator_utcSecond]
    exact hmap _
  cases kind with
  | unsupportedSourceClass =>
    simp only [observe, RawEvidenceObservation.construct, releasedFor, hexpected, ok_bind, hnone,
      checkOptional_validValue validator_source]
    exact hmap _
  | _ => exact hvalid _

/-! ## The kind that is chosen -/

/-- The first kind of the table that applies. -/
def documentedKind (document : Option Document) : ObservationKind :=
  ((PRECEDENCE.find? (applies document)).getD .present)

theorem find_precedence (document : Option Document) :
    PRECEDENCE.find? (applies document) = some (documentedKind document) := by
  have hsome : (PRECEDENCE.find? (applies document)).isSome = true :=
    List.find?_isSome.mpr ⟨.present, by decide, rfl⟩
  obtain ⟨kind, hkind⟩ := Option.isSome_iff_exists.mp hsome
  rw [documentedKind, hkind]
  rfl

theorem validReleased_empty : validReleased ∅ = {} := by
  simp only [validReleased, normalizedSource, Dict.get_empty, validValue]

theorem isSome_get_of_missing (h : missing fields = false) {key : String} (hkey : key ∈ KEYS) :
    (fields.get key).isSome = true := by
  by_contra hnone
  have hmissing : missing fields = true :=
    List.any_eq_true.mpr ⟨key, hkey, by simpa using hnone⟩
  rw [h] at hmissing
  cases hmissing

theorem malformed_eq_isNone (h : missing fields = false) {key : String} (hkey : key ∈ KEYS)
    (check : Text → Except PyError Text) :
    malformed check fields key = (validValue check (fields.get key)).isNone := by
  rw [malformed, isSome_get_of_missing h hkey, Bool.true_and]

/-- For a mapping, the chain of cases finds the first kind that applies. -/
theorem documentedKind_mapping (hclass : unsupportedClass fields = false) :
    documentedKind (some (.mapping fields)) = kindOf fields (validReleased fields) := by
  have hschema : applies (some (.mapping fields)) .schemaFailure =
      (structural fields || refused fields "catalog_item_id" (validReleased fields).subject ||
        refused fields "release_version" (validReleased fields).release_version ||
        refused fields "image_reference" (validReleased fields).image_reference) := rfl
  rw [documentedKind, PRECEDENCE, kindOf, ← hschema]
  have hparse : applies (some (.mapping fields)) .parseFailure = false := rfl
  have hsource : applies (some (.mapping fields)) .unsupportedSourceClass = false := hclass
  simp only [List.find?_cons, hparse, hsource]
  cases applies (some (.mapping fields)) .schemaFailure with
  | true => rfl
  | false =>
    have hmissing : applies (some (.mapping fields)) .missingRequiredField = missing fields := rfl
    rw [hmissing]
    cases h : missing fields with
    | true => rfl
    | false =>
      have htimestamp : applies (some (.mapping fields)) .malformedTimestamp =
          (validReleased fields).attested_at.isNone := malformed_eq_isNone h (by decide) utcSecond
      have hidentity : applies (some (.mapping fields)) .malformedIdentity =
          (validReleased fields).released_source_id.isNone :=
        malformed_eq_isNone h (by decide) source
      have hdigest : applies (some (.mapping fields)) .malformedDigest =
          (validReleased fields).image_digest.isNone := malformed_eq_isNone h (by decide) digest
      rw [htimestamp, hidentity, hdigest]
      cases (validReleased fields).attested_at.isNone with
      | true => rfl
      | false =>
        cases (validReleased fields).released_source_id.isNone with
        | true => rfl
        | false => cases (validReleased fields).image_digest.isNone <;> rfl

/-- The adapter observes a record under the first kind that applies. -/
theorem adapt_eq_observe : adaptRawEvidenceRecord expected_source_id load (some raw) false =
    observe expected_source_id (documentedKind (readDocument load raw))
      (releasedFor (readDocument load raw) (documentedKind (readDocument load raw))) := by
  have hempty : unsupportedClass ∅ = false := by simp only [unsupportedClass, Dict.get_empty]
  have hplain {document : Document} (h : isMapping (some document) = false)
      (hfields : fieldsOf (some document) = ∅) : documentedKind (some document) = .schemaFailure := by
    have hparse : applies (some document) .parseFailure = false := rfl
    have hsource : applies (some document) .unsupportedSourceClass = false := by
      rw [applies, hfields, hempty]
    have hschema : applies (some document) .schemaFailure = true := by
      simp only [applies, h, Bool.not_false, Bool.true_or]
    simp only [documentedKind, PRECEDENCE, List.find?_cons, hparse, hsource, hschema,
      Option.getD_some]
  simp only [adaptRawEvidenceRecord, Bool.false_eq_true, if_false]
  cases readDocument load raw with
  | none =>
    have hkind : documentedKind none = .parseFailure := rfl
    rw [hkind, releasedFor, fieldsOf, validReleased_empty]
    all_goals simp
  | some document =>
    cases document with
    | mapping fields =>
      simp only [adaptFields]
      cases hclass : unsupportedClass fields with
      | true =>
        have hkind : documentedKind (some (.mapping fields)) = .unsupportedSourceClass := by
          have hsource : applies (some (.mapping fields)) .unsupportedSourceClass = true := hclass
          have hparse : applies (some (.mapping fields)) .parseFailure = false := rfl
          simp only [documentedKind, PRECEDENCE, List.find?_cons, hparse, hsource, Option.getD_some]
        rw [hkind, if_pos rfl, validated_eq_ok validator_source, ok_bind]
        rfl
      | false =>
        have hreleased : releasedFor (some (.mapping fields))
            (kindOf fields (validReleased fields)) = validReleased fields := by
          unfold kindOf
          split_ifs <;> rfl
        rw [if_neg (by simp), validReleased_eq, ok_bind, documentedKind_mapping hclass, hreleased]
    | empty => rw [hplain rfl rfl, releasedFor, fieldsOf, validReleased_empty] <;> simp
    | text value => rw [hplain rfl rfl, releasedFor, fieldsOf, validReleased_empty] <;> simp
    | sequence => rw [hplain rfl rfl, releasedFor, fieldsOf, validReleased_empty] <;> simp

/-! ## The relation -/

/-- A missing field is not released. -/
theorem given_of_missing (h : missing fields = true) : (validReleased fields).given.all id = false := by
  obtain ⟨key, hkey, hnone⟩ := List.any_eq_true.mp h
  rw [Option.isNone_iff_eq_none] at hnone
  have hvalid (check : Text → Except PyError Text) : validValue check (fields.get key) = none := by
    rw [hnone]
    rfl
  simp only [Released.given, validReleased, List.all_cons, List.all_nil, id_eq, Bool.and_true]
  simp only [KEYS, List.mem_cons, List.not_mem_nil, or_false] at hkey
  rcases hkey with rfl | rfl | rfl | rfl | rfl | rfl | rfl
  · simp [hvalid]
  · simp [hvalid]
  · simp [hvalid]
  · simp [hvalid]
  · simp [normalizedSource, hnone]
  · simp [hvalid]
  · simp [hvalid]

/-- The kinds before the malformed ones promise nothing that a record lacks. -/
theorem relation_of_applies {document : Option Document} (hkind : kind ∈ PRECEDENCE.take 4)
    (happlies : applies document kind = true) :
    (observation expected_source_id kind (releasedFor document kind)).relation = .ok () := by
  have hcases : kind = .parseFailure ∨ kind = .unsupportedSourceClass ∨ kind = .schemaFailure ∨
      kind = .missingRequiredField := by simpa [PRECEDENCE] using hkind
  rcases hcases with rfl | rfl | rfl | rfl
  · obtain rfl : document = none := Option.isNone_iff_eq_none.mp happlies
    rw [releasedFor, fieldsOf, validReleased_empty]
    all_goals simp [RawEvidenceObservation.relation, observation, Released.given]
  · simp [RawEvidenceObservation.relation, observation, Released.given, releasedFor]
  · simp [RawEvidenceObservation.relation, observation]
  · have hgiven := given_of_missing happlies
    simp only [RawEvidenceObservation.relation, observation, releasedFor]
    simp [hgiven]

/-- The kinds of a complete record, and which of them its constructor accepts. -/
theorem relation_of_complete {released : Released} (hclass : released.source_class.isSome = true)
    (hknown : released.source_class ≠ some .unknown) (hsubject : released.subject.isSome = true)
    (hversion : released.release_version.isSome = true)
    (hreference : released.image_reference.isSome = true) :
    (observation expected_source_id
        (if released.attested_at.isNone then .malformedTimestamp
        else if released.released_source_id.isNone then .malformedIdentity
        else if released.image_digest.isNone then .malformedDigest else .present)
        released).relation = .ok () ↔
      [released.attested_at.isNone, released.released_source_id.isNone,
        released.image_digest.isNone].countP id ≤ 1 := by
  obtain ⟨source_class, subject, release_version, image_reference, image_digest, released_source_id,
    attested_at⟩ := released
  simp only at hclass hknown hsubject hversion hreference ⊢
  cases attested_at <;> cases released_source_id <;> cases image_digest <;>
    simp [RawEvidenceObservation.relation, observation, Released.given, ObservationKind.reason,
      hclass, hknown, hsubject, hversion, hreference]

/-- What is known of a complete record. -/
theorem exists_fields_of_complete {document : Option Document} (h : Complete document) :
    ∃ fields, document = some (.mapping fields) ∧ unsupportedClass fields = false ∧
      applies document .schemaFailure = false ∧ missing fields = false := by
  have hparse := h .parseFailure (by decide)
  have hclass := h .unsupportedSourceClass (by decide)
  have hschema := h .schemaFailure (by decide)
  have hmissing := h .missingRequiredField (by decide)
  have hmapping : isMapping document = true := by
    simp only [applies, Bool.or_eq_false_iff, Bool.not_eq_false'] at hschema
    exact hschema.1.1.1.1
  match document with
  | some (.mapping fields) => exact ⟨fields, rfl, hclass, hschema, hmissing⟩

/-- A complete record has a known source class. -/
theorem known_of_complete (hclass : unsupportedClass fields = false)
    (hstructural : structural fields = false) (hmissing : missing fields = false) :
    (normalizedSource fields).isSome = true ∧ normalizedSource fields ≠ some .unknown := by
  have hget := isSome_get_of_missing hmissing (show "source_class" ∈ KEYS by decide)
  obtain ⟨node, hnode⟩ := Option.isSome_iff_exists.mp hget
  have htext : node.isText = true := by
    rw [structural, Bool.or_eq_false_iff, List.any_eq_false] at hstructural
    have hkey := List.any_eq_false.mp hstructural.2 "source_class" (by decide)
    simpa [hnode] using hkey
  cases node with
  | text value =>
    simp only [unsupportedClass, hnode] at hclass
    simp only [normalizedSource, hnode]
    refine ⟨by simpa using hclass, ?_⟩
    unfold sourceClass
    split_ifs <;> simp
  | sequence => cases htext
  | mapping => cases htext

theorem relation_iff (document : Option Document) :
    (observation expected_source_id (documentedKind document)
        (releasedFor document (documentedKind document))).relation = .ok () ↔
      (Complete document → AtMostOneMalformed document) := by
  by_cases hcomplete : Complete document
  · obtain ⟨fields, rfl, hclass, hschema, hmissing⟩ := exists_fields_of_complete hcomplete
    simp only [applies, isMapping, fieldsOf, Bool.not_true, Bool.false_or, Bool.or_eq_false_iff]
      at hschema
    obtain ⟨⟨⟨hstructural, hsubject⟩, hversion⟩, hreference⟩ := hschema
    rw [malformed_eq_isNone hmissing (by decide)] at hsubject hversion hreference
    change (validReleased fields).subject.isNone = false at hsubject
    change (validReleased fields).release_version.isNone = false at hversion
    change (validReleased fields).image_reference.isNone = false at hreference
    obtain ⟨hsome, hknown⟩ := known_of_complete hclass hstructural hmissing
    have hkind : documentedKind (some (.mapping fields)) =
        if (validReleased fields).attested_at.isNone then .malformedTimestamp
        else if (validReleased fields).released_source_id.isNone then .malformedIdentity
        else if (validReleased fields).image_digest.isNone then .malformedDigest else .present := by
      have hgiven (key : String) (value : Option Text) (h : value.isNone = false) :
          refused fields key value = false := by rw [refused, h, Bool.and_false]
      rw [documentedKind_mapping hclass, kindOf, hstructural, hgiven _ _ hsubject,
        hgiven _ _ hversion, hgiven _ _ hreference, hmissing]
      rfl
    have hreleased : releasedFor (some (.mapping fields))
        (documentedKind (some (.mapping fields))) = validReleased fields := by
      rw [hkind]
      split_ifs <;> rfl
    have hcount : AtMostOneMalformed (some (.mapping fields)) ↔
        [(validReleased fields).attested_at.isNone, (validReleased fields).released_source_id.isNone,
          (validReleased fields).image_digest.isNone].countP id ≤ 1 := by
      have hthree : (PRECEDENCE.drop 4).take 3 =
        [.malformedTimestamp, .malformedIdentity, .malformedDigest] := rfl
      rw [AtMostOneMalformed, hthree]
      simp only [List.countP_cons, List.countP_nil, applies, fieldsOf, id_eq, validReleased,
        malformed_eq_isNone hmissing (show "attested_at" ∈ KEYS by decide),
        malformed_eq_isNone hmissing (show "source_id" ∈ KEYS by decide),
        malformed_eq_isNone hmissing (show "image_digest" ∈ KEYS by decide)]
    rw [hreleased, hkind, relation_of_complete hsome hknown, ← hcount]
    · exact ⟨fun h _ => h, fun h => h hcomplete⟩
    · simpa using hsubject
    · simpa using hversion
    · simpa using hreference
  · refine iff_of_true ?_ fun h => absurd h hcomplete
    simp only [Complete, not_forall] at hcomplete
    obtain ⟨kind, hmem, happlies⟩ := hcomplete
    have hfirst : ((PRECEDENCE.take 4).find? (applies document)).isSome = true :=
      List.find?_isSome.mpr ⟨kind, hmem, by simpa using happlies⟩
    obtain ⟨first, hfirst⟩ := Option.isSome_iff_exists.mp hfirst
    have hkind : documentedKind document = first := by
      rw [documentedKind, ← List.take_append_drop 4 PRECEDENCE, List.find?_append, hfirst]
      rfl
    rw [hkind]
    exact relation_of_applies (List.mem_of_find?_eq_some hfirst) (List.find?_some hfirst)

/-- The adapter returns the documented observation exactly when its constructor accepts it. -/
theorem classified_iff_relation (hexpected : source expected_source_id = .ok expected_source_id) :
    Classified load raw expected_source_id ↔
      (observation expected_source_id (documentedKind (readDocument load raw))
        (releasedFor (readDocument load raw)
          (documentedKind (readDocument load raw)))).relation = .ok () := by
  unfold Classified
  rw [adapt_eq_observe, observe_releasedFor hexpected, find_precedence]
  constructor
  · rintro ⟨returned, hreturned, -⟩
    cases h : (observation expected_source_id (documentedKind (readDocument load raw))
        (releasedFor (readDocument load raw)
          (documentedKind (readDocument load raw)))).relation with
    | ok => rfl
    | error e =>
      rw [h] at hreturned
      cases hreturned
  · intro h
    rw [h]
    exact ⟨_, rfl, rfl, rfl, rfl, rfl⟩

end Observing

/-- The adapter returns the first kind of the table that applies to a record, with the fields that
are valid on their own, unless the record is complete and two of its timestamp, source identity and
digest are malformed. -/
theorem evidence_classified_iff (load : String → Option Document) (raw : ByteArray)
    (expected_source_id : Text) (hexpected : source expected_source_id = .ok expected_source_id) :
    Classified load raw expected_source_id ↔
      (Complete (readDocument load raw) → AtMostOneMalformed (readDocument load raw)) := by
  rw [classified_iff_relation hexpected, relation_iff]

/-! ## Two records -/

/-- A record of one release; its timestamp and its digest vary. -/
def releaseFields (attested_at image_digest : String) : Dict Node :=
  Dict.ofItems [("catalog_item_id", .text "home-assistant".toList),
    ("release_version", .text "2026.8.3".toList),
    ("image_reference", .text "ghcr.io/home-assistant/home-assistant".toList),
    ("image_digest", .text image_digest.toList), ("source_class", .text "registry_attested".toList),
    ("source_id", .text "collector".toList), ("attested_at", .text attested_at.toList)]

/-- The lines of such a record. -/
def releaseText (attested_at image_digest : String) : String :=
  join "\n" ["catalog_item_id: home-assistant", "release_version: 2026.8.3",
    "image_reference: ghcr.io/home-assistant/home-assistant", join ": " ["image_digest", image_digest],
    "source_class: registry_attested", "source_id: collector",
    join ": " ["attested_at", attested_at]]

/-- What the base loader returns for such a record. -/
def loadRelease (attested_at image_digest : String) (text : String) : Option Document :=
  if text = releaseText attested_at image_digest then
    some (.mapping (releaseFields attested_at image_digest))
  else none

theorem fromUTF8_toByteArray (text : String) : String.fromUTF8? text.toByteArray = some text :=
  dif_pos text.isValidUTF8

theorem readDocument_release (attested_at image_digest : String) :
    readDocument (loadRelease attested_at image_digest)
        (releaseText attested_at image_digest).toByteArray =
      some (.mapping (releaseFields attested_at image_digest)) := by
  rw [readDocument, fromUTF8_toByteArray, Option.bind_some, loadRelease, if_pos rfl]

/-- A record with a malformed timestamp only. -/
theorem evidence_classified_timestamp :
    let digest := "sha256:0000000000000000000000000000000000000000000000000000000000000000"
    let load := loadRelease "yesterday" digest
    let raw := (releaseText "yesterday" digest).toByteArray
    Classified load raw "expected".toList ↔
      (Complete (readDocument load raw) → AtMostOneMalformed (readDocument load raw)) :=
  evidence_classified_iff _ _ _ (by decide)

set_option maxRecDepth 2000

/-- A malformed digest beside the malformed timestamp makes the adapter raise. -/
theorem evidence_not_classified :
    ¬∀ (load : String → Option Document) (raw : ByteArray) (expected_source_id : Text),
      source expected_source_id = .ok expected_source_id → Classified load raw expected_source_id := by
  intro h
  have hexpected : source "expected".toList = .ok "expected".toList := by decide
  have hclassified := h (loadRelease "yesterday" "sha256:nope")
    (releaseText "yesterday" "sha256:nope").toByteArray _ hexpected
  rw [classified_iff_relation hexpected, readDocument_release] at hclassified
  have hraised : (observation "expected".toList
      (documentedKind (some (.mapping (releaseFields "yesterday" "sha256:nope"))))
      (releasedFor (some (.mapping (releaseFields "yesterday" "sha256:nope")))
        (documentedKind (some (.mapping (releaseFields "yesterday" "sha256:nope")))))).relation =
      .error (.valueError "invalid timestamp relation") := by decide
  rw [hraised] at hclassified
  cases hclassified

end AtlasOS.InstallationPlan
