import AtlasOS.InstallationPlan.OciReference
import AtlasOS.Lib.Calendar
import AtlasOS.Lib.Dict

/-!
# Records of evidence

`adapt_raw_evidence_record` reads the record of one source and classifies it as an
observation. It validates the fields of the record one by one and decides the kind in
a chain of cases; the constructor of the observation then relates the kind to the
fields that are present.
-/

namespace AtlasOS.InstallationPlan

/-! ## Validated texts -/

/-- `[a-z0-9][a-z0-9._:-]*` -/
def isId : Text → Bool
  | [] => false
  | c :: rest => isSlugChar c && rest.all fun d =>
      isSlugChar d || d = '.' || d = '_' || d = ':' || d = '-'

/-- `bounded_id`, whose minimum is 1 everywhere here. -/
def boundedId (maximum : ℕ) (value : Text) : Except PyError Text := do
  require (isAscii value) (.valueError "ASCII required")
  require (1 ≤ value.length && value.length ≤ maximum && isId value)
    (.valueError "invalid bounded ID")
  return value

/-- `_id128` -/
def id128 : Text → Except PyError Text := boundedId 128

/-- `_source` -/
def source : Text → Except PyError Text := boundedId 256

/-- `0|[1-9][0-9]*` -/
def isNumeral : Text → Bool
  | [] => false
  | c :: rest => c = '0' && rest.isEmpty || c ≠ '0' && c.isDigit && rest.all Char.isDigit

/-- `_VERSION`, with the bound of its numbers. -/
def isVersion (value : Text) : Bool :=
  (value.splitOn '.').length = 3 &&
    (value.splitOn '.').all fun part => isNumeral part && number part ≤ 2147483647

/-- `_version` -/
def version (value : Text) : Except PyError Text := do
  require (isAscii value) (.valueError "ASCII required")
  require (isVersion value) (.valueError "invalid Version")
  return value

/-- `_utc` -/
def utcSecond (value : Text) : Except PyError Text := do
  require (isAscii value) (.valueError "ASCII required")
  require (CivilSecond.parse (String.ofList value)).isSome (.valueError "invalid UtcSecond")
  return value

/-! ## Observations -/

inductive ObservationKind where
  | present
  | absent
  | parseFailure
  | schemaFailure
  | unsupportedSourceClass
  | missingRequiredField
  | malformedTimestamp
  | malformedIdentity
  | malformedDigest
  | sourceUnavailable
  deriving DecidableEq

inductive AdapterReason where
  | recordAbsent
  | recordParseFailure
  | recordSchemaFailure
  | sourceClassUnsupported
  | requiredFieldMissing
  | timestampMalformed
  | identityMalformed
  | digestMalformed
  | sourceReadUnavailable
  deriving DecidableEq

/-- The table `reasons`; a present observation has no reason. -/
def ObservationKind.reason : ObservationKind → Option AdapterReason
  | .present => none
  | .absent => some .recordAbsent
  | .parseFailure => some .recordParseFailure
  | .schemaFailure => some .recordSchemaFailure
  | .unsupportedSourceClass => some .sourceClassUnsupported
  | .missingRequiredField => some .requiredFieldMissing
  | .malformedTimestamp => some .timestampMalformed
  | .malformedIdentity => some .identityMalformed
  | .malformedDigest => some .digestMalformed
  | .sourceUnavailable => some .sourceReadUnavailable

/-- `SourceClass | Literal["unknown"]` -/
inductive ReleasedClass where
  | curated
  | registryAttested
  | upstreamSigned
  | unknown
  deriving DecidableEq

/-- The source class that a text names. -/
def sourceClass (value : Text) : Option ReleasedClass :=
  if value = "curated".toList then some .curated
  else if value = "registry_attested".toList then some .registryAttested
  else if value = "upstream_signed".toList then some .upstreamSigned
  else none

/-- The released fields of an observation. -/
structure Released where
  source_class : Option ReleasedClass := none
  subject : Option Text := none
  release_version : Option Text := none
  image_reference : Option Text := none
  image_digest : Option Text := none
  released_source_id : Option Text := none
  attested_at : Option Text := none
  deriving DecidableEq

/-- Which of the released fields are not null, in the order of `released`. -/
def Released.given (r : Released) : List Bool :=
  [r.source_class.isSome, r.subject.isSome, r.release_version.isSome, r.image_reference.isSome,
    r.image_digest.isSome, r.released_source_id.isSome, r.attested_at.isSome]

/-- `RawEvidenceObservation` -/
structure RawEvidenceObservation extends Released where
  observation_kind : ObservationKind
  expected_source_id : Text
  adapter_reason : Option AdapterReason
  deriving DecidableEq

namespace RawEvidenceObservation

/-- `relation` -/
def relation (o : RawEvidenceObservation) : Except PyError Unit :=
  let released := o.given
  if o.observation_kind = .present then
    require (o.adapter_reason.isNone && released.all id && o.source_class ≠ some .unknown)
      (.valueError "invalid observation relation")
  else if o.adapter_reason ≠ o.observation_kind.reason then
    .error (.valueError "invalid observation reason")
  else if o.observation_kind ∈ [.absent, .parseFailure, .sourceUnavailable] ∧
      released.any id = true then
    .error (.valueError "invalid observation null relation")
  else if o.observation_kind = .unsupportedSourceClass ∧ (o.source_class ≠ some .unknown ∨
      ((released.take 5).drop 1 ++ released.drop 6).any id = true) then
    .error (.valueError "invalid unsupported relation")
  else if o.observation_kind = .missingRequiredField ∧ released.all id = true then
    .error (.valueError "invalid missing relation")
  else if o.observation_kind = .malformedTimestamp ∧
      (o.attested_at.isSome = true ∨ (released.take 6).all id = false) then
    .error (.valueError "invalid timestamp relation")
  else if o.observation_kind = .malformedIdentity ∧ (o.released_source_id.isSome = true ∨
      (released.take 5).all id = false ∨ o.attested_at.isNone = true) then
    .error (.valueError "invalid identity relation")
  else if o.observation_kind = .malformedDigest ∧
      (o.image_digest.isSome = true ∨ (released.eraseIdx 4).all id = false) then
    .error (.valueError "invalid digest relation")
  else .ok ()

/-- The check of a field that may be null. -/
def checkOptional (check : Text → Except PyError Text) : Option Text → Except PyError (Option Text)
  | none => return none
  | some value => return some (← check value)

/-- The constructor of an observation. -/
def construct (o : RawEvidenceObservation) : Except PyError RawEvidenceObservation := do
  let expected_source_id ← source o.expected_source_id
  let subject ← checkOptional id128 o.subject
  let release_version ← checkOptional version o.release_version
  let image_reference ← checkOptional ociRepository o.image_reference
  let image_digest ← checkOptional digest o.image_digest
  let released_source_id ← checkOptional source o.released_source_id
  let attested_at ← checkOptional utcSecond o.attested_at
  let observation := { o with
    expected_source_id, subject, release_version, image_reference, image_digest,
    released_source_id, attested_at }
  observation.relation
  return observation

end RawEvidenceObservation

/-! ## Records -/

/-- A value of a record; what a list or a mapping contains is not read. -/
inductive Node where
  | text (value : Text)
  | sequence
  | mapping

/-- What the YAML base loader returns for a text. -/
inductive Document where
  | empty
  | text (value : Text)
  | sequence
  | mapping (fields : Dict Node)

/-- `keys` -/
def KEYS : List String :=
  ["catalog_item_id", "release_version", "image_reference", "image_digest", "source_class",
    "source_id", "attested_at"]

/-- `isinstance(value, str)` -/
def Node.isText : Node → Bool
  | .text _ => true
  | _ => false

/-- `_validated` -/
def validated (check : Text → Except PyError Text) : Option Node → Except PyError (Option Text)
  | some (.text value) =>
      match check value with
      | .ok value => .ok (some value)
      | .error (.valueError _) => .ok none
      | .error error => .error error
  | _ => .ok none

/-- Whether the record names a source class that is not supported. -/
def unsupportedClass (fields : Dict Node) : Bool :=
  match fields.get "source_class" with
  | some (.text value) => (sourceClass value).isNone
  | _ => false

/-- `normalized_source` -/
def normalizedSource (fields : Dict Node) : Option ReleasedClass :=
  match fields.get "source_class" with
  | some (.text value) => sourceClass value
  | _ => none

/-- `structural` -/
def structural (fields : Dict Node) : Bool :=
  fields.items.any (fun item => item.1 ∉ KEYS) ||
    KEYS.any fun key => (fields.get key).any fun node => !node.isText

/-- Whether a field is given but was not released. -/
def refused (fields : Dict Node) (key : String) (value : Option Text) : Bool :=
  (fields.get key).isSome && value.isNone

/-- Whether a required field is missing. -/
def missing (fields : Dict Node) : Bool := KEYS.any fun key => (fields.get key).isNone

/-- `values` -/
def releasedValues (fields : Dict Node) : Except PyError Released := do
  let subject ← validated id128 (fields.get "catalog_item_id")
  let release_version ← validated version (fields.get "release_version")
  let image_reference ← validated ociRepository (fields.get "image_reference")
  let image_digest ← validated digest (fields.get "image_digest")
  let released_source_id ← validated source (fields.get "source_id")
  let attested_at ← validated utcSecond (fields.get "attested_at")
  return {
    source_class := normalizedSource fields
    subject, release_version, image_reference, image_digest, released_source_id, attested_at }

section Adapting

variable (expected_source_id : Text)

/-- An observation of a kind, with the reason of the kind. -/
def observe (observation_kind : ObservationKind) (released : Released) :
    Except PyError RawEvidenceObservation :=
  RawEvidenceObservation.construct { released with
    observation_kind
    expected_source_id
    adapter_reason := observation_kind.reason }

/-- The kind of a record from its values. -/
def kindOf (fields : Dict Node) (values : Released) : ObservationKind :=
  if structural fields || refused fields "catalog_item_id" values.subject ||
      refused fields "release_version" values.release_version ||
      refused fields "image_reference" values.image_reference then .schemaFailure
  else if missing fields then .missingRequiredField
  else if values.attested_at.isNone then .malformedTimestamp
  else if values.released_source_id.isNone then .malformedIdentity
  else if values.image_digest.isNone then .malformedDigest
  else .present

/-- The observation of a mapping. -/
def adaptFields (fields : Dict Node) : Except PyError RawEvidenceObservation :=
  if unsupportedClass fields then do
    let released_source_id ← validated source (fields.get "source_id")
    observe expected_source_id .unsupportedSourceClass {
      source_class := some .unknown
      released_source_id }
  else do
    let values ← releasedValues fields
    observe expected_source_id (kindOf fields values) values

/-- The text of the bytes as the base loader reads it; `none` where the bytes are not UTF-8 or the
loader raises. -/
def readDocument (load : String → Option Document) (raw : ByteArray) : Option Document :=
  (String.fromUTF8? raw).bind load

/-- `adapt_raw_evidence_record`, for a base loader. -/
def adaptRawEvidenceRecord (load : String → Option Document) (raw : Option ByteArray)
    (source_unavailable : Bool) : Except PyError RawEvidenceObservation :=
  if source_unavailable then observe expected_source_id .sourceUnavailable {}
  else
    match raw with
    | none => observe expected_source_id .absent {}
    | some raw =>
        match readDocument load raw with
        | none => observe expected_source_id .parseFailure {}
        | some (.mapping fields) => adaptFields expected_source_id fields
        | some _ => observe expected_source_id .schemaFailure {}

end Adapting

end AtlasOS.InstallationPlan
