import AtlasOS.Core.Dispatch.Runtime
import AtlasOS.ProviderIntents.Methods

/-!
# A codec and commands to evaluate with

A simple instance of the JSON codec of the provider-intent records, which shows
that its laws can be met, and commands for one virtual machine.
-/

namespace AtlasOS.ProviderIntents

open Core

instance : StrEnum ProviderIntentProvenance where
  value
    | .legacyPolicyImport => "legacy_policy_import"
    | .operator => "operator"
  members := [.legacyPolicyImport, .operator]
  find_value s := by cases s <;> simp

instance : StrEnum MutationOutcome where
  value
    | .created => "created"
    | .updated => "updated"
    | .superseded => "superseded"
  members := [.created, .updated, .superseded]
  find_value s := by cases s <;> simp

instance : StrEnum CoordinateOutcome where
  value
    | .created => "created"
    | .updated => "updated"
    | .rebound => "rebound"
  members := [.created, .updated, .rebound]
  find_value s := by cases s <;> simp

/-- The texts of a record. -/
def recordTexts (r : ProviderIntentRecord) : List String :=
  [intText r.schema_version, r.intent_id, intText r.record_version, r.provider_id,
    optionText r.resource_type, r.resource_id, optionText r.incarnation_fingerprint,
    StrEnum.value r.intent_kind, StrEnum.value r.intent_value, StrEnum.value r.lifecycle,
    StrEnum.value r.provenance, optionText r.source_reference, plainIsoformat r.created_at,
    plainIsoformat r.updated_at, optionText (r.previous_record_version.map intText)]

/-- The record with given texts. -/
def readRecordTexts : List String → Except PyError ProviderIntentRecord
  | [schema_version, intent_id, record_version, provider_id, resource_type, resource_id,
      fingerprint, kind, value, lifecycle, provenance, reference, created, updated, previous] => do
      let intent_kind ← expect (StrEnum.ofValue? kind) (.valueError "intent_kind")
      let intent_value ← expect (StrEnum.ofValue? value) (.valueError "intent_value")
      let lifecycle ← expect (StrEnum.ofValue? lifecycle) (.valueError "lifecycle")
      let provenance ← expect (StrEnum.ofValue? provenance) (.valueError "provenance")
      return { schema_version := readIntText schema_version, intent_id
               record_version := readIntText record_version, provider_id
               resource_type := readOptionText resource_type, resource_id
               incarnation_fingerprint := readOptionText fingerprint
               intent_kind, intent_value, lifecycle, provenance
               source_reference := readOptionText reference
               created_at := readTimeText created, updated_at := readTimeText updated
               previous_record_version := (readOptionText previous).map readIntText }
  | _ => .error (.valueError "fields")

theorem readRecordTexts_recordTexts (r : ProviderIntentRecord) :
    readRecordTexts (recordTexts r) = .ok r := by
  have hprevious : (r.previous_record_version.map intText).map readIntText =
      r.previous_record_version := by
    cases r.previous_record_version <;> simp
  simp [readRecordTexts, recordTexts, hprevious]

/-- The mutation result with given texts. -/
def readResultTexts : List String → Except PyError ProviderIntentMutationResult
  | outcome :: texts => do
      let outcome ← expect (StrEnum.ofValue? outcome) (.valueError "outcome")
      let record ← readRecordTexts texts
      return { outcome, record }
  | [] => .error (.valueError "fields")

/-- The texts of a coordinate result. -/
def coordinateResultTexts (r : ProviderIntentCoordinateMutationResult) : List String :=
  [StrEnum.value r.outcome, r.request_id, r.provider_id, r.resource_type, r.resource_id,
    r.management_fingerprint, StrEnum.value r.expectation, intText r.record_version,
    intText (if r.superseded_previous_incarnation then 1 else 0)]

/-- The coordinate result with given texts. -/
def readCoordinateResultTexts :
    List String → Except PyError ProviderIntentCoordinateMutationResult
  | [outcome, request_id, provider_id, resource_type, resource_id, management_fingerprint,
      expectation, record_version, superseded] => do
      let outcome ← expect (StrEnum.ofValue? outcome) (.valueError "outcome")
      let expectation ← expect (StrEnum.ofValue? expectation) (.valueError "expectation")
      return { outcome, request_id, provider_id, resource_type, resource_id,
               management_fingerprint, expectation
               record_version := readIntText record_version
               superseded_previous_incarnation := decide (readIntText superseded = 1) }
  | _ => .error (.valueError "fields")

theorem readCoordinateResultTexts_texts (r : ProviderIntentCoordinateMutationResult) :
    readCoordinateResultTexts (coordinateResultTexts r) = .ok r := by
  obtain ⟨outcome, request_id, provider_id, resource_type, resource_id, fingerprint, expectation,
    version, superseded⟩ := r
  cases superseded <;> simp [readCoordinateResultTexts, coordinateResultTexts]

/-- The import result with given texts. -/
def readImportResultTexts : List String → Except PyError LegacyPolicyImportResult
  | [outcome, import_id, source_policy_digest, record_count, records_digest] =>
      .ok { outcome, import_id, source_policy_digest, record_count := readIntText record_count
            records_digest }
  | _ => .error (.valueError "fields")

/-- A codec that meets the laws. -/
def Pydantic.plain : Pydantic where
  dumpRecord r := joinTexts (recordTexts r)
  loadRecord text := readRecordTexts (splitTexts text)
  dumpResult r := joinTexts (StrEnum.value r.outcome :: recordTexts r.record)
  loadResult text := readResultTexts (splitTexts text)
  dumpCoordinateResult r := joinTexts (coordinateResultTexts r)
  loadCoordinateResult text := readCoordinateResultTexts (splitTexts text)
  dumpImportResult r := joinTexts [r.outcome, r.import_id, r.source_policy_digest,
    intText r.record_count, r.records_digest]
  loadImportResult text := readImportResultTexts (splitTexts text)
  load_dumpRecord r _ _ := by rw [splitTexts_joinTexts, readRecordTexts_recordTexts]
  load_dumpResult r _ _ := by
    rw [splitTexts_joinTexts, readResultTexts, readRecordTexts_recordTexts]
    simp
  load_dumpCoordinateResult r := by rw [splitTexts_joinTexts, readCoordinateResultTexts_texts]
  load_dumpImportResult r := by simp [splitTexts_joinTexts, readImportResultTexts]

theorem matchesVersioned_plainDigest (version : String) :
    matchesVersioned version (plainDigest version) = true := by
  change matchesVersioned version (versioned version (String.ofList (List.replicate 64 '0'))) = true
  rw [matchesVersioned_versioned]
  exact Python.plain.sha256_isHexDigest ""

/-- The management fingerprint of the virtual machine. -/
def plainFingerprint : String := plainDigest "provider-management-fingerprint-v1"

theorem matchesManagementFingerprint_plainFingerprint :
    matchesManagementFingerprint plainFingerprint = true :=
  matchesVersioned_plainDigest _

theorem validateSupport_plain : validateSupport "proxmox" "qemu" = .ok () :=
  validateSupport_eq_ok.mpr ⟨rfl, rfl⟩

/-- A command that expects a virtual machine to run. -/
def ProviderIntentMutationCommand.plain : ProviderIntentMutationCommand where
  request_id := "request-1"
  request_digest := plainDigest "provider-intent-request-v1"
  provider_id := "proxmox"
  resource_type := "qemu"
  resource_id := "100"
  incarnation_fingerprint := plainFingerprint
  intent_kind := .monitoringExpectation
  desired_value := .running
  expected_record_version := 0

/-- The command with its checks. -/
def PutCommand.plain : PutCommand Python.plain where
  toProviderIntentMutationCommand := .plain
  valid := by
    have hshort : (matchesKebab "request-1" && matchesKebab "proxmox" && matchesKebab "qemu" &&
        lengthWithin 1 200 "100") = true := by
      decide
    simp only [Bool.and_eq_true] at hshort
    obtain ⟨⟨⟨hrequest, hprovider⟩, htype⟩, hresource⟩ := hshort
    have hdigest : ProviderIntentMutationCommand.plain.request_digest =
        ProviderIntentMutationCommand.plain.expectedDigest Python.plain := rfl
    rw [ProviderIntentMutationCommand.modelValidate, ← hdigest]
    simp [ProviderIntentMutationCommand.plain, require, hrequest, hprovider, htype, hresource,
      matchesVersioned_plainDigest, matchesManagementFingerprint_plainFingerprint,
      validateSupport_plain, MAX_RECORD_VERSION]

/-- A command that ends the series of the virtual machine. -/
def ProviderIntentSupersedeCommand.plain : ProviderIntentSupersedeCommand where
  request_id := "request-2"
  request_digest := plainDigest "provider-intent-supersede-v1"
  intent_id := plainDigest "provider-intent-series-v1"
  expected_record_version := 1

/-- The command with its checks. -/
def SupersedeCommand.plain : SupersedeCommand Python.plain where
  toProviderIntentSupersedeCommand := .plain
  valid := by
    have hrequest : matchesKebab "request-2" = true := by decide
    have hdigest : ProviderIntentSupersedeCommand.plain.request_digest =
        ProviderIntentSupersedeCommand.plain.expectedDigest Python.plain := rfl
    rw [ProviderIntentSupersedeCommand.modelValidate, ← hdigest]
    simp [ProviderIntentSupersedeCommand.plain, require, hrequest, matchesVersioned_plainDigest,
      MAX_RECORD_VERSION]

end AtlasOS.ProviderIntents
