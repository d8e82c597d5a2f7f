import Mathlib.Algebra.Ring.Int.Defs
import AtlasOS.Lib.Json
import AtlasOS.Lib.Rows

/-!
# Provider-intent contracts

The records, commands and results of `models/provider_intents.py` and of
`provider_intents/legacy_import.py`, with the checks that their validators make.
A command that exists has passed them, which the structures `PutCommand`,
`SupersedeCommand`, `CoordinateCommand` and `ImportCommand` carry. The JSON codec
that pydantic derives is a parameter with its round-trip laws.
-/

namespace AtlasOS.ProviderIntents

/-! ## Checks on texts -/

/-- `PROVIDER_INTENT_STORE_P2C_SCHEMA_VERSION` -/
def PROVIDER_INTENT_STORE_P2C_SCHEMA_VERSION : Int := 1

/-- `PROVIDER_INTENT_STORE_SCHEMA_VERSION` -/
def PROVIDER_INTENT_STORE_SCHEMA_VERSION : Int := 2

/-- `MAX_RECORD_VERSION` -/
def MAX_RECORD_VERSION : Int := 2 ^ 63 - 1

/-- `[a-z0-9]` -/
def isLowerAlnum (c : Char) : Bool := ('a' ≤ c && c ≤ 'z') || ('0' ≤ c && c ≤ '9')

/-- The rest of a kebab text; the flag says whether a letter or digit was just read. -/
def kebabFrom : Bool → List Char → Bool
  | after, [] => after
  | after, c :: rest =>
    if c = '-' then after && kebabFrom false rest else isLowerAlnum c && kebabFrom true rest

/-- `^[a-z0-9]+(?:-[a-z0-9]+)*$` -/
def matchesKebab (text : String) : Bool := kebabFrom false text.toList

/-- The text `version:digest` of a versioned digest. -/
def versioned (version digest : String) : String := version ++ ":" ++ digest

/-- `^version:[a-f0-9]{64}$` -/
def matchesVersioned (version text : String) : Bool :=
  (versioned version "").toList.isPrefixOf text.toList &&
    isHexDigest (String.ofList (text.toList.drop (versioned version "").length))

@[simp] theorem matchesVersioned_versioned (version digest : String) :
    matchesVersioned version (versioned version digest) = isHexDigest digest := by
  have hsplit : (versioned version digest).toList =
      (versioned version "").toList ++ digest.toList := by
    simp [versioned]
  have hlength : (versioned version "").length = (versioned version "").toList.length :=
    (String.length_toList).symm
  rw [matchesVersioned, hsplit, hlength, List.drop_left, String.ofList_toList,
    List.isPrefixOf_iff_prefix.mpr (List.prefix_append _ _), Bool.true_and]

/-- `PROVIDER_MANAGEMENT_FINGERPRINT_PATTERN` -/
def matchesManagementFingerprint : String → Bool :=
  matchesVersioned "provider-management-fingerprint-v1"

/-- Whether the length of a text is in the given range. -/
def lengthWithin (low high : ℕ) (text : String) : Bool :=
  decide (low ≤ text.length) && decide (text.length ≤ high)

/-- `^provider-intent-mutation-[a-f0-9]{32,64}$` -/
def matchesMutationRequestId (text : String) : Bool :=
  let stem := "provider-intent-mutation-".toList
  let rest := text.toList.drop stem.length
  stem.isPrefixOf text.toList && decide (32 ≤ rest.length) && decide (rest.length ≤ 64) &&
    rest.all (· ∈ "0123456789abcdef".toList)

/-- `^[a-zA-Z0-9._@-]+$` -/
def matchesOperatorId (text : String) : Bool :=
  text ≠ "" && text.toList.all fun c =>
    ('a' ≤ c && c ≤ 'z') || ('A' ≤ c && c ≤ 'Z') || ('0' ≤ c && c ≤ '9') || c ∈ "._@-".toList

/-- `^[0-9]+$` -/
def matchesDigits (text : String) : Bool :=
  text ≠ "" && text.toList.all fun c => '0' ≤ c && c ≤ '9'

/-- `_CANONICAL_VMID` -/
def matchesCanonicalVmid (text : String) : Bool :=
  matchesDigits text && text.toList.head? ≠ some '0'

/-- `value == value.strip()` -/
def isStripped (text : String) : Bool :=
  (text.toList.head?.all fun c => !isSpace c) && text.toList.getLast?.all fun c => !isSpace c

/-- The error of a field that fails its declared constraint. -/
def fieldError (field : String) : PyError := .valueError field

/-- The reading of the UTC clock with the given microseconds. -/
def utcReading (micros : Int) : Option DateTime :=
  if h : 0 ≤ micros ∧ micros.toNat < MAX_MICROS then some (.utc ⟨micros.toNat, h.2⟩) else none

/-- The UTC reading of an aware datetime, `value.astimezone(UTC)`, which is out of range in
the first and the last hours of the calendar; a naive datetime is refused. -/
def canonicalTimestamp (message : String) (value : DateTime) : Except PyError DateTime :=
  match value.offset with
  | none => .error (.valueError message)
  | some offset => expect (utcReading (value.micros.val + 86400000000 - offset.val)) .overflowError

/-- Whether a datetime is a reading of the UTC clock. -/
def IsUtc (t : DateTime) : Prop := ∃ micros, t = .utc micros

theorem utcReading_val (micros : Fin MAX_MICROS) :
    utcReading micros.val = some (.utc micros) := by
  have h : (0 : Int) ≤ micros.val ∧ (micros.val : Int).toNat < MAX_MICROS :=
    ⟨Int.natCast_nonneg _, micros.isLt⟩
  rw [utcReading, dif_pos h]
  rfl

theorem isUtc_of_canonicalTimestamp {message : String} {value t : DateTime}
    (h : canonicalTimestamp message value = .ok t) : IsUtc t := by
  unfold canonicalTimestamp at h
  split at h
  · cases h
  · rw [expect_eq_ok] at h
    unfold utcReading at h
    split at h
    · cases h
      exact ⟨_, rfl⟩
    · cases h

/-- A UTC reading is its own canonical form. -/
theorem IsUtc.canonicalTimestamp {t : DateTime} (h : IsUtc t) (message : String) :
    canonicalTimestamp message t = .ok t := by
  obtain ⟨micros, rfl⟩ := h
  change expect (utcReading ((micros.val : Int) + 86400000000 - 86400000000)) .overflowError =
    Except.ok (DateTime.utc micros)
  have hmicros : (micros.val : Int) + 86400000000 - 86400000000 = micros.val := by omega
  rw [hmicros, utcReading_val, expect_some]

/-! ## Vocabulary -/

/-- `ProviderIntentKind` -/
inductive ProviderIntentKind where
  | monitoringExpectation
  deriving DecidableEq

instance : StrEnum ProviderIntentKind where
  value
    | .monitoringExpectation => "monitoring_expectation"
  members := [.monitoringExpectation]
  find_value s := by cases s; simp

/-- `ProviderIntentLifecycle` -/
inductive ProviderIntentLifecycle where
  | active | superseded | legacyUnbound
  deriving DecidableEq

instance : StrEnum ProviderIntentLifecycle where
  value
    | .active => "active"
    | .superseded => "superseded"
    | .legacyUnbound => "legacy_unbound"
  members := [.active, .superseded, .legacyUnbound]
  find_value s := by cases s <;> simp

/-- `ProviderIntentProvenance` -/
inductive ProviderIntentProvenance where
  | legacyPolicyImport | operator
  deriving DecidableEq

/-- `ProviderIntentAuditEventKind` -/
inductive ProviderIntentAuditEventKind where
  | created | updated | superseded | rebound
  deriving DecidableEq

instance : StrEnum ProviderIntentAuditEventKind where
  value
    | .created => "created"
    | .updated => "updated"
    | .superseded => "superseded"
    | .rebound => "rebound"
  members := [.created, .updated, .superseded, .rebound]
  find_value s := by cases s <;> simp

/-- `ProviderMonitoringExpectation`, which is `ProviderIntentValue`. -/
inductive ProviderIntentValue where
  | running | stopped | ignored
  deriving DecidableEq

instance : StrEnum ProviderIntentValue where
  value
    | .running => "running"
    | .stopped => "stopped"
    | .ignored => "ignored"
  members := [.running, .stopped, .ignored]
  find_value s := by cases s <;> simp

/-! ## Digests -/

/-- `_canonical_digest`, of an object with its keys in order. -/
def canonicalDigest (py : Python) (version : String) (payload : List (String × Json)) : String :=
  versioned version (py.sha256 (py.dumps (.obj payload)))

@[simp] theorem matchesVersioned_canonicalDigest (py : Python) (version : String)
    (payload : List (String × Json)) :
    matchesVersioned version (canonicalDigest py version payload) = true := by
  simp [canonicalDigest]

/-- `build_provider_intent_id` -/
def buildProviderIntentId (py : Python) (provider_id : String) (resource_type : Option String)
    (resource_id : String) (incarnation_fingerprint : Option String)
    (intent_kind : ProviderIntentKind) : String :=
  canonicalDigest py "provider-intent-series-v1"
    [("incarnation_fingerprint", Json.ofOption incarnation_fingerprint),
     ("intent_kind", .str (StrEnum.value intent_kind)),
     ("provider_id", .str provider_id),
     ("resource_id", .str resource_id),
     ("resource_type", Json.ofOption resource_type),
     ("version", .str "provider-intent-series-v1")]

/-! ## Resource support -/

/-- The part of `ProviderResourceManagementSupport` that the intent contracts read. -/
structure ProviderResourceManagementSupport where
  provider_id : String
  resource_type : String
  authoritative_identity_supported : Bool
  provider_intent_capability_supported : Bool

/-- `provider_resource_management_registry` -/
def providerResourceManagementRegistry : List ProviderResourceManagementSupport :=
  [{ provider_id := "proxmox", resource_type := "lxc"
     authoritative_identity_supported := false, provider_intent_capability_supported := false },
   { provider_id := "proxmox", resource_type := "qemu"
     authoritative_identity_supported := true, provider_intent_capability_supported := true }]

/-- The check that the contracts make on the support of a resource type. -/
def validateSupport (provider_id resource_type : String) : Except PyError Unit :=
  match providerResourceManagementRegistry.find? fun support =>
      support.provider_id == provider_id && support.resource_type == resource_type with
  | none => .error (.valueError "provider intent resource support is unavailable")
  | some support =>
    require (support.authoritative_identity_supported &&
        support.provider_intent_capability_supported)
      (.valueError "resource type does not support identity-bound intent")

/-- Only the virtual machines of Proxmox support identity-bound intents. -/
theorem validateSupport_eq_ok {provider_id resource_type : String} :
    validateSupport provider_id resource_type = .ok () ↔
      provider_id = "proxmox" ∧ resource_type = "qemu" := by
  by_cases hprovider : provider_id = "proxmox"
  · subst hprovider
    by_cases hlxc : resource_type = "lxc"
    · subst hlxc
      simp [validateSupport, providerResourceManagementRegistry, require]
    · by_cases hqemu : resource_type = "qemu"
      · subst hqemu
        simp [validateSupport, providerResourceManagementRegistry, require]
      · simp [validateSupport, providerResourceManagementRegistry, hqemu, Ne.symm hqemu,
          Ne.symm hlxc]
  · simp [validateSupport, providerResourceManagementRegistry, hprovider, Ne.symm hprovider]

/-! ## Records -/

/-- `ProviderIntentRecord` -/
structure ProviderIntentRecord where
  schema_version : Int := 1
  intent_id : String
  record_version : Int
  provider_id : String
  resource_type : Option String
  resource_id : String
  incarnation_fingerprint : Option String
  intent_kind : ProviderIntentKind
  intent_value : ProviderIntentValue
  lifecycle : ProviderIntentLifecycle
  provenance : ProviderIntentProvenance
  source_reference : Option String := none
  created_at : DateTime
  updated_at : DateTime
  previous_record_version : Option Int := none
  deriving DecidableEq

namespace ProviderIntentRecord

/-- The series identity that the fields of a record have. -/
def seriesId (py : Python) (r : ProviderIntentRecord) : String :=
  buildProviderIntentId py r.provider_id r.resource_type r.resource_id r.incarnation_fingerprint
    r.intent_kind

/-- The constraints declared on the fields, and `exact_text`. -/
def validateFields (r : ProviderIntentRecord) : Except PyError Unit := do
  require (decide (r.schema_version = 1)) (fieldError "schema_version")
  require (matchesVersioned "provider-intent-series-v1" r.intent_id) (fieldError "intent_id")
  require (decide (1 ≤ r.record_version) && decide (r.record_version ≤ MAX_RECORD_VERSION))
    (fieldError "record_version")
  require (matchesKebab r.provider_id) (fieldError "provider_id")
  require (r.resource_type.all matchesKebab) (fieldError "resource_type")
  require (lengthWithin 1 200 r.resource_id) (fieldError "resource_id")
  require (r.incarnation_fingerprint.all matchesManagementFingerprint)
    (fieldError "incarnation_fingerprint")
  require (r.source_reference.all (lengthWithin 1 200)) (fieldError "source_reference")
  require (r.previous_record_version.all fun v => decide (1 ≤ v) && decide (v ≤ MAX_RECORD_VERSION))
    (fieldError "previous_record_version")
  require (isStripped r.resource_id && r.source_reference.all isStripped)
    (.valueError "provider intent text fields must be exact")

/-- The part of `validate_record` about the lifecycle. -/
def validateLifecycle (r : ProviderIntentRecord) : Except PyError Unit :=
  if r.lifecycle = .legacyUnbound then do
    require (r.resource_type.isNone && r.incarnation_fingerprint.isNone)
      (.valueError "legacy-unbound intent cannot claim resource type or incarnation")
    require (decide (r.provenance = .legacyPolicyImport))
      (.valueError "legacy-unbound intent requires legacy provenance")
  else
    match r.resource_type, r.incarnation_fingerprint with
    | some resource_type, some _ => validateSupport r.provider_id resource_type
    | _, _ => .error (.valueError "identity-bound intent requires resource type and fingerprint")

/-- `validate_record` -/
def validateRecord (py : Python) (r : ProviderIntentRecord) : Except PyError Unit := do
  require (decide (r.created_at.instant ≤ r.updated_at.instant))
    (.valueError "provider intent updated_at precedes created_at")
  require (decide (r.previous_record_version =
      if r.record_version = 1 then none else some (r.record_version - 1)))
    (.valueError "provider intent version chain is invalid")
  r.validateLifecycle
  require (decide (r.intent_id = r.seriesId py))
    (.valueError "provider intent series identity is invalid")

/-- The message of `canonical_timestamp`. -/
def timestampMessage : String := "provider intent timestamps must be timezone-aware"

/-- A record with its timestamps replaced. -/
def withTimestamps (r : ProviderIntentRecord) (created_at updated_at : DateTime) :
    ProviderIntentRecord :=
  { r with created_at, updated_at }

/-- `ProviderIntentRecord.model_validate` of the fields of a record. -/
def modelValidate (py : Python) (r : ProviderIntentRecord) :
    Except PyError ProviderIntentRecord := do
  r.validateFields
  let created_at ← canonicalTimestamp timestampMessage r.created_at
  let updated_at ← canonicalTimestamp timestampMessage r.updated_at
  (r.withTimestamps created_at updated_at).validateRecord py
  return r.withTimestamps created_at updated_at

/-- A record that passed its validators. -/
structure Valid (py : Python) (r : ProviderIntentRecord) : Prop where
  fields : r.validateFields = .ok ()
  created : IsUtc r.created_at
  updated : IsUtc r.updated_at
  record : r.validateRecord py = .ok ()

/-- What a validated record keeps. -/
theorem modelValidate_eq_ok {py : Python} {r r' : ProviderIntentRecord}
    (h : r.modelValidate py = .ok r') :
    r'.Valid py ∧ ∃ created_at updated_at, r' = r.withTimestamps created_at updated_at := by
  unfold modelValidate at h
  obtain ⟨hfields, h⟩ := check_bind_eq_ok.mp h
  obtain ⟨created, hcreated, h⟩ := bind_eq_ok.mp h
  obtain ⟨updated, hupdated, h⟩ := bind_eq_ok.mp h
  obtain ⟨hrecord, h⟩ := check_bind_eq_ok.mp h
  rw [pure_eq_ok, Except.ok.injEq] at h
  subst h
  exact ⟨⟨hfields, isUtc_of_canonicalTimestamp hcreated, isUtc_of_canonicalTimestamp hupdated,
    hrecord⟩, _, _, rfl⟩

namespace Valid

variable {py : Python} {r : ProviderIntentRecord}

/-- A validated record passes its validators again, unchanged. -/
theorem modelValidate (h : r.Valid py) : r.modelValidate py = .ok r := by
  unfold ProviderIntentRecord.modelValidate
  rw [h.fields, ok_bind, h.created.canonicalTimestamp, ok_bind, h.updated.canonicalTimestamp,
    ok_bind]
  change (r.validateRecord py >>= fun _ => pure r) = .ok r
  rw [h.record, ok_bind, pure_eq_ok]

theorem lifecycle_ok (h : r.Valid py) : r.validateLifecycle = .ok () := by
  have hrecord := h.record
  simp only [validateRecord, check_bind_eq_ok] at hrecord
  exact hrecord.2.2.1

theorem intent_id (h : r.Valid py) : r.intent_id = r.seriesId py := by
  have hrecord := h.record
  simp only [validateRecord, check_bind_eq_ok, require_eq_ok, decide_eq_true_eq] at hrecord
  exact hrecord.2.2.2

theorem schema_version (h : r.Valid py) : r.schema_version = 1 := by
  have hfields := h.fields
  simp only [validateFields, require_bind_eq_ok, decide_eq_true_eq] at hfields
  exact hfields.1

theorem version (h : r.Valid py) : 1 ≤ r.record_version ∧ r.record_version ≤ MAX_RECORD_VERSION := by
  have hfields := h.fields
  simp only [validateFields, require_bind_eq_ok, Bool.and_eq_true, decide_eq_true_eq] at hfields
  exact hfields.2.2.1

theorem provider (h : r.Valid py) : matchesKebab r.provider_id = true := by
  have hfields := h.fields
  simp only [validateFields, require_bind_eq_ok] at hfields
  exact hfields.2.2.2.1

theorem intentIdPattern (h : r.Valid py) :
    matchesVersioned "provider-intent-series-v1" r.intent_id = true := by
  have hfields := h.fields
  simp only [validateFields, require_bind_eq_ok] at hfields
  exact hfields.2.1

theorem resource_id (h : r.Valid py) : lengthWithin 1 200 r.resource_id = true := by
  have hfields := h.fields
  simp only [validateFields, require_bind_eq_ok] at hfields
  exact hfields.2.2.2.2.2.1

theorem fingerprint (h : r.Valid py) :
    r.incarnation_fingerprint.all matchesManagementFingerprint = true := by
  have hfields := h.fields
  simp only [validateFields, require_bind_eq_ok] at hfields
  exact hfields.2.2.2.2.2.2.1

/-- A record that is not legacy evidence is bound to an incarnation of a virtual machine. -/
theorem bound (h : r.Valid py) (hlifecycle : r.lifecycle ≠ .legacyUnbound) :
    r.provider_id = "proxmox" ∧ r.resource_type = some "qemu" ∧
      ∃ fingerprint, r.incarnation_fingerprint = some fingerprint := by
  have hok := h.lifecycle_ok
  rw [validateLifecycle, if_neg hlifecycle] at hok
  split at hok
  · next resource_type fingerprint htype hfingerprint =>
    obtain ⟨hprovider, rfl⟩ := validateSupport_eq_ok.mp hok
    exact ⟨hprovider, htype, fingerprint, hfingerprint⟩
  · cases hok

/-- Legacy evidence claims no incarnation. -/
theorem unbound (h : r.Valid py) (hlifecycle : r.lifecycle = .legacyUnbound) :
    r.resource_type = none ∧ r.incarnation_fingerprint = none := by
  have hok := h.lifecycle_ok
  rw [validateLifecycle, if_pos hlifecycle] at hok
  simpa using (require_bind_eq_ok.mp hok).1

end Valid

end ProviderIntentRecord

/-! ## Commands -/

/-- `ProviderIntentMutationCommand` -/
structure ProviderIntentMutationCommand where
  request_id : String
  request_digest : String
  provider_id : String
  resource_type : String
  resource_id : String
  incarnation_fingerprint : String
  intent_kind : ProviderIntentKind
  desired_value : ProviderIntentValue
  expected_record_version : Int
  provenance : ProviderIntentProvenance := .operator
  deriving DecidableEq

namespace ProviderIntentMutationCommand

/-- `intent_id` -/
def intent_id (py : Python) (c : ProviderIntentMutationCommand) : String :=
  buildProviderIntentId py c.provider_id (some c.resource_type) c.resource_id
    (some c.incarnation_fingerprint) c.intent_kind

/-- `build_provider_intent_request_digest` -/
def expectedDigest (py : Python) (c : ProviderIntentMutationCommand) : String :=
  canonicalDigest py "provider-intent-request-v1"
    [("desired_value", .str (StrEnum.value c.desired_value)),
     ("expected_record_version", .int c.expected_record_version),
     ("incarnation_fingerprint", .str c.incarnation_fingerprint),
     ("intent_kind", .str (StrEnum.value c.intent_kind)),
     ("provider_id", .str c.provider_id),
     ("request_id", .str c.request_id),
     ("resource_id", .str c.resource_id),
     ("resource_type", .str c.resource_type),
     ("version", .str "provider-intent-request-v1")]

/-- The constraints on the fields, and `validate_command`. -/
def modelValidate (py : Python) (c : ProviderIntentMutationCommand) : Except PyError Unit := do
  require (matchesKebab c.request_id) (fieldError "request_id")
  require (matchesVersioned "provider-intent-request-v1" c.request_digest)
    (fieldError "request_digest")
  require (matchesKebab c.provider_id) (fieldError "provider_id")
  require (matchesKebab c.resource_type) (fieldError "resource_type")
  require (lengthWithin 1 200 c.resource_id) (fieldError "resource_id")
  require (matchesManagementFingerprint c.incarnation_fingerprint)
    (fieldError "incarnation_fingerprint")
  require (decide (0 ≤ c.expected_record_version) &&
      decide (c.expected_record_version ≤ MAX_RECORD_VERSION))
    (fieldError "expected_record_version")
  require (decide (c.provenance = .operator)) (fieldError "provenance")
  validateSupport c.provider_id c.resource_type
  require (decide (c.request_digest = c.expectedDigest py))
    (.valueError "provider intent request digest is invalid")

end ProviderIntentMutationCommand

/-- A command for `put`. -/
structure PutCommand (py : Python) extends ProviderIntentMutationCommand where
  valid : toProviderIntentMutationCommand.modelValidate py = .ok ()

/-- `ProviderIntentSupersedeCommand` -/
structure ProviderIntentSupersedeCommand where
  request_id : String
  request_digest : String
  intent_id : String
  expected_record_version : Int
  deriving DecidableEq

namespace ProviderIntentSupersedeCommand

/-- `build_provider_intent_supersede_digest` -/
def expectedDigest (py : Python) (c : ProviderIntentSupersedeCommand) : String :=
  canonicalDigest py "provider-intent-supersede-v1"
    [("expected_record_version", .int c.expected_record_version),
     ("intent_id", .str c.intent_id),
     ("request_id", .str c.request_id),
     ("version", .str "provider-intent-supersede-v1")]

/-- The constraints on the fields, and `validate_digest`. -/
def modelValidate (py : Python) (c : ProviderIntentSupersedeCommand) : Except PyError Unit := do
  require (matchesKebab c.request_id) (fieldError "request_id")
  require (matchesVersioned "provider-intent-supersede-v1" c.request_digest)
    (fieldError "request_digest")
  require (matchesVersioned "provider-intent-series-v1" c.intent_id) (fieldError "intent_id")
  require (decide (1 ≤ c.expected_record_version) &&
      decide (c.expected_record_version ≤ MAX_RECORD_VERSION))
    (fieldError "expected_record_version")
  require (decide (c.request_digest = c.expectedDigest py))
    (.valueError "provider intent supersede digest is invalid")

end ProviderIntentSupersedeCommand

/-- A command for `supersede`. -/
structure SupersedeCommand (py : Python) extends ProviderIntentSupersedeCommand where
  valid : toProviderIntentSupersedeCommand.modelValidate py = .ok ()

/-- `ProviderIntentCoordinateMutationCommand` -/
structure ProviderIntentCoordinateMutationCommand where
  operator_id : String
  request_id : String
  provider_id : String
  resource_type : String
  resource_id : String
  management_fingerprint : String
  intent_kind : ProviderIntentKind := .monitoringExpectation
  desired_value : ProviderIntentValue
  expected_record_version : Int
  acknowledge_monitoring_suppression : Bool := false
  deriving DecidableEq

namespace ProviderIntentCoordinateMutationCommand

/-- `request_digest` -/
def request_digest (py : Python) (c : ProviderIntentCoordinateMutationCommand) : String :=
  canonicalDigest py "provider-intent-coordinate-mutation-v1"
    [("acknowledge_monitoring_suppression", .bool c.acknowledge_monitoring_suppression),
     ("desired_value", .str (StrEnum.value c.desired_value)),
     ("expected_record_version", .int c.expected_record_version),
     ("intent_kind", .str (StrEnum.value c.intent_kind)),
     ("management_fingerprint", .str c.management_fingerprint),
     ("operator_id", .str c.operator_id),
     ("provider_id", .str c.provider_id),
     ("request_id", .str c.request_id),
     ("resource_id", .str c.resource_id),
     ("resource_type", .str c.resource_type),
     ("version", .str "provider-intent-coordinate-mutation-v1")]

/-- `intent_id` -/
def intent_id (py : Python) (c : ProviderIntentCoordinateMutationCommand) : String :=
  buildProviderIntentId py c.provider_id (some c.resource_type) c.resource_id
    (some c.management_fingerprint) c.intent_kind

/-- The constraints on the fields, and `validate_suppression_acknowledgement`. -/
def modelValidate (c : ProviderIntentCoordinateMutationCommand) : Except PyError Unit := do
  require (lengthWithin 1 200 c.operator_id && matchesOperatorId c.operator_id)
    (fieldError "operator_id")
  require (lengthWithin 57 90 c.request_id && matchesMutationRequestId c.request_id)
    (fieldError "request_id")
  require (decide (c.provider_id = "proxmox")) (fieldError "provider_id")
  require (decide (c.resource_type = "qemu")) (fieldError "resource_type")
  require (lengthWithin 0 20 c.resource_id && matchesDigits c.resource_id)
    (fieldError "resource_id")
  require (matchesManagementFingerprint c.management_fingerprint)
    (fieldError "management_fingerprint")
  require (decide (0 ≤ c.expected_record_version) &&
      decide (c.expected_record_version ≤ MAX_RECORD_VERSION))
    (fieldError "expected_record_version")
  require (decide (c.desired_value = .ignored) == c.acknowledge_monitoring_suppression)
    (.valueError "monitoring suppression acknowledgement contradicts expectation")

end ProviderIntentCoordinateMutationCommand

/-- A command for `mutate_coordinate`. -/
structure CoordinateCommand extends ProviderIntentCoordinateMutationCommand where
  valid : toProviderIntentCoordinateMutationCommand.modelValidate = .ok ()

namespace CoordinateCommand

variable (c : CoordinateCommand)

theorem operator : lengthWithin 1 200 c.operator_id = true ∧
    matchesOperatorId c.operator_id = true := by
  have hvalid := c.valid
  simp only [ProviderIntentCoordinateMutationCommand.modelValidate, require_bind_eq_ok,
    Bool.and_eq_true] at hvalid
  exact hvalid.1

theorem request : lengthWithin 57 90 c.request_id = true := by
  have hvalid := c.valid
  simp only [ProviderIntentCoordinateMutationCommand.modelValidate, require_bind_eq_ok,
    Bool.and_eq_true] at hvalid
  exact hvalid.2.1.1

end CoordinateCommand

/-- `LegacyPolicyImportEntry` -/
structure LegacyPolicyImportEntry where
  provider_id : String := "proxmox"
  resource_id : String
  intent_kind : ProviderIntentKind := .monitoringExpectation
  intent_value : ProviderIntentValue
  source_reference : String
  deriving DecidableEq

namespace LegacyPolicyImportEntry

/-- `entry.model_dump(mode="json")`, with the keys in order. -/
def modelDump (e : LegacyPolicyImportEntry) : Json :=
  .obj
    [("intent_kind", .str (StrEnum.value e.intent_kind)),
     ("intent_value", .str (StrEnum.value e.intent_value)),
     ("provider_id", .str e.provider_id),
     ("resource_id", .str e.resource_id),
     ("source_reference", .str e.source_reference)]

/-- The constraints on the fields, and `validate_entry`. -/
def modelValidate (e : LegacyPolicyImportEntry) : Except PyError Unit := do
  require (decide (e.provider_id = "proxmox")) (fieldError "provider_id")
  require (lengthWithin 1 200 e.resource_id) (fieldError "resource_id")
  require (matchesVersioned "provider-intent-legacy-policy-source-reference-v1"
    e.source_reference) (fieldError "source_reference")
  require (matchesCanonicalVmid e.resource_id)
    (.valueError "legacy Proxmox VMID must be a canonical positive integer")

/-- The identity of the series that the entry is imported into. -/
def intent_id (py : Python) (e : LegacyPolicyImportEntry) : String :=
  buildProviderIntentId py e.provider_id none e.resource_id none e.intent_kind

end LegacyPolicyImportEntry

/-- `LegacyPolicyImportCommand` -/
structure LegacyPolicyImportCommand where
  import_id : String
  import_digest : String
  source_policy_digest : String
  entries : List LegacyPolicyImportEntry
  deriving DecidableEq

namespace LegacyPolicyImportCommand

/-- `int(text)`, of decimal digits. -/
def vmid (text : String) : ℕ := text.toNat?.getD 0

/-- The payload that the identity and the digest of an import cover. -/
def payload (c : LegacyPolicyImportCommand) : List (String × Json) :=
  [("entries", .arr (c.entries.map (·.modelDump))),
   ("source_policy_digest", .str c.source_policy_digest),
   ("version", .str "provider-intent-legacy-policy-import-v1")]

/-- The constraints on the fields, and `validate_command`. -/
def modelValidate (py : Python) (c : LegacyPolicyImportCommand) : Except PyError Unit := do
  require (matchesVersioned "provider-intent-legacy-policy-import-v1" c.import_id)
    (fieldError "import_id")
  require (matchesVersioned "provider-intent-legacy-policy-import-request-v1" c.import_digest)
    (fieldError "import_digest")
  require (matchesVersioned "atlas-policy-source-v1" c.source_policy_digest)
    (fieldError "source_policy_digest")
  c.entries.forM (·.modelValidate)
  require (decide (c.entries.map (·.resource_id) =
      Rows.orderBy vmid (c.entries.map (·.resource_id))))
    (.valueError "legacy import entries must be deterministically sorted")
  require (decide (c.entries.map (·.resource_id)).Nodup)
    (.valueError "legacy import entries contain duplicate VMIDs")
  require (decide (c.import_id =
        canonicalDigest py "provider-intent-legacy-policy-import-v1" c.payload) &&
      decide (c.import_digest =
        canonicalDigest py "provider-intent-legacy-policy-import-request-v1" c.payload))
    (.valueError "legacy import identity or digest is invalid")

end LegacyPolicyImportCommand

/-- A command for `import_legacy_policy`. -/
structure ImportCommand (py : Python) extends LegacyPolicyImportCommand where
  valid : toLegacyPolicyImportCommand.modelValidate py = .ok ()

theorem ImportCommand.digest {py : Python} (c : ImportCommand py) :
    matchesVersioned "provider-intent-legacy-policy-import-request-v1" c.import_digest = true := by
  have hvalid := c.valid
  simp only [LegacyPolicyImportCommand.modelValidate, require_bind_eq_ok] at hvalid
  exact hvalid.2.1

/-! ## Results -/

/-- The outcome of `ProviderIntentMutationResult`. -/
inductive MutationOutcome where
  | created | updated | superseded
  deriving DecidableEq

/-- The audit event of an outcome, which has the same text. -/
def MutationOutcome.event : MutationOutcome → ProviderIntentAuditEventKind
  | created => .created
  | updated => .updated
  | superseded => .superseded

/-- `ProviderIntentMutationResult` -/
structure ProviderIntentMutationResult where
  outcome : MutationOutcome
  record : ProviderIntentRecord
  deriving DecidableEq

/-- The outcome of `ProviderIntentCoordinateMutationResult`. -/
inductive CoordinateOutcome where
  | created | updated | rebound
  deriving DecidableEq

/-- `ProviderIntentCoordinateMutationResult` -/
structure ProviderIntentCoordinateMutationResult where
  outcome : CoordinateOutcome
  request_id : String
  provider_id : String
  resource_type : String
  resource_id : String
  management_fingerprint : String
  expectation : ProviderIntentValue
  record_version : Int
  superseded_previous_incarnation : Bool
  deriving DecidableEq

namespace ProviderIntentCoordinateMutationResult

/-- The constraints on the fields, and `validate_outcome`. -/
def modelValidate (r : ProviderIntentCoordinateMutationResult) : Except PyError Unit := do
  require (lengthWithin 57 90 r.request_id && matchesMutationRequestId r.request_id)
    (fieldError "request_id")
  require (decide (r.provider_id = "proxmox")) (fieldError "provider_id")
  require (decide (r.resource_type = "qemu")) (fieldError "resource_type")
  require (lengthWithin 0 20 r.resource_id && matchesDigits r.resource_id)
    (fieldError "resource_id")
  require (matchesManagementFingerprint r.management_fingerprint)
    (fieldError "management_fingerprint")
  require (decide (1 ≤ r.record_version) && decide (r.record_version ≤ MAX_RECORD_VERSION))
    (fieldError "record_version")
  require (r.superseded_previous_incarnation == decide (r.outcome = .rebound))
    (.valueError "mutation outcome and supersession flag contradict")
  require (decide (r.outcome = .updated) || decide (r.record_version = 1))
    (.valueError "new incarnation mutation must create version one")

end ProviderIntentCoordinateMutationResult

/-- `LegacyPolicyImportResult` -/
structure LegacyPolicyImportResult where
  outcome : String
  import_id : String
  source_policy_digest : String
  record_count : Int
  records_digest : String
  deriving DecidableEq

/-- The constraints on the fields of `LegacyPolicyImportResult`. -/
def LegacyPolicyImportResult.modelValidate (r : LegacyPolicyImportResult) :
    Except PyError Unit := do
  require (decide (r.outcome = "imported")) (fieldError "outcome")
  require (decide (0 ≤ r.record_count)) (fieldError "record_count")
  require (matchesVersioned "provider-intent-legacy-policy-records-v1" r.records_digest)
    (fieldError "records_digest")

/-- `ProviderIntentDomainAuditEvent` -/
structure ProviderIntentDomainAuditEvent where
  sequence : Int
  event_id : String
  occurred_at : DateTime
  operation_id : String
  request_id : String
  operator_id : String
  intent_id : String
  record_version : Int
  event : ProviderIntentAuditEventKind
  lifecycle : ProviderIntentLifecycle
  resulting_value : ProviderIntentValue
  deriving DecidableEq

/-- The constraints on the fields, `canonical_audit_time` and `validate_event_lifecycle`. -/
def ProviderIntentDomainAuditEvent.modelValidate (e : ProviderIntentDomainAuditEvent) :
    Except PyError ProviderIntentDomainAuditEvent := do
  require (decide (1 ≤ e.sequence)) (fieldError "sequence")
  require (matchesVersioned "provider-intent-audit-v1" e.event_id) (fieldError "event_id")
  require (lengthWithin 1 200 e.operation_id) (fieldError "operation_id")
  require (lengthWithin 1 200 e.request_id) (fieldError "request_id")
  require (lengthWithin 1 200 e.operator_id && matchesOperatorId e.operator_id)
    (fieldError "operator_id")
  require (matchesVersioned "provider-intent-series-v1" e.intent_id) (fieldError "intent_id")
  require (decide (1 ≤ e.record_version) && decide (e.record_version ≤ MAX_RECORD_VERSION))
    (fieldError "record_version")
  let occurred_at ← canonicalTimestamp "provider intent audit timestamp must be timezone-aware"
    e.occurred_at
  require (decide (e.event = .superseded) == decide (e.lifecycle = .superseded))
    (.valueError "provider intent audit event and lifecycle contradict")
  return { e with occurred_at }

/-! ## JSON -/

/-- The JSON text that pydantic writes for the records, and the fields that it reads from a
text before the validators run. -/
structure Pydantic where
  /-- `ProviderIntentRecord.model_dump_json` -/
  dumpRecord : ProviderIntentRecord → String
  /-- The fields in the text of a record. -/
  loadRecord : String → Except PyError ProviderIntentRecord
  /-- `ProviderIntentMutationResult.model_dump_json` -/
  dumpResult : ProviderIntentMutationResult → String
  /-- The fields in the text of a result. -/
  loadResult : String → Except PyError ProviderIntentMutationResult
  /-- `ProviderIntentCoordinateMutationResult.model_dump_json` -/
  dumpCoordinateResult : ProviderIntentCoordinateMutationResult → String
  /-- The fields in the text of a coordinate result. -/
  loadCoordinateResult : String → Except PyError ProviderIntentCoordinateMutationResult
  /-- `LegacyPolicyImportResult.model_dump_json` -/
  dumpImportResult : LegacyPolicyImportResult → String
  /-- The fields in the text of an import result. -/
  loadImportResult : String → Except PyError LegacyPolicyImportResult
  /-- A record with UTC timestamps is read back. -/
  load_dumpRecord : ∀ r, IsUtc r.created_at → IsUtc r.updated_at → loadRecord (dumpRecord r) = .ok r
  /-- A result whose record has UTC timestamps is read back. -/
  load_dumpResult : ∀ r, IsUtc r.record.created_at → IsUtc r.record.updated_at →
    loadResult (dumpResult r) = .ok r
  /-- A coordinate result is read back. -/
  load_dumpCoordinateResult : ∀ r, loadCoordinateResult (dumpCoordinateResult r) = .ok r
  /-- An import result is read back. -/
  load_dumpImportResult : ∀ r, loadImportResult (dumpImportResult r) = .ok r

namespace Pydantic

variable (pd : Pydantic)

/-- `ProviderIntentRecord.model_validate_json` -/
def validateRecordJson (py : Python) (text : String) : Except PyError ProviderIntentRecord := do
  let r ← pd.loadRecord text
  r.modelValidate py

/-- `ProviderIntentMutationResult.model_validate_json` -/
def validateResultJson (py : Python) (text : String) :
    Except PyError ProviderIntentMutationResult := do
  let r ← pd.loadResult text
  let record ← r.record.modelValidate py
  return { r with record }

/-- `ProviderIntentCoordinateMutationResult.model_validate_json` -/
def validateCoordinateResultJson (text : String) :
    Except PyError ProviderIntentCoordinateMutationResult := do
  let r ← pd.loadCoordinateResult text
  r.modelValidate
  return r

/-- `LegacyPolicyImportResult.model_validate_json` -/
def validateImportResultJson (text : String) : Except PyError LegacyPolicyImportResult := do
  let r ← pd.loadImportResult text
  r.modelValidate
  return r

variable {pd}

/-- A record that was read is valid. -/
theorem valid_of_validateRecordJson {py : Python} {text : String} {r : ProviderIntentRecord}
    (h : pd.validateRecordJson py text = .ok r) : r.Valid py := by
  obtain ⟨raw, -, hvalidate⟩ := bind_eq_ok.mp h
  exact (ProviderIntentRecord.modelValidate_eq_ok hvalidate).1

/-- A valid record is read back. -/
theorem validateRecordJson_dump {py : Python} {r : ProviderIntentRecord} (h : r.Valid py) :
    pd.validateRecordJson py (pd.dumpRecord r) = .ok r := by
  rw [validateRecordJson, pd.load_dumpRecord r h.created h.updated, ok_bind, h.modelValidate]

/-- The result about a valid record is read back. -/
theorem validateResultJson_dump {py : Python} {r : ProviderIntentMutationResult}
    (h : r.record.Valid py) : pd.validateResultJson py (pd.dumpResult r) = .ok r := by
  rw [validateResultJson, pd.load_dumpResult r h.created h.updated, ok_bind, h.modelValidate,
    ok_bind, pure_eq_ok]

theorem validateCoordinateResultJson_dump {r : ProviderIntentCoordinateMutationResult}
    (h : r.modelValidate = .ok ()) :
    pd.validateCoordinateResultJson (pd.dumpCoordinateResult r) = .ok r := by
  rw [validateCoordinateResultJson, pd.load_dumpCoordinateResult, ok_bind, h, ok_bind, pure_eq_ok]

theorem validateImportResultJson_dump {r : LegacyPolicyImportResult}
    (h : r.modelValidate = .ok ()) :
    pd.validateImportResultJson (pd.dumpImportResult r) = .ok r := by
  rw [validateImportResultJson, pd.load_dumpImportResult, ok_bind, h, ok_bind, pure_eq_ok]

end Pydantic

end AtlasOS.ProviderIntents
