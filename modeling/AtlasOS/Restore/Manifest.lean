import AtlasOS.Lib.FileSystem
import AtlasOS.Lib.Json

/-!
# The manifest of a complete backup

A version 3 backup lists every managed path of the Core data directory exactly
once, with what a restore has to do about it: install an artifact or leave the
path absent. The values are built by functions that check them, so that an
inventory entry or a manifest that exists is a valid one.
-/

namespace AtlasOS.Restore

/-- `V3_SCHEMA` -/
def V3_SCHEMA : String := "atlas-core-data-backup-v3"

/-- `V3_FORMAT_VERSION` -/
def V3_FORMAT_VERSION : ℕ := 3

/-- `BACKUP_DIRECTORY_MODE` -/
def BACKUP_DIRECTORY_MODE : ℕ := 0o700

/-- `PRIVATE_FILE_MODE` -/
def PRIVATE_FILE_MODE : Fin 0o1000 := 0o600

/-- The files of the Core data directory that a backup manages. -/
inductive ManagedPath where
  | actionHistory | providerIntelligence | operationalDispatch | operatorIntents | policies
  | providerConnections | providerSecrets | operatorSecurityAudit | operatorSessions
  | providerIntents
  deriving DecidableEq

instance : StrEnum ManagedPath where
  value
    | .actionHistory => "action_history.db"
    | .providerIntelligence => "provider_intelligence.db"
    | .operationalDispatch => "operational_dispatch.db"
    | .operatorIntents => "operator_intents.db"
    | .policies => "config/policies.yaml"
    | .providerConnections => "config/provider-connections.yaml"
    | .providerSecrets => "secrets/provider-connections.yaml"
    | .operatorSecurityAudit => "operator_security_audit.db"
    | .operatorSessions => "operator_sessions.db"
    | .providerIntents => "provider_intents.db"
  members := [.actionHistory, .providerIntelligence, .operationalDispatch, .operatorIntents,
    .policies, .providerConnections, .providerSecrets, .operatorSecurityAudit, .operatorSessions,
    .providerIntents]
  find_value a := find?_text (by simp) (by cases a <;> decide)

/-- `MANAGED_PATH_ORDER` -/
def MANAGED_PATH_ORDER : List ManagedPath := StrEnum.members

/-- What a managed file is to the Core. -/
inductive InventoryRole where
  | authority | safetyLedger | audit | history | derivedHistory | ephemeralSecurity
  | preActivation
  deriving DecidableEq

instance : StrEnum InventoryRole where
  value
    | .authority => "authority"
    | .safetyLedger => "safety_ledger"
    | .audit => "audit"
    | .history => "history"
    | .derivedHistory => "derived_history"
    | .ephemeralSecurity => "ephemeral_security"
    | .preActivation => "pre_activation"
  members := [.authority, .safetyLedger, .audit, .history, .derivedHistory, .ephemeralSecurity,
    .preActivation]
  find_value a := find?_text (by simp) (by cases a <;> decide)

/-- The format of a managed file. -/
inductive ContentKind where
  | sqlite | yaml
  deriving DecidableEq

instance : StrEnum ContentKind where
  value
    | .sqlite => "sqlite"
    | .yaml => "yaml"
  members := [.sqlite, .yaml]
  find_value a := find?_text (by simp) (by cases a <;> decide)

/-- What the backup holds of a managed file. -/
inductive InventoryDisposition where
  | requiredPresent | approvedAbsent | invalidateOnRestore
  deriving DecidableEq

instance : StrEnum InventoryDisposition where
  value
    | .requiredPresent => "required_present"
    | .approvedAbsent => "approved_absent"
    | .invalidateOnRestore => "invalidate_on_restore"
  members := [.requiredPresent, .approvedAbsent, .invalidateOnRestore]
  find_value a := find?_text (by simp) (by cases a <;> decide)

/-- Why a managed file may be absent. -/
inductive AbsenceReason where
  | operatorAuthNotInitialized | providerIntentStoreNotActivated
  deriving DecidableEq

instance : StrEnum AbsenceReason where
  value
    | .operatorAuthNotInitialized => "operator_auth_not_initialized"
    | .providerIntentStoreNotActivated => "provider_intent_store_not_activated"
  members := [.operatorAuthNotInitialized, .providerIntentStoreNotActivated]
  find_value a := find?_text (by simp) (by cases a <;> decide)

/-- Whether the provider intent store is the authority already. -/
inductive ProviderIntentActivation where
  | notActivated | activated
  deriving DecidableEq

instance : StrEnum ProviderIntentActivation where
  value
    | .notActivated => "not_activated"
    | .activated => "activated"
  members := [.notActivated, .activated]
  find_value a := find?_text (by simp) (by cases a <;> decide)

/-! ## Readers -/

/-- `value == n` for an integer `n`: numbers of every type are compared by value. -/
def equalsInt (n : Int) : Json → Bool
  | .int i => i = n
  | .bool b => (b.toNat : Int) = n
  | .float (.finite q) => q = n
  | _ => false

@[simp] theorem equalsInt_int (n : Int) : equalsInt n (.int n) = true := by
  simp [equalsInt]

@[simp] theorem get_nil (key : String) : Fields.get [] key = .null := rfl

/-- `set(value) == set(names)` -/
def sameKeys (fields : Fields) (names : List String) : Bool :=
  fields.keys.all (· ∈ names) && names.all (· ∈ fields.keys)

/-- `try: m except (TypeError, ValueError): raise error` -/
def convert {α : Type} (error : PyError) : Except PyError α → Except PyError α
  | .error (.valueError _) | .error (.typeError _) => .error error
  | result => result

@[simp] theorem convert_ok {α : Type} (error : PyError) (a : α) :
    convert error (.ok a) = .ok a := rfl

/-- The member of an enumeration that a value names. -/
def readEnum (α : Type) [StrEnum α] (value : Json) : Except PyError α :=
  expect ((asStr? value).bind StrEnum.ofValue?) (.valueError "value is not a valid member")

@[simp] theorem readEnum_value {α : Type} [StrEnum α] (a : α) :
    readEnum α (.str (StrEnum.value a)) = .ok a := by
  simp [readEnum]

/-! ## Artifacts -/

/-- The digest and the size of a backed-up file. -/
structure ArtifactMetadata where
  sha256 : String
  size : ℕ
  /-- The digest is well formed. -/
  checksum : isHexDigest sha256 = true

instance : DecidableEq ArtifactMetadata := fun a b =>
  decidable_of_iff (a.sha256 = b.sha256 ∧ a.size = b.size) (by cases a; cases b; simp)

namespace ArtifactMetadata

/-- `ArtifactMetadata(sha256, size)`, with `__post_init__`. -/
def build (sha256 size : Json) : Except PyError ArtifactMetadata :=
  let invalid := PyError.valueError "artifact checksum must be 64 lowercase hex characters"
  match sha256 with
  | .str text =>
      if h : isHexDigest text = true then
        match size with
        | .int (.ofNat n) => .ok ⟨text, n, h⟩
        | _ => .error (.valueError "artifact size must be a non-negative integer")
      else .error invalid
  | _ => .error invalid

@[simp] theorem build_self (a : ArtifactMetadata) :
    build (.str a.sha256) (.int a.size) = .ok a := by
  simp only [build, dif_pos a.checksum]

end ArtifactMetadata

/-! ## Inventory entries -/

/-- The values of an inventory entry. Its mode is any value that equals `PRIVATE_FILE_MODE`. -/
structure InventoryFields where
  path : ManagedPath
  role : InventoryRole
  content_kind : ContentKind
  disposition : InventoryDisposition
  mode : Json
  absence_reason : Option AbsenceReason
  artifact : Option ArtifactMetadata
  deriving DecidableEq

/-- `_BASE_SPEC`: the role and the format of each path but the provider intents. -/
def BASE_SPEC : ManagedPath → InventoryRole × ContentKind
  | .actionHistory => (.history, .sqlite)
  | .providerIntelligence => (.derivedHistory, .sqlite)
  | .operationalDispatch => (.safetyLedger, .sqlite)
  | .operatorIntents => (.authority, .sqlite)
  | .policies | .providerConnections | .providerSecrets => (.authority, .yaml)
  | .operatorSecurityAudit => (.audit, .sqlite)
  | .operatorSessions => (.ephemeralSecurity, .sqlite)
  | .providerIntents => (.authority, .sqlite)

/-- `_validate_entry_shape` -/
def validateEntryShape (entry : InventoryFields) : Except PyError Unit :=
  match entry.path with
  | .providerIntents => do
      require (entry.content_kind = .sqlite)
        (.valueError "provider intent inventory must be SQLite")
      require ((entry.role, entry.disposition, entry.absence_reason) ∈
          [(.preActivation, .approvedAbsent, some .providerIntentStoreNotActivated),
            (.authority, .requiredPresent, none)])
        (.valueError "provider intent inventory shape is invalid")
  | path => do
      require ((entry.role, entry.content_kind) = BASE_SPEC path)
        (.valueError "managed inventory role or content kind is invalid")
      match path with
      | .operatorSessions =>
          require (entry.disposition = .invalidateOnRestore)
            (.valueError "operator sessions must be invalidated on restore")
      | .operatorSecurityAudit =>
          if entry.disposition = .approvedAbsent then
            require (entry.absence_reason = some .operatorAuthNotInitialized)
              (.valueError "operator security audit absence reason is invalid")
          else
            require (entry.disposition = .requiredPresent)
              (.valueError "operator security audit disposition is invalid")
      | _ =>
          require (entry.disposition = .requiredPresent)
            (.valueError "required managed inventory path cannot be absent")

/-- `ManagedInventoryEntry.__post_init__` -/
def InventoryFields.postInit (entry : InventoryFields) : Except PyError Unit := do
  require (equalsInt PRIVATE_FILE_MODE.val entry.mode)
    (.valueError "managed backup artifacts must require mode 0600")
  match entry.disposition with
  | .requiredPresent =>
      require (entry.absence_reason.isNone && entry.artifact.isSome)
        (.valueError "present inventory entries require artifact metadata and no absence reason")
  | .approvedAbsent =>
      require (entry.absence_reason.isSome && entry.artifact.isNone)
        (.valueError "absent inventory entries require a controlled reason and no artifact")
  | .invalidateOnRestore =>
      require (entry.absence_reason.isNone && entry.artifact.isNone)
        (.valueError "invalidate-on-restore entries cannot carry an artifact or absence reason")
  validateEntryShape entry

/-- A valid inventory entry. -/
structure ManagedInventoryEntry extends InventoryFields where
  valid : toInventoryFields.postInit = .ok ()
  deriving DecidableEq

namespace ManagedInventoryEntry

/-- The entry with the given values, when they are valid. -/
def build (fields : InventoryFields) : Except PyError ManagedInventoryEntry :=
  match h : fields.postInit with
  | .ok () => .ok ⟨fields, h⟩
  | .error error => .error error

@[simp] theorem build_self (entry : ManagedInventoryEntry) :
    build entry.toInventoryFields = .ok entry := by
  unfold build
  split
  · rfl
  · next h =>
    rw [entry.valid] at h
    cases h

/-- `ManagedInventoryEntry.to_dict` -/
def toDict (entry : ManagedInventoryEntry) : Json :=
  .obj ([("path", .str (StrEnum.value entry.path)), ("role", .str (StrEnum.value entry.role)),
      ("content_kind", .str (StrEnum.value entry.content_kind)),
      ("disposition", .str (StrEnum.value entry.disposition)),
      ("mode", entry.mode)] ++
    (match entry.absence_reason with
      | none => []
      | some reason => [("absence_reason", .str (StrEnum.value reason))]) ++
    match entry.artifact with
      | none => []
      | some artifact => [("sha256", .str artifact.sha256), ("size", .int artifact.size)])

/-- `_entry_from_dict` -/
def fromDict (value : Json) : Except PyError ManagedInventoryEntry := do
  let fields ← value.requireObject (.typeError "managed inventory entry must be an object")
  let common := ["path", "role", "content_kind", "disposition", "mode"]
  let (absence_reason, artifact) ←
    if sameKeys fields (common ++ ["sha256", "size"]) then do
      let artifact ← ArtifactMetadata.build (fields.get "sha256") (fields.get "size")
      pure (none, some artifact)
    else if sameKeys fields (common ++ ["absence_reason"]) then do
      let reason ← readEnum AbsenceReason (fields.get "absence_reason")
      pure (some reason, none)
    else if sameKeys fields common then pure (none, none)
    else .error (.valueError "managed inventory entry fields are invalid")
  let path ← readEnum ManagedPath (fields.get "path")
  let role ← readEnum InventoryRole (fields.get "role")
  let content_kind ← readEnum ContentKind (fields.get "content_kind")
  let disposition ← readEnum InventoryDisposition (fields.get "disposition")
  build { path, role, content_kind, disposition, mode := fields.get "mode", absence_reason,
          artifact }

/-- An entry carries an artifact or a reason for its absence, never both. -/
theorem exclusive (entry : ManagedInventoryEntry) :
    entry.absence_reason = none ∨ entry.artifact = none := by
  have h := entry.valid
  simp only [InventoryFields.postInit, require_bind_eq_ok] at h
  obtain ⟨-, h⟩ := h
  split at h
  all_goals
    simp only [require_bind_eq_ok, Bool.and_eq_true, Option.isNone_iff_eq_none] at h
    tauto

theorem fromDict_toDict (entry : ManagedInventoryEntry) : fromDict entry.toDict = .ok entry := by
  obtain ⟨⟨path, role, content_kind, disposition, mode, reason, artifact⟩, hvalid⟩ := entry
  have hself := build_self ⟨⟨path, role, content_kind, disposition, mode, reason, artifact⟩, hvalid⟩
  rcases reason with _ | reason <;> rcases artifact with _ | artifact
  · simp [fromDict, toDict, sameKeys, Fields.keys, hself]
  · simp [fromDict, toDict, sameKeys, Fields.keys, hself]
  · simp [fromDict, toDict, sameKeys, Fields.keys, hself]
  · have hboth := exclusive
      ⟨⟨path, role, content_kind, disposition, mode, some reason, some artifact⟩, hvalid⟩
    simp at hboth

end ManagedInventoryEntry

/-! ## The manifest -/

/-- `value.astimezone(UTC)` of an aware datetime; `none` when it leaves the calendar. -/
def astimezoneUtc (t : DateTime) (offset : Fin OFFSET_SPAN) : Option DateTime :=
  let micros : Int := t.micros.val + 86400000000 - offset.val
  if h : 0 ≤ micros ∧ micros < MAX_MICROS then
    some (.utc ⟨micros.toNat, by omega⟩)
  else none

/-- `_validate_created_at` -/
def validateCreatedAt (py : Python) (value : String) : Except PyError Unit := do
  let parsed ← expect (py.fromisoformat value) (.valueError "backup timestamp is invalid")
  let offset ← expect parsed.offset (.valueError "backup timestamp must be canonical UTC")
  let utc ← expect (astimezoneUtc parsed offset) .overflowError
  require (value = py.isoformat utc) (.valueError "backup timestamp must be canonical UTC")

/-- `_validate_entry_contract` -/
def validateEntryContract (activation : ProviderIntentActivation)
    (entry : ManagedInventoryEntry) : Except PyError Unit :=
  let expected : InventoryRole × InventoryDisposition × Option AbsenceReason :=
    match activation with
    | .notActivated => (.preActivation, .approvedAbsent, some .providerIntentStoreNotActivated)
    | .activated => (.authority, .requiredPresent, none)
  require (entry.path ≠ .providerIntents ∨
      (entry.role, entry.disposition, entry.absence_reason) = expected)
    (.valueError "provider intent inventory contradicts activation state")

/-- The values of a manifest. -/
structure ManifestFields where
  created_at : String
  provider_intent_activation : ProviderIntentActivation
  inventory : List ManagedInventoryEntry
  deriving DecidableEq

/-- `AtlasCoreBackupV3Manifest.__post_init__` -/
def ManifestFields.postInit (py : Python) (manifest : ManifestFields) : Except PyError Unit := do
  validateCreatedAt py manifest.created_at
  require (manifest.inventory.map (·.path) = MANAGED_PATH_ORDER)
    (.valueError "v3 inventory must contain every managed path exactly once in canonical order")
  manifest.inventory.forM (validateEntryContract manifest.provider_intent_activation)

/-- A valid manifest of a complete backup. -/
structure AtlasCoreBackupV3Manifest (py : Python) extends ManifestFields where
  valid : toManifestFields.postInit py = .ok ()
  deriving DecidableEq

namespace AtlasCoreBackupV3Manifest

variable {py : Python}

/-- The manifest with the given values, when they are valid. -/
def build (py : Python) (fields : ManifestFields) : Except PyError (AtlasCoreBackupV3Manifest py) :=
  match h : fields.postInit py with
  | .ok () => .ok ⟨fields, h⟩
  | .error error => .error error

@[simp] theorem build_self (manifest : AtlasCoreBackupV3Manifest py) :
    build py manifest.toManifestFields = .ok manifest := by
  unfold build
  split
  · rfl
  · next h =>
    rw [manifest.valid] at h
    cases h

/-- The fields of a manifest. -/
def fieldNames : List String :=
  ["schema", "format_version", "created_at", "backup_directory_mode",
    "provider_intent_activation", "inventory"]

/-- `AtlasCoreBackupV3Manifest.to_dict` -/
def toDict (manifest : AtlasCoreBackupV3Manifest py) : Json :=
  .obj [("schema", .str V3_SCHEMA), ("format_version", .int V3_FORMAT_VERSION),
    ("created_at", .str manifest.created_at),
    ("backup_directory_mode", .int BACKUP_DIRECTORY_MODE),
    ("provider_intent_activation", .str (StrEnum.value manifest.provider_intent_activation)),
    ("inventory", .arr (manifest.inventory.map ManagedInventoryEntry.toDict))]

/-- `AtlasCoreBackupV3Manifest.from_dict` -/
def fromDict (py : Python) (value : Json) : Except PyError (AtlasCoreBackupV3Manifest py) := do
  let fields ← value.requireObject (.valueError "v3 manifest fields are invalid")
  require (sameKeys fields fieldNames) (.valueError "v3 manifest fields are invalid")
  require (fields.get "schema" = .str V3_SCHEMA &&
      equalsInt V3_FORMAT_VERSION (fields.get "format_version"))
    (.valueError "v3 manifest identity is invalid")
  require (equalsInt BACKUP_DIRECTORY_MODE (fields.get "backup_directory_mode"))
    (.valueError "v3 backup directory mode contract is invalid")
  let raw_inventory ←
    match fields.get "inventory" with
    | .arr items => pure items
    | _ => .error (.typeError "v3 manifest inventory is invalid")
  let (activation, entries) ← convert (.valueError "v3 manifest inventory values are invalid") (do
    let activation ← readEnum ProviderIntentActivation (fields.get "provider_intent_activation")
    let entries ← raw_inventory.mapM ManagedInventoryEntry.fromDict
    pure (activation, entries))
  let created_at ← expect (asStr? (fields.get "created_at"))
    (.typeError "backup timestamp must be a string")
  build py ⟨created_at, activation, entries⟩

theorem fromDict_toDict (manifest : AtlasCoreBackupV3Manifest py) :
    fromDict py manifest.toDict = .ok manifest := by
  obtain ⟨⟨created_at, activation, inventory⟩, hvalid⟩ := manifest
  have hself := build_self ⟨⟨created_at, activation, inventory⟩, hvalid⟩
  have hentries : (inventory.map ManagedInventoryEntry.toDict).mapM
      ManagedInventoryEntry.fromDict = .ok inventory :=
    mapM_map_eq_ok fun entry _ => entry.fromDict_toDict
  simp [fromDict, toDict, fieldNames, sameKeys, Fields.keys, hentries, hself]

/-- Every managed path is listed in order. -/
theorem inventory_paths (manifest : AtlasCoreBackupV3Manifest py) :
    manifest.inventory.map (·.path) = MANAGED_PATH_ORDER := by
  have h := manifest.valid
  simp only [ManifestFields.postInit, check_bind_eq_ok, require_eq_ok, decide_eq_true_eq] at h
  exact h.2.1

/-- The entry of a managed path, `{entry.path: entry for entry in inventory}[path]`. -/
def entry (manifest : AtlasCoreBackupV3Manifest py) (path : ManagedPath) :
    Option ManagedInventoryEntry :=
  manifest.inventory.find? fun entry => entry.path = path

theorem exists_entry (manifest : AtlasCoreBackupV3Manifest py) (path : ManagedPath) :
    ∃ entry, manifest.entry path = some entry ∧ entry.path = path := by
  have hmem : path ∈ manifest.inventory.map (·.path) := by
    rw [manifest.inventory_paths]
    cases path <;> decide
  obtain ⟨listed, hlisted, hpath⟩ := List.mem_map.mp hmem
  have hsome : (manifest.entry path).isSome := by
    rw [entry, List.find?_isSome]
    exact ⟨listed, hlisted, by simpa using hpath⟩
  obtain ⟨found, hfound⟩ := Option.isSome_iff_exists.mp hsome
  exact ⟨found, hfound, by simpa using List.find?_some hfound⟩

end AtlasCoreBackupV3Manifest

end AtlasOS.Restore
