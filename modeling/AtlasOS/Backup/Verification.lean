import AtlasOS.Restore.Transaction

/-!
# Creating and verifying a backup

`create_backup` copies the managed files of the Core's data directory, writes a
manifest and verifies what it wrote; `verify_backup` checks a backup against its
manifest. Whether the provider intents are activated is recorded in the manifest,
and the identity of the import that activated them has to be given to both.
-/

namespace AtlasOS.Backup

open Restore

variable {Bytes : Type}

/-- `MANIFEST_NAME` -/
def MANIFEST_NAME : String := "manifest.json"

/-- What the tool computes of the content of files, and its check of the formats before the third. -/
structure Tools (Bytes : Type) where
  py : Python
  storage : Storage Bytes
  /-- `json.dumps(manifest, indent=2, sort_keys=True)` and a newline. -/
  manifestText : Json → Bytes
  /-- `sqlite_backup` -/
  sqliteBackup : Bytes → Except Error Bytes
  /-- The rest of `verify_backup` for a manifest of version 1 or 2. -/
  verifyLegacy : Disk Bytes → Json → Except Error Unit
  /-- The metadata of a new entry, by the mode asked for. -/
  fresh : Fin 0o1000 → Metadata

/-- `relative path` of a managed file in a backup. -/
def managedParts (path : ManagedPath) : Parts := (TransactionPath.main path).parts

/-- `_validate_activation_options` -/
def validateActivationOptions (activation : ProviderIntentActivation)
    (expected_legacy_import_id : Option String) : Except Error Unit :=
  match activation with
  | .activated =>
      Restore.demand (expected_legacy_import_id.any (· ≠ ""))
        (.runtime "activated Provider Intent requires an expected import ID")
  | .notActivated =>
      Restore.demand expected_legacy_import_id.isNone
        (.runtime "inactive Provider Intent cannot accept an expected import ID")

/-! ## Verification -/

section Verification

variable (tools : Tools Bytes) (backup : Disk Bytes)

/-- The regular file at a path. -/
def fileAt (path : Parts) : Option (Bytes × Metadata) :=
  match backup.node path with
  | some (.file content metadata _) => some (content, metadata)
  | _ => none

local instance lawfulBEq_parts : LawfulBEq Parts := inferInstance

/-- `set(first) == set(second)` -/
def sameElements (first second : List Parts) : Bool :=
  first.all (· ∈ second) && second.all (· ∈ first)

/-- The files that a manifest says are there, with the manifest itself. -/
def expectedFiles (inventory : List ManagedInventoryEntry) : List Parts :=
  [MANIFEST_NAME] ::
    (inventory.filter (·.disposition = .requiredPresent)).map fun entry => managedParts entry.path

/-- The paths of the regular files below the backup. -/
def actualFiles : List Parts :=
  (backup.below []).filterMap fun (path, node) =>
    match node with
    | .file .. => some path
    | _ => none

/-- The paths of the directories below the backup. -/
def actualDirectories : List Parts :=
  (backup.below []).filterMap fun (path, node) =>
    match node with
    | .directory _ => some path
    | _ => none

/-- What `verify_v3_backup` checks of an entry of the inventory. -/
def verifyEntry (expected_legacy_import_id : Option String) (entry : ManagedInventoryEntry) :
    Except Error Unit :=
  let label : String := StrEnum.value entry.path
  if entry.disposition ≠ .requiredPresent then
    Restore.demand (!backup.existsAt (managedParts entry.path))
      (.runtime ("excluded backup artifact exists: " ++ label))
  else do
    let artifact ← obtainOr entry.artifact (.runtime "")
    let (content, metadata) ← obtainOr (fileAt backup (managedParts entry.path))
      (.runtime ("backup artifact mode or type is invalid: " ++ label))
    Restore.demand (equalsInt metadata.mode.val entry.mode)
      (.runtime ("backup artifact mode or type is invalid: " ++ label))
    Restore.demand (tools.storage.size content = artifact.size)
      (.runtime ("backup size mismatch: " ++ label))
    Restore.demand (tools.storage.sha256 content = artifact.sha256)
      (.runtime ("backup checksum mismatch: " ++ label))
    validateContent tools.storage entry.path entry.content_kind content (policyContent [] backup)
      expected_legacy_import_id ("backup integrity check failed: " ++ label)

/-- `verify_v3_backup`. The path of the backup is a directory, or a link to one. -/
def verifyV3Backup (linked : Bool) (manifest_data : Json)
    (expected_legacy_import_id : Option String) : Except Error Json := do
  let manifest ← convertError (.runtime "backup v3 manifest is invalid")
    (ofPython (AtlasCoreBackupV3Manifest.fromDict tools.py manifest_data))
  validateActivationOptions manifest.provider_intent_activation expected_legacy_import_id
  Restore.demand (!linked && (backup.directoryAt []).any fun metadata =>
      metadata.mode.val = BACKUP_DIRECTORY_MODE)
    (.runtime "backup v3 directory mode is invalid")
  Restore.demand ((fileAt backup [MANIFEST_NAME]).any fun file => file.2.mode = PRIVATE_FILE_MODE)
    (.runtime "backup v3 manifest mode is invalid")
  let expected_files := expectedFiles manifest.inventory
  let expected_directories := (expected_files.map List.dropLast).filter (· ≠ [])
  Restore.demand (!(backup.below []).any fun entry => backup.isSymlink entry.1)
    (.runtime "backup v3 cannot contain symbolic links")
  Restore.demand (sameElements (actualFiles backup) expected_files)
    (.runtime "backup v3 physical file set is invalid")
  Restore.demand (sameElements (actualDirectories backup) expected_directories)
    (.runtime "backup v3 directory set is invalid")
  manifest.inventory.forM (verifyEntry tools backup expected_legacy_import_id)
  return manifest_data

/-- `format_version in SUPPORTED_FORMAT_VERSIONS`; a value that cannot be hashed is refused. -/
def isSupported (format_version : Json) : Except Error Bool :=
  match format_version with
  | .arr _ => .error (.builtin (.typeError "unhashable type: 'list'"))
  | .obj _ => .error (.builtin (.typeError "unhashable type: 'dict'"))
  | value => .ok (equalsInt 1 value || equalsInt 2 value || equalsInt V3_FORMAT_VERSION value)

/-- `verify_backup`, of a backup whose manifest is not behind a link. -/
def verifyBackup (linked : Bool) (expected_legacy_import_id : Option String) :
    Except Error Json := do
  let (content, _) ← obtainOr (fileAt backup [MANIFEST_NAME]) osError
  let manifest ← obtainOr (tools.storage.loads content) (.builtin (.valueError "Expecting value"))
  let fields ← readObject manifest (.runtime "backup manifest must be an object")
  let format_version := fields.get "format_version"
  let supported ← isSupported format_version
  Restore.demand supported (.runtime "unsupported backup format version")
  if equalsInt V3_FORMAT_VERSION format_version then
    verifyV3Backup tools backup linked manifest expected_legacy_import_id
  else
    Restore.demand expected_legacy_import_id.isNone
      (.runtime "legacy backups cannot carry Provider Intent activation")
    tools.verifyLegacy backup manifest
    return manifest

end Verification

/-! ## Creation -/

/-- A managed file of the data directory. -/
structure SourceFile (Bytes : Type) where
  content : Bytes
  mode : Fin 0o1000
  is_symlink : Bool

/-- The data directory: the managed paths that exist, and those that lead to a regular file. -/
structure Source (Bytes : Type) where
  existsAt : ManagedPath → Bool
  file : ManagedPath → Option (SourceFile Bytes)

/-- The options of `create_backup`, and the clock it reads. -/
structure CreateOptions where
  operator_auth_initialized : Bool
  provider_intent_activation : ProviderIntentActivation
  expected_legacy_import_id : Option String
  now : Fin MAX_MICROS

section Creation

variable (tools : Tools Bytes) (source : Source Bytes) (options : CreateOptions)

/-- The artifacts that are there for the state the options tell of. -/
def presentPaths : List ManagedPath :=
  MANAGED_PATH_ORDER.take 7 ++
    (if options.operator_auth_initialized then [.operatorSecurityAudit] else []) ++
    (if options.provider_intent_activation = .activated then [.providerIntents] else [])

/-- `path.parent.mkdir(parents=True, exist_ok=True)` and a new file with the given content. -/
def addFile (destination : Disk Bytes) (path : Parts) (content : Bytes) :
    Except Error (Disk Bytes) := do
  let parent := path.dropLast
  let destination ←
    if destination.isDir parent then pure destination
    else obtainOr (destination.add parent (.directory (tools.fresh 0o777))) osError
  obtainOr (destination.add path (.file content (tools.fresh 0o666) 1)) osError

/-- `os.chmod(path, mode)` -/
def chmodFile (destination : Disk Bytes) (path : Parts) (mode : Fin 0o1000) :
    Except Error (Disk Bytes) :=
  obtainOr (destination.setMetadata path fun metadata => { metadata with mode }) osError

/-- The content of the copy of a managed file, after the checks on it and on its original. -/
def copyContent (path : ManagedPath) (original : SourceFile Bytes) : Except Error Bytes :=
  let policy := (source.file .policies).map SourceFile.content
  match (BASE_SPEC path).2 with
  | .sqlite => do
      if path ≠ .providerIntents then
        tools.storage.validateSqliteApplication original.content path none none
      let copy ← tools.sqliteBackup original.content
      let result ← tools.storage.integrity copy
      Restore.demand (result = "ok")
        (.runtime ("backup integrity check failed for " ++ StrEnum.value path))
      tools.storage.validateSqliteApplication copy path policy options.expected_legacy_import_id
      return copy
  | .yaml => do
      tools.storage.validateRuntimeFile original.content path original.mode
      tools.storage.validateRuntimeFile original.content path PRIVATE_FILE_MODE
      return original.content

/-- One round of the loop of `create_backup`, with the artifacts recorded so far. -/
def copyArtifact (state : Disk Bytes × List (ManagedPath × ArtifactMetadata)) (path : ManagedPath) :
    Except Error (Disk Bytes × List (ManagedPath × ArtifactMetadata)) := do
  let (destination, artifacts) := state
  let original ← obtainOr (source.file path)
    (.runtime ("required store not found: " ++ StrEnum.value path))
  let content ← copyContent tools source options path original
  let destination ← addFile tools destination (managedParts path) content
  let destination ← chmodFile destination (managedParts path) PRIVATE_FILE_MODE
  let artifact : ArtifactMetadata :=
    ⟨tools.storage.sha256 content, tools.storage.size content,
      tools.storage.sha256_isHexDigest content⟩
  return (destination, artifacts ++ [(path, artifact)])

/-- The entry of the inventory that `build_v3_manifest` makes of a path. -/
def inventoryFields (artifacts : List (ManagedPath × ArtifactMetadata)) (path : ManagedPath) :
    Except PyError InventoryFields :=
  let absent (role : InventoryRole) (reason : AbsenceReason) : InventoryFields :=
    { path, role, content_kind := .sqlite, disposition := .approvedAbsent,
      mode := .int PRIVATE_FILE_MODE.val, absence_reason := some reason, artifact := none }
  if path = .operatorSessions then
    .ok { path, role := .ephemeralSecurity, content_kind := .sqlite,
          disposition := .invalidateOnRestore, mode := .int PRIVATE_FILE_MODE.val,
          absence_reason := none, artifact := none }
  else if path = .operatorSecurityAudit ∧ options.operator_auth_initialized = false then
    .ok (absent .audit .operatorAuthNotInitialized)
  else if path = .providerIntents ∧ options.provider_intent_activation = .notActivated then
    .ok (absent .preActivation .providerIntentStoreNotActivated)
  else do
    let artifact ← expect (artifacts.lookup path) (.keyError (StrEnum.value path))
    let (role, content_kind) := BASE_SPEC path
    .ok { path, role, content_kind, disposition := .requiredPresent,
          mode := .int PRIVATE_FILE_MODE.val, absence_reason := none, artifact := some artifact }

/-- `build_v3_manifest` -/
def buildV3Manifest (artifacts : List (ManagedPath × ArtifactMetadata)) :
    Except PyError (AtlasCoreBackupV3Manifest tools.py) := do
  require ((artifacts.map Prod.fst).all (· ∈ presentPaths options) &&
      (presentPaths options).all (· ∈ artifacts.map Prod.fst))
    (.valueError "v3 artifact set does not match its explicit activation state")
  let inventory ← MANAGED_PATH_ORDER.mapM fun path => do
    ManagedInventoryEntry.build (← inventoryFields options artifacts path)
  AtlasCoreBackupV3Manifest.build tools.py
    { created_at := tools.py.isoformat (.utc options.now),
      provider_intent_activation := options.provider_intent_activation, inventory }

/-- What `create_backup` checks before it copies anything. -/
def checkSource : Except Error Unit := do
  Restore.demand (options.operator_auth_initialized || !source.existsAt .operatorSecurityAudit)
    (.runtime "unexpected operator security audit database")
  validateActivationOptions options.provider_intent_activation options.expected_legacy_import_id
  match options.provider_intent_activation with
  | .notActivated =>
      Restore.demand (!source.existsAt .providerIntents)
        (.runtime "unexpected inactive provider intent database")
  | .activated =>
      Restore.demand ((source.file .providerIntents).any fun file => !file.is_symlink)
        (.runtime "required provider intent store not found")

/-- `create_backup` into a directory that exists. -/
def createBackup (destination : Disk Bytes) : Except Error (Disk Bytes) := do
  let destination ← chmodFile destination [] ⟨BACKUP_DIRECTORY_MODE, by decide⟩
  Restore.demand (destination.children []).isEmpty (.runtime "backup destination is not empty")
  checkSource source options
  let (destination, artifacts) ←
    (presentPaths options).foldlM (copyArtifact tools source options) (destination, [])
  let manifest ← ofPython (buildV3Manifest tools options artifacts)
  let destination ← addFile tools destination [MANIFEST_NAME] (tools.manifestText manifest.toDict)
  let destination ← chmodFile destination [MANIFEST_NAME] PRIVATE_FILE_MODE
  let _ ← verifyBackup tools destination false options.expected_legacy_import_id
  return destination

end Creation

end AtlasOS.Backup
