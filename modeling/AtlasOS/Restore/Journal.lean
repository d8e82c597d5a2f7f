import Mathlib.Data.List.Nodup
import AtlasOS.Lib.FileSystem
import AtlasOS.Restore.Manifest

/-!
# The restore journal

The journal records, for each of the 24 paths a restore may touch, what the
backup puts there and what was there before, and for the two directories how
they were. A journal that exists is consistent with its manifest, and the
reader gives back what the writer wrote.
-/

namespace AtlasOS.Restore

/-- The exceptions of the restore engine and of what it calls. -/
inductive Error where
  /-- `RestoreTransactionError` -/
  | transaction (message : String)
  /-- `RestoreRecoveryRequiredError` -/
  | recoveryRequired (message : String)
  /-- `RestoreJournalError`, which is a `RestoreRecoveryRequiredError` -/
  | journal (message : String)
  /-- `RuntimeError`, as the backup tool raises it -/
  | runtime (message : String)
  /-- An exception of the language or its library -/
  | builtin (error : PyError)
  /-- A `BaseException` that is no `Exception` -/
  | exit
  deriving DecidableEq

/-- What `except Exception` catches. -/
def Error.isException : Error → Bool
  | .exit => false
  | _ => true

/-- What `except RestoreRecoveryRequiredError` catches. -/
def Error.isRecoveryRequired : Error → Bool
  | .recoveryRequired _ | .journal _ => true
  | _ => false

/-- A computation of the standard library. -/
def ofPython {α : Type} : Except PyError α → Except Error α
  | .ok a => .ok a
  | .error error => .error (.builtin error)

@[simp] theorem ofPython_ok {α : Type} (a : α) : ofPython (.ok a) = .ok a := rfl

/-- Raise an error unless the condition holds. -/
def demand (condition : Bool) (error : Error) : Except Error Unit :=
  if condition then .ok () else .error error

@[simp] theorem demand_true (error : Error) : demand true error = .ok () := rfl

@[simp] theorem demand_eq_ok {condition : Bool} {error : Error} :
    demand condition error = .ok () ↔ condition = true := by
  cases condition <;> simp [demand]

/-- A value of the expected type, or the error raised for its absence. -/
def obtainOr {α : Type} (value : Option α) (error : Error) : Except Error α :=
  match value with
  | some a => .ok a
  | none => .error error

@[simp] theorem obtainOr_some {α : Type} (a : α) (error : Error) :
    obtainOr (some a) error = .ok a := rfl

/-- The fields of a value after `isinstance(value, dict)`. -/
def readObject (value : Json) (error : Error) : Except Error Fields :=
  match value with
  | .obj fields => .ok fields
  | _ => .error error

@[simp] theorem readObject_obj (fields : Fields) (error : Error) :
    readObject (.obj fields) error = .ok fields := rfl

/-- `try: m except (TypeError, ValueError): raise error` -/
def convertError {α : Type} (error : Error) : Except Error α → Except Error α
  | .error (.builtin (.valueError _)) | .error (.builtin (.typeError _)) => .error error
  | result => result

@[simp] theorem convertError_ok {α : Type} (error : Error) (a : α) :
    convertError error (.ok a) = .ok a := rfl

/-! ## Paths -/

/-- The directories of the target that hold managed files. -/
inductive ManagedDirectory where
  | config | secrets
  deriving DecidableEq

instance : StrEnum ManagedDirectory where
  value
    | .config => "config"
    | .secrets => "secrets"
  members := [.config, .secrets]
  find_value a := find?_text (by simp) (by cases a <;> decide)

/-- Whether a managed file is a database, which may have side files. -/
def ManagedPath.isSqlite : ManagedPath → Bool
  | .policies | .providerConnections | .providerSecrets => false
  | _ => true

/-- The suffixes of the side files of a database. -/
inductive SideSuffix where
  | wal | shm
  deriving DecidableEq

instance : StrEnum SideSuffix where
  value
    | .wal => "-wal"
    | .shm => "-shm"
  members := [.wal, .shm]
  find_value a := find?_text (by simp) (by cases a <;> decide)

/-- A path that a restore may touch: a managed file or a side file of a database. -/
inductive TransactionPath where
  /-- A managed file. -/
  | main (path : ManagedPath)
  /-- A side file of a managed database. -/
  | side (path : ManagedPath) (suffix : SideSuffix) (sqlite : path.isSqlite = true)
  deriving DecidableEq

/-- `_SQLITE_PATHS`, with the side files of each path. -/
def sideFiles (path : ManagedPath) : List TransactionPath :=
  if h : path.isSqlite = true then [.side path .wal h, .side path .shm h] else []

/-- `_MANAGED_TRANSACTION_PATHS` -/
def MANAGED_TRANSACTION_PATHS : List TransactionPath :=
  MANAGED_PATH_ORDER.map .main ++ MANAGED_PATH_ORDER.flatMap sideFiles

namespace TransactionPath

/-- The path relative to the target. -/
def value : TransactionPath → String
  | .main path => StrEnum.value path
  | .side path suffix _ => StrEnum.value path ++ StrEnum.value suffix

/-- The directory in which the file lies, unless it lies in the target itself. -/
def directory : TransactionPath → Option ManagedDirectory
  | .main .policies | .main .providerConnections => some .config
  | .main .providerSecrets => some .secrets
  | _ => none

/-- The name of the file in its directory. -/
def name : TransactionPath → String
  | .main .policies => "policies.yaml"
  | .main .providerConnections | .main .providerSecrets => "provider-connections.yaml"
  | path => path.value

/-- `PurePosixPath(relative).parts` -/
def parts (path : TransactionPath) : Parts :=
  (path.directory.toList.map StrEnum.value) ++ [path.name]

theorem mem_paths (path : TransactionPath) : path ∈ MANAGED_TRANSACTION_PATHS := by
  have hmanaged (path : ManagedPath) : path ∈ MANAGED_PATH_ORDER := by cases path <;> decide
  cases path with
  | main path => exact List.mem_append_left _ (List.mem_map_of_mem (hmanaged path))
  | side path suffix sqlite =>
    refine List.mem_append_right _ (List.mem_flatMap.mpr ⟨path, hmanaged path, ?_⟩)
    cases suffix <;> simp [sideFiles, sqlite]

theorem nodup_paths : MANAGED_TRANSACTION_PATHS.Nodup := by decide

theorem value_eq_intercalate (path : TransactionPath) : path.value = "/".intercalate path.parts := by
  cases path with
  | main path => cases path <;> rfl
  | side path suffix sqlite => cases path <;> cases suffix <;> rfl

theorem value_ne_empty (path : TransactionPath) : path.value ≠ "" := by
  cases path with
  | main path => cases path <;> decide
  | side path suffix sqlite => cases path <;> cases suffix <;> simp [value, StrEnum.value]

end TransactionPath

/-- The path that a text names, `value in _MANAGED_TRANSACTION_PATHS`. -/
def findPath (text : String) : Option TransactionPath :=
  MANAGED_TRANSACTION_PATHS.find? fun path => path.value = text

theorem findPath_value (path : TransactionPath) : findPath path.value = some path := by
  cases path with
  | main path => cases path <;> decide
  | side path suffix sqlite => cases path <;> cases suffix <;> first | rfl | cases sqlite

/-! ## Recorded states -/

/-- An integer as `isinstance(value, int)` accepts it, which includes the booleans. -/
def asInteger? : Json → Option Int
  | .int i => some i
  | .bool b => some b.toNat
  | _ => none

@[simp] theorem asInteger_int (i : Int) : asInteger? (.int i) = some i := rfl

/-- Permission bits and an owner, when the numbers are in range. -/
def readMetadata (mode uid gid : Int) : Option Metadata :=
  if h : 0 ≤ mode ∧ mode < 0o1000 then
    if 0 ≤ uid ∧ 0 ≤ gid then some ⟨⟨mode.toNat, by omega⟩, uid.toNat, gid.toNat⟩ else none
  else none

@[simp] theorem readMetadata_self (m : Metadata) :
    readMetadata m.mode.val m.uid m.gid = some m := by
  have hmode : (0 : Int) ≤ m.mode.val ∧ (m.mode.val : Int) < 0o1000 := by omega
  have howner : (0 : Int) ≤ m.uid ∧ (0 : Int) ≤ m.gid := by omega
  simp only [readMetadata, dif_pos hmode, if_pos howner]
  rfl

/-- What was found of an existing file. -/
structure FileMetadata where
  sha256 : String
  size : ℕ
  metadata : Metadata
  /-- The digest is well formed. -/
  checksum : isHexDigest sha256 = true

instance : DecidableEq FileMetadata := fun a b =>
  decidable_of_iff (a.sha256 = b.sha256 ∧ a.size = b.size ∧ a.metadata = b.metadata)
    (by cases a; cases b; simp)

/-- The state of a file: `none` when it does not exist. -/
abbrev FileState := Option FileMetadata

namespace FileState

/-- `FileState.to_dict` -/
def toDict : FileState → Json
  | none => .obj [("exists", .bool false)]
  | some file =>
      .obj [("exists", .bool true), ("sha256", .str file.sha256), ("size", .int file.size),
        ("mode", .int file.metadata.mode.val), ("uid", .int file.metadata.uid),
        ("gid", .int file.metadata.gid)]

/-- `FileState.from_dict`, with `__post_init__`. -/
def fromDict (value : Json) : Except Error FileState := do
  let fields ← readObject value (.journal "file state must be an object")
  let invalid := Error.journal "file state fields are invalid"
  match fields.get "exists" with
  | .bool true =>
      demand (sameKeys fields ["exists", "sha256", "size", "mode", "uid", "gid"]) invalid
      let incomplete := Error.journal "existing file state metadata is invalid"
      let sha256 ← obtainOr (asStr? (fields.get "sha256")) incomplete
      if checksum : isHexDigest sha256 = true then
        let size ← obtainOr (asInteger? (fields.get "size")) incomplete
        let mode ← obtainOr (asInteger? (fields.get "mode")) incomplete
        let uid ← obtainOr (asInteger? (fields.get "uid")) incomplete
        let gid ← obtainOr (asInteger? (fields.get "gid")) incomplete
        let outside := Error.journal "existing file state values are invalid"
        demand (0 ≤ size) outside
        let metadata ← obtainOr (readMetadata mode uid gid) outside
        return some ⟨sha256, size.toNat, metadata, checksum⟩
      else throw incomplete
  | .bool false =>
      demand (sameKeys fields ["exists"]) invalid
      return none
  | _ => throw invalid

theorem fromDict_toDict (state : FileState) : fromDict state.toDict = .ok state := by
  cases state with
  | none => simp [toDict, fromDict, sameKeys, Fields.keys]
  | some file => simp [toDict, fromDict, sameKeys, Fields.keys, file.checksum]

end FileState

/-- The state of a directory: no metadata when it does not exist. -/
structure DirectoryState where
  path : ManagedDirectory
  metadata : Option Metadata
  deriving DecidableEq

namespace DirectoryState

/-- `DirectoryState.to_dict` -/
def toDict (state : DirectoryState) : Json :=
  .obj ([("path", .str (StrEnum.value state.path)), ("exists", .bool state.metadata.isSome)] ++
    match state.metadata with
      | none => []
      | some metadata =>
          [("mode", .int metadata.mode.val), ("uid", .int metadata.uid), ("gid", .int metadata.gid)])

/-- `_validate_relative_path(value, allowed=...)`, where the allowed values are those that
`find` knows. None of them is absolute or has an empty part or dots. -/
def validateRelativePath {α : Type} (find : String → Option α) (value : Json) : Except Error α := do
  let text ← obtainOr (asStr? value) (.journal "journal path is invalid")
  demand (text ≠ "") (.journal "journal path is invalid")
  obtainOr (find text) (.journal "journal path is unsafe or unmanaged")

/-- `DirectoryState.from_dict`, with `__post_init__`. -/
def fromDict (value : Json) : Except Error DirectoryState := do
  let fields ← readObject value (.journal "directory state must be an object")
  let invalid := Error.journal "directory state fields are invalid"
  match fields.get "exists" with
  | .bool true =>
      demand (sameKeys fields ["path", "exists", "mode", "uid", "gid"]) invalid
      let path ← validateRelativePath StrEnum.ofValue? (fields.get "path")
      let incomplete := Error.journal "directory state metadata is invalid"
      let mode ← obtainOr (asInteger? (fields.get "mode")) incomplete
      let uid ← obtainOr (asInteger? (fields.get "uid")) incomplete
      let gid ← obtainOr (asInteger? (fields.get "gid")) incomplete
      let metadata ← obtainOr (readMetadata mode uid gid)
        (.journal "directory state values are invalid")
      return ⟨path, some metadata⟩
  | .bool false =>
      demand (sameKeys fields ["path", "exists"]) invalid
      let path ← validateRelativePath StrEnum.ofValue? (fields.get "path")
      return ⟨path, none⟩
  | _ => throw invalid

theorem fromDict_toDict (state : DirectoryState) : fromDict state.toDict = .ok state := by
  obtain ⟨path, metadata⟩ := state
  have hpath : StrEnum.value path ≠ "" := by cases path <;> decide
  cases metadata with
  | none => simp [toDict, fromDict, sameKeys, Fields.keys, validateRelativePath, hpath]
  | some metadata => simp [toDict, fromDict, sameKeys, Fields.keys, validateRelativePath, hpath]

end DirectoryState

/-! ## Operations -/

/-- What a restore does about a path. -/
inductive RestoreAction where
  | install | absent
  deriving DecidableEq

instance : StrEnum RestoreAction where
  value
    | .install => "install"
    | .absent => "absent"
  members := [.install, .absent]
  find_value a := find?_text (by simp) (by cases a <;> decide)

/-- One operation of a restore: what it puts at a path and what was there. -/
structure RestoreOperation where
  path : TransactionPath
  action : RestoreAction
  artifact : Option ArtifactMetadata
  original : FileState
  /-- An artifact is what an installation installs. -/
  agrees : action = .install ↔ artifact.isSome = true
  deriving DecidableEq

namespace RestoreOperation

/-- `RestoreOperation.to_dict` -/
def toDict (operation : RestoreOperation) : Json :=
  .obj ([("path", .str operation.path.value), ("action", .str (StrEnum.value operation.action)),
      ("original", FileState.toDict operation.original)] ++
    match operation.artifact with
      | none => []
      | some artifact =>
          [("artifact", .obj [("sha256", .str artifact.sha256), ("size", .int artifact.size)])])

/-- The operation with the given values, `__post_init__`. -/
def build (path : TransactionPath) (action : RestoreAction) (artifact : Option ArtifactMetadata)
    (original : FileState) : Except Error RestoreOperation :=
  if h : action = .install ↔ artifact.isSome = true then
    .ok ⟨path, action, artifact, original, h⟩
  else .error (.journal "install action and artifact metadata disagree")

/-- The artifact of an operation, absent when the field is `null` or missing. -/
def readArtifact (value : Json) : Except Error (Option ArtifactMetadata) :=
  if value = .null then .ok none
  else do
    let invalid := Error.journal "restore artifact metadata is invalid"
    let fields ← readObject value invalid
    demand (sameKeys fields ["sha256", "size"]) invalid
    let artifact ← ofPython (ArtifactMetadata.build (fields.get "sha256") (fields.get "size"))
    return some artifact

/-- `RestoreOperation.from_dict` -/
def fromDict (value : Json) : Except Error RestoreOperation := do
  let fields ← readObject value (.journal "restore operation must be an object")
  demand (sameKeys fields ["path", "action", "original"] ||
      sameKeys fields ["path", "action", "original", "artifact"])
    (.journal "restore operation fields are invalid")
  convertError (.journal "restore operation values are invalid") do
    let action ← ofPython (readEnum RestoreAction (fields.get "action"))
    let artifact ← readArtifact (fields.get "artifact")
    let original ← FileState.fromDict (fields.get "original")
    let path ← DirectoryState.validateRelativePath findPath (fields.get "path")
    build path action artifact original

theorem build_self (operation : RestoreOperation) :
    build operation.path operation.action operation.artifact operation.original = .ok operation :=
  dif_pos operation.agrees

theorem fromDict_toDict (operation : RestoreOperation) :
    fromDict operation.toDict = .ok operation := by
  obtain ⟨path, action, artifact, original, hagrees⟩ := operation
  have hself : build path action artifact original = .ok ⟨path, action, artifact, original, hagrees⟩ :=
    build_self ⟨path, action, artifact, original, hagrees⟩
  have hpath := path.value_ne_empty
  cases artifact with
  | none =>
    simp [toDict, fromDict, sameKeys, Fields.keys, DirectoryState.validateRelativePath, hpath,
      findPath_value, FileState.fromDict_toDict, readArtifact, hself]
  | some artifact =>
    simp [toDict, fromDict, sameKeys, Fields.keys, DirectoryState.validateRelativePath, hpath,
      findPath_value, FileState.fromDict_toDict, readArtifact, hself]

end RestoreOperation

/-- `PlannedOperation` -/
structure PlannedOperation where
  path : TransactionPath
  action : RestoreAction
  artifact : Option ArtifactMetadata
  deriving DecidableEq

/-- The inventory entry of a path, `entries.get(relative_path)`. -/
def inventoryEntry {py : Python} (manifest : AtlasCoreBackupV3Manifest py) :
    TransactionPath → Option ManagedInventoryEntry
  | .main path => manifest.entry path
  | .side .. => none

/-- The operation that `build_restore_plan` makes for a path. -/
def planned {py : Python} (manifest : AtlasCoreBackupV3Manifest py) (path : TransactionPath) :
    PlannedOperation :=
  match inventoryEntry manifest path with
  | some entry =>
      if entry.disposition = .requiredPresent then ⟨path, .install, entry.artifact⟩
      else ⟨path, .absent, none⟩
  | none => ⟨path, .absent, none⟩

/-- `build_restore_plan` -/
def buildRestorePlan {py : Python} (manifest : AtlasCoreBackupV3Manifest py) :
    List PlannedOperation :=
  MANAGED_TRANSACTION_PATHS.map (planned manifest)

@[simp] theorem planned_path {py : Python} (manifest : AtlasCoreBackupV3Manifest py)
    (path : TransactionPath) : (planned manifest path).path = path := by
  unfold planned
  split
  · split <;> rfl
  · rfl

/-- A present entry carries its artifact. -/
theorem ManagedInventoryEntry.artifact_of_present {entry : ManagedInventoryEntry}
    (h : entry.disposition = .requiredPresent) : entry.artifact.isSome = true := by
  have hvalid := entry.valid
  simp only [InventoryFields.postInit, h, require_bind_eq_ok, Bool.and_eq_true] at hvalid
  exact hvalid.2.1.2

/-- A path is installed exactly when the plan has an artifact for it. -/
theorem planned_agrees {py : Python} (manifest : AtlasCoreBackupV3Manifest py)
    (path : TransactionPath) : (planned manifest path).action = .install ↔
      (planned manifest path).artifact.isSome = true := by
  unfold planned
  split
  · next entry _ =>
    by_cases hpresent : entry.disposition = .requiredPresent
    · simp [hpresent, ManagedInventoryEntry.artifact_of_present hpresent]
    · simp [hpresent]
  · simp

/-! ## The journal -/

/-- The phases of a restore, in order. -/
inductive RestorePhase where
  | prepared | oldGenerationQuarantined | newGenerationInstalled | targetVerified | committed
  deriving DecidableEq

instance : StrEnum RestorePhase where
  value
    | .prepared => "prepared"
    | .oldGenerationQuarantined => "old_generation_quarantined"
    | .newGenerationInstalled => "new_generation_installed"
    | .targetVerified => "target_verified"
    | .committed => "committed"
  members := [.prepared, .oldGenerationQuarantined, .newGenerationInstalled, .targetVerified,
    .committed]
  find_value a := find?_text (by simp) (by cases a <;> decide)

/-- The phase after a phase, by `_PHASE_ORDER`. -/
def RestorePhase.next : RestorePhase → Option RestorePhase
  | .prepared => some .oldGenerationQuarantined
  | .oldGenerationQuarantined => some .newGenerationInstalled
  | .newGenerationInstalled => some .targetVerified
  | .targetVerified => some .committed
  | .committed => none

/-- `JOURNAL_SCHEMA` -/
def JOURNAL_SCHEMA : String := "atlas-core-data-restore-journal-v1"

/-- `JOURNAL_VERSION` -/
def JOURNAL_VERSION : ℕ := 1

/-- `TRANSACTION_ID_PATTERN` -/
def isTransactionId (text : String) : Bool :=
  text.length == 32 && text.toList.all fun c => c ∈ "0123456789abcdef".toList

/-- `Path(text).is_absolute()` -/
def isAbsolute (text : String) : Bool := text.toList.head? = some '/'

/-- `_manifest_digest` -/
def manifestDigest {py : Python} (manifest : AtlasCoreBackupV3Manifest py) : String :=
  py.sha256 (py.dumps manifest.toDict)

/-- The values of a restore journal. -/
structure JournalFields (py : Python) where
  transaction_id : String
  target_path : String
  target_device : ℕ
  target_inode : ℕ
  runtime_uid : ℕ
  runtime_gid : ℕ
  phase : RestorePhase
  manifest : AtlasCoreBackupV3Manifest py
  manifest_digest : String
  operations : List RestoreOperation
  directories : List DirectoryState
  deriving DecidableEq

/-- `RestoreJournal.__post_init__` on values of the right types. -/
def JournalFields.postInit {py : Python} (journal : JournalFields py) : Except Error Unit := do
  demand (isTransactionId journal.transaction_id) (.journal "transaction ID is invalid")
  demand (isAbsolute journal.target_path) (.journal "journal target binding must be absolute")
  demand (0 < journal.target_inode) (.journal "journal target identity is invalid")
  demand (journal.manifest_digest = manifestDigest journal.manifest)
    (.journal "journal manifest digest is invalid")
  demand (journal.operations.map (·.path) = MANAGED_TRANSACTION_PATHS)
    (.journal "journal operation plan is not canonical")
  demand (journal.directories.map (·.path) = [.config, .secrets])
    (.journal "journal directory inventory is not canonical")
  demand (journal.operations.all fun operation =>
      operation.action = (planned journal.manifest operation.path).action)
    (.journal "journal operations contradict the manifest")
  demand (journal.operations.all fun operation =>
      operation.artifact = (planned journal.manifest operation.path).artifact)
    (.journal "journal artifact metadata contradicts the manifest")

/-- A journal that is consistent with its manifest. -/
structure RestoreJournal (py : Python) extends JournalFields py where
  valid : toJournalFields.postInit = .ok ()
  deriving DecidableEq

namespace RestoreJournal

variable {py : Python}

/-- The journal with the given values, when they are consistent. -/
def build (fields : JournalFields py) : Except Error (RestoreJournal py) :=
  match h : fields.postInit with
  | .ok () => .ok ⟨fields, h⟩
  | .error error => .error error

theorem build_of_valid {fields : JournalFields py} (h : fields.postInit = .ok ()) :
    build fields = .ok ⟨fields, h⟩ := by
  unfold build
  split
  · rfl
  · next hrefused =>
    rw [h] at hrefused
    cases hrefused

theorem build_of_refused {fields : JournalFields py} {error : Error}
    (h : fields.postInit = .error error) : build fields = .error error := by
  unfold build
  split
  · next hvalid =>
    rw [h] at hvalid
    cases hvalid
  · next hrefused =>
    rw [h] at hrefused
    cases hrefused
    rfl

@[simp] theorem build_self (journal : RestoreJournal py) :
    build journal.toJournalFields = .ok journal := build_of_valid journal.valid

/-- The fields of a journal. -/
def fieldNames : List String :=
  ["schema", "version", "transaction_id", "target_path", "target_device", "target_inode",
    "runtime_uid", "runtime_gid", "phase", "manifest", "manifest_digest", "operations",
    "directories"]

/-- `RestoreJournal.to_dict` -/
def toDict (journal : RestoreJournal py) : Json :=
  .obj [("schema", .str JOURNAL_SCHEMA), ("version", .int JOURNAL_VERSION),
    ("transaction_id", .str journal.transaction_id), ("target_path", .str journal.target_path),
    ("target_device", .int journal.target_device), ("target_inode", .int journal.target_inode),
    ("runtime_uid", .int journal.runtime_uid), ("runtime_gid", .int journal.runtime_gid),
    ("phase", .str (StrEnum.value journal.phase)), ("manifest", journal.manifest.toDict),
    ("manifest_digest", .str journal.manifest_digest),
    ("operations", .arr (journal.operations.map RestoreOperation.toDict)),
    ("directories", .arr (journal.directories.map DirectoryState.toDict))]

/-- An integer that is not negative and no boolean. -/
def readNatural (value : Json) : Option ℕ :=
  match value with
  | .int (.ofNat n) => some n
  | _ => none

@[simp] theorem readNatural_int (n : ℕ) : readNatural (.int n) = some n := rfl

/-- `RestoreJournal.from_dict`, with `__post_init__`. -/
def fromDict (py : Python) (value : Json) : Except Error (RestoreJournal py) := do
  let fields ← readObject value (.journal "restore journal fields are invalid")
  demand (sameKeys fields fieldNames) (.journal "restore journal fields are invalid")
  demand (fields.get "schema" = .str JOURNAL_SCHEMA &&
      equalsInt JOURNAL_VERSION (fields.get "version"))
    (.journal "restore journal identity is unsupported")
  let (raw_operations, raw_directories) ←
    match fields.get "operations", fields.get "directories" with
    | .arr operations, .arr directories => pure (operations, directories)
    | _, _ => .error (.journal "restore journal inventories are invalid")
  convertError (.journal "restore journal values are invalid") do
    let phase ← ofPython (readEnum RestorePhase (fields.get "phase"))
    let manifest ← ofPython (AtlasCoreBackupV3Manifest.fromDict py (fields.get "manifest"))
    let operations ← raw_operations.mapM RestoreOperation.fromDict
    let directories ← raw_directories.mapM DirectoryState.fromDict
    let transaction_id ← obtainOr (asStr? (fields.get "transaction_id"))
      (.builtin (.typeError "expected string or bytes-like object"))
    demand (isTransactionId transaction_id) (.journal "transaction ID is invalid")
    let target_path ← obtainOr (asStr? (fields.get "target_path"))
      (.builtin (.typeError "argument should be a str or an os.PathLike object"))
    demand (isAbsolute target_path) (.journal "journal target binding must be absolute")
    let identity := Error.journal "journal target identity is invalid"
    let target_device ← obtainOr (readNatural (fields.get "target_device")) identity
    let target_inode ← obtainOr (readNatural (fields.get "target_inode")) identity
    demand (0 < target_inode) identity
    let runtime := Error.builtin (.valueError "runtime UID and GID must be non-negative integers")
    let runtime_uid ← obtainOr (readNatural (fields.get "runtime_uid")) runtime
    let runtime_gid ← obtainOr (readNatural (fields.get "runtime_gid")) runtime
    let manifest_digest ← obtainOr (asStr? (fields.get "manifest_digest"))
      (.journal "journal manifest digest is invalid")
    build { transaction_id, target_path, target_device, target_inode, runtime_uid, runtime_gid,
            phase, manifest, manifest_digest, operations, directories }

/-- The checks that a journal has passed. -/
theorem checks (journal : RestoreJournal py) :
    isTransactionId journal.transaction_id = true ∧ isAbsolute journal.target_path = true ∧
      0 < journal.target_inode ∧ journal.manifest_digest = manifestDigest journal.manifest ∧
      journal.operations.map (·.path) = MANAGED_TRANSACTION_PATHS ∧
      journal.directories.map (·.path) = [.config, .secrets] ∧
      (∀ operation ∈ journal.operations,
        operation.action = (planned journal.manifest operation.path).action ∧
          operation.artifact = (planned journal.manifest operation.path).artifact) := by
  have h := journal.valid
  simp only [JournalFields.postInit, check_bind_eq_ok, demand_eq_ok, decide_eq_true_eq,
    List.all_eq_true] at h
  obtain ⟨hid, habsolute, hinode, hdigest, hpaths, hdirectories, hactions, hartifacts⟩ := h
  exact ⟨hid, habsolute, hinode, hdigest, hpaths, hdirectories, fun operation hmem =>
    ⟨hactions operation hmem, hartifacts operation hmem⟩⟩

/-- A journal that was written is read back. -/
theorem fromDict_toDict (journal : RestoreJournal py) :
    fromDict py journal.toDict = .ok journal := by
  obtain ⟨hid, habsolute, hinode, -⟩ := journal.checks
  have hoperations : (journal.operations.map RestoreOperation.toDict).mapM
      RestoreOperation.fromDict = .ok journal.operations :=
    mapM_map_eq_ok fun operation _ => operation.fromDict_toDict
  have hdirectories : (journal.directories.map DirectoryState.toDict).mapM
      DirectoryState.fromDict = .ok journal.directories :=
    mapM_map_eq_ok fun state _ => state.fromDict_toDict
  have hself : build journal.toJournalFields = .ok journal := journal.build_self
  simp [fromDict, toDict, fieldNames, sameKeys, Fields.keys, hoperations, hdirectories, hid,
    habsolute, hinode, AtlasCoreBackupV3Manifest.fromDict_toDict]
  rw [hself, convertError_ok]

/-- The journal in another phase. -/
def inPhase (journal : RestoreJournal py) (phase : RestorePhase) : RestoreJournal py :=
  ⟨{ journal.toJournalFields with phase }, journal.valid⟩

@[simp] theorem phase_inPhase (journal : RestoreJournal py) (phase : RestorePhase) :
    (journal.inPhase phase).phase = phase := rfl

@[simp] theorem inPhase_inPhase (journal : RestoreJournal py) (phase phase' : RestorePhase) :
    (journal.inPhase phase).inPhase phase' = journal.inPhase phase' := rfl

@[simp] theorem inPhase_phase (journal : RestoreJournal py) : journal.inPhase journal.phase = journal :=
  rfl

/-- The operation of a journal for a path. -/
theorem exists_operation (journal : RestoreJournal py) (path : TransactionPath) :
    ∃ operation ∈ journal.operations, operation.path = path := by
  have hmem : path ∈ journal.operations.map (·.path) := by
    rw [journal.checks.2.2.2.2.1]
    exact path.mem_paths
  exact List.mem_map.mp hmem

/-- A journal has one operation for each path. -/
theorem operation_unique (journal : RestoreJournal py) {first second : RestoreOperation}
    (hfirst : first ∈ journal.operations) (hsecond : second ∈ journal.operations)
    (hpath : first.path = second.path) : first = second := by
  have hnodup : (journal.operations.map (·.path)).Nodup := by
    rw [journal.checks.2.2.2.2.1]
    exact TransactionPath.nodup_paths
  exact List.inj_on_of_nodup_map hnodup hfirst hsecond hpath

end RestoreJournal

end AtlasOS.Restore
