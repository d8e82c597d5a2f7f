import AtlasOS.Lib.Crash
import AtlasOS.Restore.Journal

/-!
# The restore transaction

The engine moves the old files of the target into a private rollback area,
moves the staged files of the backup into their places, and records in a
journal how far it has come. Recovery reads the journal after a crash and
either moves the old files back or finishes the commit. A block of the source
that only reads the disk is one observation here: it may fail, and a crash
inside it leaves the disk as it was.
-/

namespace AtlasOS.Restore

open Crash (World Process)

/-- `TRANSACTION_NAMESPACE` -/
def TRANSACTION_NAMESPACE : String := ".atlas-restore"

/-- `JOURNAL_NAME` -/
def JOURNAL_NAME : String := "journal.json"

/-- `PRIVATE_DIRECTORY_MODE` -/
def PRIVATE_DIRECTORY_MODE : Fin 0o1000 := 0o700

/-- `_namespace(target)` -/
def NAMESPACE : Parts := [TRANSACTION_NAMESPACE]

/-- `namespace / JOURNAL_NAME` -/
def JOURNAL_PATH : Parts := NAMESPACE ++ [JOURNAL_NAME]

/-- `namespace / f".{JOURNAL_NAME}.tmp"` -/
def TEMPORARY_PATH : Parts := NAMESPACE ++ ["." ++ JOURNAL_NAME ++ ".tmp"]

/-- The recursion limit of the interpreter. -/
def RECURSION_LIMIT : ℕ := 1000

/-! ## The world around the engine -/

/-- What the libraries and the backup tool compute of the content of files. -/
structure Storage (Bytes : Type) where
  /-- The number of bytes. -/
  size : Bytes → ℕ
  /-- `sha256(content).hexdigest()` -/
  sha256 : Bytes → String
  /-- The content of a file that was just created. -/
  empty : Bytes
  /-- The contents a file goes through while its content is written. -/
  drafts : Bytes → List Bytes
  /-- `json.dump(value, stream, sort_keys=True, separators=(",", ":"))` and a newline. -/
  document : Json → Bytes
  /-- `json.loads` of the decoded content. -/
  loads : Bytes → Option Json
  /-- `integrity` of the backup tool. -/
  integrity : Bytes → Except Error String
  /-- `validate_sqlite_application`: the database, its path, the policy file and the expected
  import. -/
  validateSqliteApplication :
    Bytes → ManagedPath → Option Bytes → Option String → Except Error Unit
  /-- `validate_runtime_file` -/
  validateRuntimeFile : Bytes → ManagedPath → Fin 0o1000 → Except Error Unit
  /-- A digest is 64 lower-case hexadecimal digits. -/
  sha256_isHexDigest : ∀ content, isHexDigest (sha256 content) = true
  /-- A document that was written parses to its value. -/
  loads_document : ∀ value, loads (document value) = some value

/-- The directory into which a backup is restored, and what its path says about it. -/
structure Target where
  /-- `str(target.absolute())` -/
  path : String
  device : ℕ
  inode : ℕ
  is_dir : Bool
  is_symlink : Bool
  /-- `target.resolve(strict=True) == target` -/
  canonical : Bool
  /-- An absolute path starts with a slash. -/
  absolute : isAbsolute path = true
  /-- An inode number is positive. -/
  inode_pos : 0 < inode

/-- The libraries and the target, which stay the same from one process to the next. -/
structure Machine (Bytes : Type) where
  py : Python
  storage : Storage Bytes
  target : Target

/-- The calls of the engine. -/
inductive Call where
  /-- A block that only reads. -/
  | observe
  | mkdir (path : Parts)
  | create (path : Parts)
  | write (path : Parts)
  | chmod (path : Parts)
  | chown (path : Parts)
  | replace (source target : Parts)
  | unlink (path : Parts)
  | rmdir (path : Parts)
  /-- A call of the failure hook. -/
  | hook (event : String) (index : Option ℕ)
  deriving DecidableEq

/-- What a process meets: the calls that fail, the failure hook, the order in which
directories are listed, and the metadata of what it creates. -/
structure Host (Bytes : Type) where
  /-- Whether a call of the file system fails. -/
  fails : World Call (Disk Bytes) → Call → Bool
  /-- What the failure hook raises. -/
  hook : World Call (Disk Bytes) → String → Option ℕ → Option Error
  /-- The order of `os.scandir`. -/
  scandir : List String → List String
  /-- The metadata of a new entry, by the mode asked for. -/
  fresh : Fin 0o1000 → Metadata
  /-- `os.scandir` lists every name once. -/
  scandir_perm : ∀ names, (scandir names).Perm names

/-- A script of the engine. -/
abbrev Script (Bytes α : Type) := Process Call (Disk Bytes) Error α

variable {Bytes α : Type}

/-- `OSError` -/
def osError : Error := .builtin .osError

/-- The error of a call of the file system, when it fails. -/
def Host.fault (host : Host Bytes) (call : Call) (w : World Call (Disk Bytes)) : Option Error :=
  if host.fails w call then some osError else none

/-- Read the disk. -/
def observe (host : Host Bytes) (f : Disk Bytes → Except Error α) : Script Bytes α :=
  .perform (host.fault .observe) .observe fun d => (f d).map (·, d)

/-- Change the disk by one call. -/
def change (host : Host Bytes) (call : Call) (f : Disk Bytes → Option (Disk Bytes)) :
    Script Bytes Unit :=
  .perform (host.fault call) call fun d => (obtainOr (f d) osError).map ((), ·)

/-- `_emit` -/
def emit (host : Host Bytes) (event : String) (index : Option ℕ) : Script Bytes Unit :=
  .perform (fun w => host.hook w event index) (.hook event index) fun d => .ok ((), d)

/-- A computation that does not touch the disk. -/
def compute : Except Error α → Script Bytes α
  | .ok a => pure a
  | .error e => .raise e

/-! ## Checks -/

/-- A path of the target as it is shown in messages. -/
def Target.display (target : Target) (path : Parts) : String :=
  "/".intercalate (target.path :: path)

/-- `_validate_target_root` -/
def validateTargetRoot (target : Target) : Except Error Unit := do
  demand (target.is_dir && !target.is_symlink)
    (.transaction "restore target must be a real directory")
  demand target.canonical (.transaction "restore target path cannot traverse a symlink")

/-- `_assert_private_directory` -/
def assertPrivateDirectory (target : Target) (path : Parts) (owner : Option (ℕ × ℕ))
    (d : Disk Bytes) : Except Error Unit :=
  demand ((d.directoryAt path).any fun metadata => metadata.mode = PRIVATE_DIRECTORY_MODE &&
      owner.all fun owner => metadata.uid = owner.1 && metadata.gid = owner.2)
    (.transaction ("restore transaction directory is unsafe: " ++ target.display path))

/-- `_assert_regular_file`, with the content and the metadata that are read afterwards. -/
def assertRegularFile (path : Parts) (label : String) (d : Disk Bytes) :
    Except Error (Bytes × Metadata) :=
  match d.node path with
  | none => .error (.transaction ("managed file is missing: " ++ label))
  | some (.file content metadata nlink) =>
      if nlink = 1 then .ok (content, metadata)
      else .error (.transaction ("managed path has unexpected hard links: " ++ label))
  | _ => .error (.transaction ("managed path is not a regular file: " ++ label))

/-- `_safe_descendant` -/
def safeDescendant (root relative : Parts) (d : Disk Bytes) : Except Error Unit := do
  demand (!d.isSymlink root) (.transaction "filesystem root cannot be a symlink")
  demand (relative.dropLast.inits.all fun front => front.isEmpty || !d.isSymlink (root ++ front))
    (.transaction "filesystem path traverses a symlink")

/-- `_safe_target_path` -/
def safeTargetPath (relative : Parts) (d : Disk Bytes) : Except Error Unit :=
  safeDescendant [] relative d

/-- `_capture_file_state` -/
def captureFileState (storage : Storage Bytes) (path : TransactionPath) (d : Disk Bytes) :
    Except Error FileState := do
  safeTargetPath path.parts d
  if d.isPresent path.parts then
    let (content, metadata) ← assertRegularFile path.parts path.name d
    return some ⟨storage.sha256 content, storage.size content, metadata,
      storage.sha256_isHexDigest content⟩
  else return none

/-- The path of a managed directory. -/
def ManagedDirectory.parts (directory : ManagedDirectory) : Parts := [StrEnum.value directory]

/-- `_capture_directory_state` -/
def captureDirectoryState (directory : ManagedDirectory) (d : Disk Bytes) :
    Except Error DirectoryState := do
  safeTargetPath directory.parts d
  match d.node directory.parts with
  | none => return ⟨directory, none⟩
  | some (.directory metadata) => return ⟨directory, some metadata⟩
  | _ => .error (.transaction
      ("managed parent directory is unsafe: " ++ StrEnum.value directory))

/-- `_verify_file_state` -/
def verifyFileState (storage : Storage Bytes) (path : Parts) (expected : FileState)
    (label : String) (d : Disk Bytes) : Except Error Unit :=
  match expected with
  | none =>
      demand (!d.isPresent path) (.recoveryRequired ("rollback absence mismatch: " ++ label))
  | some file => do
      let (content, metadata) ← assertRegularFile path label d
      demand (storage.size content = file.size && metadata = file.metadata &&
          storage.sha256 content = file.sha256)
        (.recoveryRequired ("rollback file mismatch: " ++ label))

/-- The files that `_validate_transaction_contents` allows, relative to the transaction. -/
def allowedFiles (operations : List RestoreOperation) : List Parts :=
  ["stage", "rollback"].flatMap fun area => operations.map fun operation =>
    area :: operation.path.parts

/-- The directories that `_validate_transaction_contents` allows. -/
def allowedDirectories (operations : List RestoreOperation) : List Parts :=
  [["stage"], ["rollback"]] ++ (allowedFiles operations).flatMap fun file =>
    file.inits.filter fun front => !front.isEmpty && front ≠ file

/-- `_validate_transaction_contents` -/
def validateTransactionContents (transaction : Parts) (operations : List RestoreOperation)
    (d : Disk Bytes) : Except Error Unit :=
  (d.below transaction).forM fun (path, node) =>
    let relative := path.drop transaction.length
    let unexpected := Error.journal "restore transaction contains unexpected evidence"
    match node with
    | .directory _ => demand (relative ∈ allowedDirectories operations) unexpected
    | .file .. => demand (relative ∈ allowedFiles operations) unexpected
    | _ => .error (.journal "restore transaction contains an unsafe object")

/-- `_load_journal` -/
def loadJournal (machine : Machine Bytes) (d : Disk Bytes) :
    Except Error (RestoreJournal machine.py) := do
  assertPrivateDirectory machine.target NAMESPACE none d
  let (content, metadata) ←
    match d.node JOURNAL_PATH with
    | some (.file content metadata _) => pure (content, metadata)
    | _ => .error (.journal "restore journal path is unsafe")
  let value ← obtainOr (machine.storage.loads content)
    (.journal "restore journal cannot be decoded")
  let journal ← RestoreJournal.fromDict machine.py value
  demand (metadata = ⟨PRIVATE_FILE_MODE, journal.runtime_uid, journal.runtime_gid⟩)
    (.journal "restore journal ownership or mode is invalid")
  demand (machine.target.path = journal.target_path &&
      machine.target.device = journal.target_device &&
      machine.target.inode = journal.target_inode)
    (.journal "restore journal target binding is invalid")
  safeDescendant NAMESPACE [journal.transaction_id] d
  let owner := some (journal.runtime_uid, journal.runtime_gid)
  assertPrivateDirectory machine.target NAMESPACE owner d
  let transaction := NAMESPACE ++ [journal.transaction_id]
  if d.isPresent transaction then
    assertPrivateDirectory machine.target transaction owner d
  else
    demand (journal.phase = .committed) (.journal "restore transaction directory is missing")
  if d.existsAt transaction then
    validateTransactionContents transaction journal.operations d
  return journal

/-- The content that the validators find at the path of the policies below a directory. -/
def policyContent (root : Parts) (d : Disk Bytes) : Option Bytes :=
  match d.node (root ++ (TransactionPath.main .policies).parts) with
  | some (.file content _ _) => some content
  | _ => none

/-- The validation of a file of the new generation by the backup tool. -/
def validateContent (storage : Storage Bytes) (path : ManagedPath) (kind : ContentKind)
    (content : Bytes) (policy : Option Bytes) (expected : Option String) (message : String) :
    Except Error Unit :=
  match kind with
  | .sqlite => do
      let result ← storage.integrity content
      demand (result = "ok") (.transaction message)
      storage.validateSqliteApplication content path policy expected
  | .yaml => storage.validateRuntimeFile content path PRIVATE_FILE_MODE

/-- The check that `verify_v3_target` makes of one operation. -/
def verifyInstalled (machine : Machine Bytes) (manifest : AtlasCoreBackupV3Manifest machine.py)
    (uid gid : ℕ) (expected : Option String) (d : Disk Bytes) (operation : PlannedOperation) :
    Except Error Unit := do
  let storage := machine.storage
  let label := operation.path.value
  safeTargetPath operation.path.parts d
  match operation.action, operation.path with
  | .install, .main path =>
      let (content, metadata) ←
        match d.node operation.path.parts with
        | some (.file content metadata _) => pure (content, metadata)
        | _ => .error (.transaction ("managed target artifact is invalid: " ++ label))
      demand (metadata = ⟨PRIVATE_FILE_MODE, uid, gid⟩ && operation.artifact.any fun artifact =>
          storage.size content = artifact.size && storage.sha256 content = artifact.sha256)
        (.transaction ("managed target metadata is invalid: " ++ label))
      let entry ← obtainOr (manifest.entry path) (.builtin (.keyError label))
      validateContent storage path entry.content_kind content (policyContent [] d) expected
        ("managed target SQLite integrity failed: " ++ label)
  | .install, .side .. => .error (.builtin (.keyError label))
  | .absent, _ =>
      demand (!d.isPresent operation.path.parts)
        (.transaction ("managed target path must be absent: " ++ label))

/-- `verify_v3_target` -/
def verifyV3Target (machine : Machine Bytes) (manifest : AtlasCoreBackupV3Manifest machine.py)
    (uid gid : ℕ) (active_transaction_id : Option String)
    (expected_legacy_import_id : Option String) (d : Disk Bytes) : Except Error Unit := do
  demand (manifest.provider_intent_activation ≠ .activated || expected_legacy_import_id.isSome)
    (.transaction "activated target verification requires an expected import ID")
  validateTargetRoot machine.target
  if d.isPresent JOURNAL_PATH then
    let journal ← loadJournal machine d
    demand (active_transaction_id = some journal.transaction_id)
      (.transaction "target has unresolved restore state")
  else if d.isPresent NAMESPACE then
    assertPrivateDirectory machine.target NAMESPACE (some (uid, gid)) d
    demand (d.children NAMESPACE).isEmpty (.transaction "target has unjournaled restore state")
  [ManagedDirectory.config, .secrets].forM fun directory => do
    safeTargetPath directory.parts d
    demand (d.directoryAt directory.parts = some ⟨PRIVATE_DIRECTORY_MODE, uid, gid⟩)
      (.transaction ("managed target directory is invalid: " ++ StrEnum.value directory))
  (buildRestorePlan manifest).forM (verifyInstalled machine manifest uid gid
    expected_legacy_import_id d)

/-! ## Scripts -/

/-- `_fsync_file` -/
def fsyncFile (host : Host Bytes) (path : Parts) : Script Bytes Unit :=
  observe host fun d => demand (d.existsAt path) osError

/-- `_fsync_directory` -/
def fsyncDirectory (host : Host Bytes) (path : Parts) : Script Bytes Unit :=
  observe host fun d => demand (d.isDir path) osError

/-- `os.chmod(path, mode)` -/
def chmod (host : Host Bytes) (path : Parts) (mode : Fin 0o1000) : Script Bytes Unit :=
  change host (.chmod path) fun d => d.setMetadata path fun metadata => { metadata with mode }

/-- `os.chown(path, uid, gid)` -/
def chown (host : Host Bytes) (path : Parts) (uid gid : ℕ) : Script Bytes Unit :=
  change host (.chown path) fun d => d.setMetadata path fun metadata => { metadata with uid, gid }

/-- Create a file and write its content, in the pieces that a crash can cut off. -/
def writeFile (host : Host Bytes) (storage : Storage Bytes) (path : Parts) (content : Bytes) :
    Script Bytes Unit :=
  (storage.drafts content ++ [content]).forM fun draft =>
    change host (.write path) (·.write path draft)

/-- `_create_private_directory` -/
def createPrivateDirectory (host : Host Bytes) (target : Target) (path : Parts) (uid gid : ℕ) :
    Script Bytes Unit := do
  let present ← observe host fun d => do
    if d.isPresent path then assertPrivateDirectory target path (some (uid, gid)) d
    return d.isPresent path
  if !present then
    change host (.mkdir path) (·.add path (.directory (host.fresh PRIVATE_DIRECTORY_MODE)))
    chmod host path PRIVATE_DIRECTORY_MODE
    chown host path uid gid
    fsyncDirectory host path.dropLast

/-- `_ensure_private_parents`, for a parent given by its parts below the root. -/
def ensurePrivateParents (host : Host Bytes) (target : Target) (uid gid : ℕ) :
    Parts → Parts → Script Bytes Unit
  | _, [] => pure ()
  | root, part :: parent => do
      createPrivateDirectory host target (root ++ [part]) uid gid
      ensurePrivateParents host target uid gid (root ++ [part]) parent

/-- `_ensure_target_parents`, for a parent given by its parts below the root. -/
def ensureTargetParents (host : Host Bytes) (target : Target) (uid gid : ℕ) :
    Parts → Parts → Script Bytes Unit
  | _, [] => pure ()
  | root, part :: parent => do
      let current := root ++ [part]
      let present ← observe host fun d => do
        demand (!d.isPresent current || (d.directoryAt current).isSome)
          (.transaction "managed target parent is unsafe")
        return d.isPresent current
      if !present then createPrivateDirectory host target current uid gid
      chmod host current PRIVATE_DIRECTORY_MODE
      chown host current uid gid
      fsyncDirectory host current
      fsyncDirectory host root
      ensureTargetParents host target uid gid current parent

/-- `_unlink_regular` -/
def unlinkRegular (host : Host Bytes) (path : Parts) (label : String) : Script Bytes Unit := do
  let _ ← observe host (assertRegularFile path label)
  change host (.unlink path) (·.unlink path)

/-- What `_remove_tree` does about an entry of a directory: whether it is a directory. -/
def classifyEntry (path : Parts) (d : Disk Bytes) : Except Error Bool :=
  match d.node path with
  | some (.directory _) => .ok true
  | some (.file ..) => .ok false
  | some (.symlink _) => .error (.transaction "restore cleanup encountered a symlink")
  | _ => .error (.transaction "restore cleanup encountered a special file")

/-- The names that `_remove_tree` visits; `none` when there is no directory to remove. -/
def listTree (host : Host Bytes) (path : Parts) (d : Disk Bytes) :
    Except Error (Option (List String)) :=
  match d.node path with
  | none => .ok none
  | some (.directory _) => .ok (some (host.scandir (d.children path)))
  | _ => .error (.transaction "restore cleanup path is unsafe")

/-- `_remove_tree` -/
def removeTree (host : Host Bytes) : ℕ → Parts → Script Bytes Unit
  | 0, _ => .raise (.runtime "maximum recursion depth exceeded")
  | depth + 1, path => do
      match ← observe host (listTree host path) with
      | none => pure ()
      | some names =>
          names.forM fun name => do
            let directory ← observe host (classifyEntry (path ++ [name]))
            if directory then removeTree host depth (path ++ [name])
            else change host (.unlink (path ++ [name])) (·.unlink (path ++ [name]))
          change host (.rmdir path) (·.rmdir path)
          fsyncDirectory host path.dropLast

/-- `_cleanup_unjournaled_transaction` -/
def cleanupUnjournaledTransaction (host : Host Bytes) (transaction : Parts) :
    Script Bytes Unit := do
  let present ← observe host fun d => return d.existsAt transaction
  if present then removeTree host RECURSION_LIMIT transaction
  let removable ← observe host fun d =>
    return (d.directoryAt NAMESPACE).isSome && (d.children NAMESPACE).isEmpty
  if removable then
    change host (.rmdir NAMESPACE) (·.rmdir NAMESPACE)
    fsyncDirectory host []

section

variable (machine : Machine Bytes) (host : Host Bytes)

/-- The clean-up of `_write_journal`. -/
def removeTemporary : Script Bytes Unit := do
  let left ← observe host fun d => return d.existsAt TEMPORARY_PATH
  if left then change host (.unlink TEMPORARY_PATH) (·.unlink TEMPORARY_PATH)

/-- `_write_journal` -/
def writeJournal (journal : RestoreJournal machine.py) : Script Bytes Unit := do
  observe host fun d => do
    assertPrivateDirectory machine.target NAMESPACE none d
    demand (!d.isPresent TEMPORARY_PATH)
      (.journal "unexpected restore journal temporary file")
  change host (.create TEMPORARY_PATH)
    (·.add TEMPORARY_PATH (.file machine.storage.empty (host.fresh PRIVATE_FILE_MODE) 1))
  Process.ensure (do
      chmod host TEMPORARY_PATH PRIVATE_FILE_MODE
      chown host TEMPORARY_PATH journal.runtime_uid journal.runtime_gid
      writeFile host machine.storage TEMPORARY_PATH (machine.storage.document journal.toDict)
      fsyncFile host TEMPORARY_PATH
      change host (.replace TEMPORARY_PATH JOURNAL_PATH) (·.replace TEMPORARY_PATH JOURNAL_PATH)
      fsyncDirectory host NAMESPACE)
    (removeTemporary host)

/-- `_transition` -/
def transition (journal : RestoreJournal machine.py) (phase : RestorePhase) :
    Script Bytes (RestoreJournal machine.py) := do
  compute (demand (journal.phase.next = some phase)
    (.journal "restore journal phase transition is invalid"))
  let changed := journal.inPhase phase
  writeJournal machine host changed
  return changed

/-- `_quarantine` -/
def quarantine (rollback : Parts) (journal : RestoreJournal machine.py) : Script Bytes Unit :=
  journal.operations.zipIdx.forM fun (operation, index) => do
    let final := operation.path.parts
    let label := operation.path.value
    observe host (safeTargetPath final)
    if operation.original.isSome then
      observe host fun d => do
        verifyFileState machine.storage final operation.original label d
        safeDescendant rollback final d
      let rollback_path := rollback ++ final
      ensurePrivateParents host machine.target journal.runtime_uid journal.runtime_gid rollback
        final.dropLast
      change host (.replace final rollback_path) (·.replace final rollback_path)
      fsyncDirectory host final.dropLast
      fsyncDirectory host rollback_path.dropLast
      observe host (verifyFileState machine.storage rollback_path operation.original label)
      emit host "quarantine_artifact" (some index)

/-- `_install` -/
def install (stage : Parts) (journal : RestoreJournal machine.py) : Script Bytes Unit :=
  (journal.operations.filter (·.action = .install)).zipIdx.forM fun (operation, index) => do
    let final := operation.path.parts
    let label := operation.path.value
    let source := stage ++ final
    observe host fun d => do
      safeDescendant stage final d
      safeTargetPath final d
    ensureTargetParents host machine.target journal.runtime_uid journal.runtime_gid []
      final.dropLast
    observe host fun d => do
      let _ ← assertRegularFile source label d
      demand (!d.isPresent final)
        (.transaction ("managed target was not quarantined: " ++ label))
    change host (.replace source final) (·.replace source final)
    fsyncDirectory host source.dropLast
    fsyncDirectory host final.dropLast
    emit host "installation_artifact" (some index)

/-- What `_restore_directory_absence` does about one directory. -/
def restoreDirectory (state : DirectoryState) : Script Bytes Unit := do
  let path := state.path.parts
  let name : String := StrEnum.value state.path
  observe host (safeTargetPath path)
  match state.metadata with
  | some metadata =>
      observe host fun d => demand (d.directoryAt path).isSome
        (.recoveryRequired ("rollback directory mismatch: " ++ name))
      chmod host path metadata.mode
      chown host path metadata.uid metadata.gid
      fsyncDirectory host path
      fsyncDirectory host path.dropLast
      observe host fun d => demand (d.directoryAt path = some metadata)
        (.recoveryRequired ("rollback directory metadata mismatch: " ++ name))
  | none =>
      let present ← observe host fun d => return d.existsAt path
      if present then
        (change host (.rmdir path) (·.rmdir path)).handle fun _ =>
          .raise (.recoveryRequired ("new restore directory is not empty: " ++ name))
        fsyncDirectory host path.dropLast

/-- `_restore_directory_absence` -/
def restoreDirectoryAbsence (directories : List DirectoryState) : Script Bytes Unit :=
  directories.reverse.forM (restoreDirectory host)

/-- `_remove_transaction_evidence` -/
def removeTransactionEvidence (journal : RestoreJournal machine.py) : Script Bytes Unit := do
  observe host (safeDescendant NAMESPACE [journal.transaction_id])
  removeTree host RECURSION_LIMIT (NAMESPACE ++ [journal.transaction_id])
  fsyncDirectory host NAMESPACE
  let written ← observe host fun d => return d.existsAt JOURNAL_PATH
  if written then
    change host (.unlink JOURNAL_PATH) (·.unlink JOURNAL_PATH)
    fsyncDirectory host NAMESPACE
  let removable ← observe host fun d =>
    return d.existsAt NAMESPACE && (d.children NAMESPACE).isEmpty
  if removable then
    change host (.rmdir NAMESPACE) (·.rmdir NAMESPACE)
    fsyncDirectory host []

/-- What `_rollback` does about one operation. -/
def rollbackOperation (rollback : Parts) (operation : RestoreOperation) : Script Bytes Unit := do
  let final := operation.path.parts
  let label := operation.path.value
  let rollback_path := rollback ++ final
  observe host fun d => do
    safeTargetPath final d
    safeDescendant rollback final d
  match operation.original with
  | some file =>
      let quarantined ← observe host fun d => return d.isPresent rollback_path
      if quarantined then
        let _ ← observe host (assertRegularFile rollback_path label)
        let present ← observe host fun d => return d.isPresent final
        if present then unlinkRegular host final label
        ensureTargetParents host machine.target file.metadata.uid file.metadata.gid []
          final.dropLast
        change host (.replace rollback_path final) (·.replace rollback_path final)
        chmod host final file.metadata.mode
        chown host final file.metadata.uid file.metadata.gid
        fsyncFile host final
        fsyncDirectory host final.dropLast
      else observe host (verifyFileState machine.storage final operation.original label)
  | none =>
      let present ← observe host fun d => return d.isPresent final
      if present then
        unlinkRegular host final label
        fsyncDirectory host final.dropLast

/-- `_rollback` -/
def rollback (journal : RestoreJournal machine.py) : Script Bytes Unit := do
  journal.operations.reverse.forM
    (rollbackOperation machine host (NAMESPACE ++ [journal.transaction_id, "rollback"]))
  restoreDirectoryAbsence host journal.directories
  journal.operations.forM fun operation => observe host fun d => do
    safeTargetPath operation.path.parts d
    verifyFileState machine.storage operation.path.parts operation.original
      operation.path.value d
  removeTransactionEvidence machine host journal

/-- `_cleanup_committed` -/
def cleanupCommitted (journal : RestoreJournal machine.py)
    (expected_legacy_import_id : Option String) : Script Bytes Unit := do
  compute (demand (journal.phase = .committed)
    (.transaction "only committed restore state can be finalized"))
  observe host (verifyV3Target machine journal.manifest journal.runtime_uid journal.runtime_gid
    (some journal.transaction_id) expected_legacy_import_id)
  removeTransactionEvidence machine host journal

/-! ## Execution -/

/-- A backup: what its verification says and the regular files in it. -/
structure Backup (Bytes : Type) where
  /-- `verify_backup`, which returns the manifest or raises. -/
  verify : Option String → Except Error Json
  /-- The content of the file at a managed path, when it is a regular file. -/
  artifact : ManagedPath → Option Bytes

/-- The check that `_stage` makes of a copied file. -/
def verifyStaged (manifest : AtlasCoreBackupV3Manifest machine.py) (stage : Parts)
    (operation : PlannedOperation) (path : ManagedPath) (d : Disk Bytes) : Except Error Unit := do
  let storage := machine.storage
  let label := operation.path.value
  let (content, _) ← assertRegularFile (stage ++ operation.path.parts) label d
  demand (operation.artifact.any fun artifact =>
      storage.size content = artifact.size && storage.sha256 content = artifact.sha256)
    (.transaction ("staged artifact mismatch: " ++ label))
  let entry ← obtainOr (manifest.entry path) (.builtin (.keyError label))
  validateContent storage path entry.content_kind content (policyContent stage d) none
    ("staged SQLite integrity failed: " ++ label)

/-- What `_stage` does about one operation. -/
def stageOperation (backup : Backup Bytes) (stage : Parts)
    (manifest : AtlasCoreBackupV3Manifest machine.py) (uid gid : ℕ)
    (operation : PlannedOperation) : Script Bytes Unit := do
  let label := operation.path.value
  let destination := stage ++ operation.path.parts
  let path ←
    match operation.path with
    | .main path => pure path
    | .side .. => Process.raise (.journal "journal path is unsafe or unmanaged")
  observe host (safeDescendant stage operation.path.parts)
  ensurePrivateParents host machine.target uid gid stage operation.path.parts.dropLast
  let content ← observe host fun d => do
    let content ← obtainOr (backup.artifact path)
      (.transaction ("backup artifact is unsafe: " ++ label))
    demand (!d.isPresent destination)
      (.transaction ("staged artifact path already exists: " ++ label))
    return content
  change host (.create destination)
    (·.add destination (.file machine.storage.empty (host.fresh 0o666) 1))
  writeFile host machine.storage destination content
  chmod host destination PRIVATE_FILE_MODE
  chown host destination uid gid
  fsyncFile host destination
  observe host (verifyStaged machine manifest stage operation path)
  fsyncDirectory host destination.dropLast

/-- `_stage` -/
def stageArtifacts (backup : Backup Bytes) (stage : Parts)
    (manifest : AtlasCoreBackupV3Manifest machine.py) (uid gid : ℕ) : Script Bytes Unit :=
  ((buildRestorePlan manifest).filter (·.action = .install)).zipIdx.forM
    fun (operation, index) => do
      stageOperation machine host backup stage manifest uid gid operation
      emit host "staging_artifact" (some index)

/-- The operation that `execute_v3_restore` records for a planned one. -/
def recordOperation (d : Disk Bytes) (operation : PlannedOperation) :
    Except Error RestoreOperation := do
  let original ← captureFileState machine.storage operation.path d
  RestoreOperation.build operation.path operation.action operation.artifact original

/-- The journal of a restore that is about to begin. -/
def prepareJournal (manifest : AtlasCoreBackupV3Manifest machine.py) (uid gid : ℕ)
    (transaction_id : String) (d : Disk Bytes) : Except Error (RestoreJournal machine.py) := do
  let operations ← (buildRestorePlan manifest).mapM (recordOperation machine d)
  let directories ← [ManagedDirectory.config, .secrets].mapM (captureDirectoryState · d)
  RestoreJournal.build
    { transaction_id, target_path := machine.target.path, target_device := machine.target.device,
      target_inode := machine.target.inode, runtime_uid := uid, runtime_gid := gid,
      phase := .prepared, manifest, manifest_digest := manifestDigest manifest, operations,
      directories }

/-- The arguments of `execute_v3_restore`, and the identifier that `uuid4().hex` gives. -/
structure Request (Bytes : Type) where
  backup : Backup Bytes
  runtime_uid : ℕ
  runtime_gid : ℕ
  transaction_id : Option String
  expected_legacy_import_id : Option String
  uuid : String

/-- `transaction_id or uuid4().hex` -/
def Request.transactionId (request : Request Bytes) : String :=
  match request.transaction_id with
  | some text => if text = "" then request.uuid else text
  | none => request.uuid

/-- The checks of `execute_v3_restore` before it changes the disk, with the manifest. -/
def admitRestore (request : Request Bytes) (d : Disk Bytes) :
    Except Error (AtlasCoreBackupV3Manifest machine.py) := do
  let manifest_data ← request.backup.verify request.expected_legacy_import_id
  let manifest ← ofPython (AtlasCoreBackupV3Manifest.fromDict machine.py manifest_data)
  validateTargetRoot machine.target
  demand (!d.isPresent JOURNAL_PATH)
    (.recoveryRequired "an unresolved restore journal exists")
  if d.isPresent NAMESPACE then
    assertPrivateDirectory machine.target NAMESPACE
      (some (request.runtime_uid, request.runtime_gid)) d
    demand (d.children NAMESPACE).isEmpty
      (.recoveryRequired "restore namespace contains unjournaled transaction evidence")
  demand (isTransactionId request.transactionId) (.transaction "transaction ID is invalid")
  demand (!d.isPresent (NAMESPACE ++ [request.transactionId]))
    (.recoveryRequired "restore transaction path already exists")
  return manifest

/-- The steps of `execute_v3_restore` up to the first journal. -/
def stageTransaction (request : Request Bytes) (manifest : AtlasCoreBackupV3Manifest machine.py) :
    Script Bytes (RestoreJournal machine.py) := do
  let uid := request.runtime_uid
  let gid := request.runtime_gid
  let transaction := NAMESPACE ++ [request.transactionId]
  createPrivateDirectory host machine.target NAMESPACE uid gid
  createPrivateDirectory host machine.target transaction uid gid
  createPrivateDirectory host machine.target (transaction ++ ["stage"]) uid gid
  createPrivateDirectory host machine.target (transaction ++ ["rollback"]) uid gid
  stageArtifacts machine host request.backup (transaction ++ ["stage"]) manifest uid gid
  let journal ← observe host (prepareJournal machine manifest uid gid request.transactionId)
  writeJournal machine host journal
  return journal

/-- The first `try` block of `execute_v3_restore`, with its handler. -/
def prepare (request : Request Bytes) (manifest : AtlasCoreBackupV3Manifest machine.py) :
    Script Bytes (RestoreJournal machine.py) :=
  (stageTransaction machine host request manifest).handle fun error => do
    let written ← observe host fun d => return d.existsAt JOURNAL_PATH
    if !written then
      cleanupUnjournaledTransaction host (NAMESPACE ++ [request.transactionId])
    Process.raise error

/-- A script whose errors carry the value that `journal` has when they are raised. -/
def during {α : Type} (journal : RestoreJournal machine.py) (script : Script Bytes α) :
    Process Call (Disk Bytes) (Error × RestoreJournal machine.py) α :=
  Process.handle script fun error => .raise (error, journal)

/-- The second `try` block of `execute_v3_restore`. -/
def proceed (request : Request Bytes) (journal : RestoreJournal machine.py) :
    Process Call (Disk Bytes) (Error × RestoreJournal machine.py)
      (RestoreJournal machine.py) := do
  let transaction := NAMESPACE ++ [request.transactionId]
  let journal ← during machine journal do
    emit host "prepared_journal_fsynced" none
    quarantine machine host (transaction ++ ["rollback"]) journal
    transition machine host journal .oldGenerationQuarantined
  let journal ← during machine journal do
    emit host "quarantine_completed" none
    install machine host (transaction ++ ["stage"]) journal
    transition machine host journal .newGenerationInstalled
  let journal ← during machine journal do
    emit host "installation_completed" none
    emit host "target_verification_begins" none
    observe host (verifyV3Target machine journal.manifest request.runtime_uid request.runtime_gid
      (some request.transactionId) request.expected_legacy_import_id)
    transition machine host journal .targetVerified
  let journal ← during machine journal do
    emit host "target_verified_journal_fsynced" none
    transition machine host journal .committed
  during machine journal (emit host "committed_journal_fsynced" none)
  return journal

/-- The handler of the second `try` block of `execute_v3_restore`. -/
def abandon (error : Error) (journal : RestoreJournal machine.py) :
    Script Bytes (RestoreJournal machine.py) :=
  if error.isException then
    if journal.phase = .committed then
      .raise (.transaction "v3 restore committed but cleanup/finalization is incomplete")
    else do
      (rollback machine host journal).handle fun rollback_error =>
        if rollback_error.isException then
          .raise (.recoveryRequired "restore failed and exact rollback could not be proven")
        else .raise rollback_error
      Process.raise (.transaction "v3 restore transaction rolled back")
  else .raise error

/-- The steps of `execute_v3_restore` before any rollback. -/
def forward (request : Request Bytes) :
    Process Call (Disk Bytes) (Error × Option (RestoreJournal machine.py))
      (RestoreJournal machine.py) := do
  let manifest ← Process.handle (observe host (admitRestore machine request)) fun error =>
    .raise (error, none)
  let journal ← Process.handle (prepare machine host request manifest) fun error =>
    .raise (error, none)
  Process.handle (proceed machine host request journal) fun (error, journal) =>
    .raise (error, some journal)

/-- `execute_v3_restore` -/
def execute (request : Request Bytes) : Script Bytes Unit := do
  let journal ← Process.handle (forward machine host request) fun (error, journal) =>
    match journal with
    | some journal => abandon machine host error journal
    | none => .raise error
  emit host "cleanup_begins" none
  cleanupCommitted machine host journal request.expected_legacy_import_id

/-- `recover_v3_restore` -/
def recover (expected_legacy_import_id : Option String) : Script Bytes String := do
  let pending ← observe host fun d => do
    validateTargetRoot machine.target
    if d.isPresent JOURNAL_PATH then
      let journal ← loadJournal machine d
      return some journal
    else
      demand (!d.isPresent NAMESPACE ||
          (d.directoryAt NAMESPACE).isSome && (d.children NAMESPACE).isEmpty)
        (.recoveryRequired "restore namespace contains evidence without a journal")
      return none
  match pending with
  | none => return "no_transaction"
  | some journal =>
      if journal.phase = .committed then
        observe host (verifyV3Target machine journal.manifest journal.runtime_uid
          journal.runtime_gid (some journal.transaction_id) expected_legacy_import_id)
        cleanupCommitted machine host journal expected_legacy_import_id
        return "committed_finalized"
      else
        (rollback machine host journal).handle fun error =>
          if error.isRecoveryRequired then .raise error
          else if error.isException then
            .raise (.recoveryRequired
              "crash rollback did not complete; transaction evidence is retained")
          else .raise error
        return "rolled_back"

end

end AtlasOS.Restore
