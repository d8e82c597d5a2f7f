import AtlasOS.Lib.Runtime
import AtlasOS.Restore.Held

/-!
# Exactness of the restore journal

Every journal is read back from its own JSON value, whatever the order of keys.
The other way round, a value from which a journal is read is the one that the
journal is written as, but for numbers that are only compared and for an artifact
that is `null`.
-/

namespace AtlasOS.Restore

/-! ## The manifest -/

theorem same_of_equalsInt {n : Int} {value number : Json} (h : equalsInt n number = true) :
    Json.Same value number ↔ value = number := by
  cases number with
  | int i => exact Json.same_int
  | bool b => exact Json.same_bool
  | float f => exact Json.same_float
  | null => cases h
  | str s => cases h
  | arr items => cases h
  | obj fields => cases h

namespace ManagedInventoryEntry

theorem equalsInt_mode (entry : ManagedInventoryEntry) :
    equalsInt PRIVATE_FILE_MODE.val entry.mode = true := by
  have h := entry.valid
  simp only [InventoryFields.postInit, require_bind_eq_ok] at h
  exact h.1

/-- An entry is read from what is the same as its JSON value. -/
theorem fromDict_of_same {value : Json} {entry : ManagedInventoryEntry}
    (h : Json.Same value entry.toDict) : fromDict value = .ok entry := by
  have hmode : ∀ {number}, Json.Same number entry.mode ↔ number = entry.mode :=
    same_of_equalsInt entry.equalsInt_mode
  obtain ⟨⟨path, role, content_kind, disposition, mode, reason, artifact⟩, hvalid⟩ := entry
  have hself := build_self
    ⟨⟨path, role, content_kind, disposition, mode, reason, artifact⟩, hvalid⟩
  obtain ⟨fields, rfl, hkeys, hvalues⟩ := Json.same_obj_iff.mp h
  have hnames := sameKeys_eq hkeys
  rcases reason with _ | reason <;> rcases artifact with _ | artifact
  · simp [Fields.keys, hmode] at hvalues
    simp [fromDict, hnames, Fields.keys, hvalues, hself]
  · simp [Fields.keys, hmode] at hvalues
    simp [fromDict, hnames, Fields.keys, hvalues, hself]
  · simp [Fields.keys, hmode] at hvalues
    simp [fromDict, hnames, Fields.keys, hvalues, hself]
  · have hboth := exclusive
      ⟨⟨path, role, content_kind, disposition, mode, some reason, some artifact⟩, hvalid⟩
    simp at hboth

theorem build_eq_ok {fields : InventoryFields} {entry : ManagedInventoryEntry}
    (h : build fields = .ok entry) : entry.toInventoryFields = fields := by
  unfold build at h
  split at h
  · cases h
    rfl
  · cases h

/-- What an entry was read from is the same as its JSON value. -/
theorem same_of_fromDict {value : Json} {entry : ManagedInventoryEntry}
    (h : fromDict value = .ok entry) : Json.Same value entry.toDict := by
  simp only [fromDict] at h
  obtain ⟨fields, hfields, h⟩ := bind_eq_ok.mp h
  rw [Json.eq_obj_of_requireObject hfields]
  split at h
  · next hnames =>
    simp only [bind_eq_ok, pure_eq_ok, Except.ok.injEq] at h
    obtain ⟨artifact, hartifact, _, rfl, path, hpath, role, hrole, content_kind, hkind,
      disposition, hdisposition, hbuild⟩ := h
    have hentry := build_eq_ok hbuild
    obtain ⟨inner, hvalid⟩ := entry
    subst hentry
    obtain ⟨hsha, hsize⟩ := ArtifactMetadata.build_eq_ok hartifact
    refine Json.same_obj.mpr ⟨sameKeys_iff.mp hnames, ?_⟩
    simp [Fields.keys, readEnum_eq_ok hpath, readEnum_eq_ok hrole,
      readEnum_eq_ok hkind, readEnum_eq_ok hdisposition, hsha, hsize, Json.Same.refl]
  split at h
  · next hnames =>
    simp only [bind_eq_ok, pure_eq_ok, Except.ok.injEq] at h
    obtain ⟨reason, hreason, _, rfl, path, hpath, role, hrole, content_kind, hkind,
      disposition, hdisposition, hbuild⟩ := h
    have hentry := build_eq_ok hbuild
    obtain ⟨inner, hvalid⟩ := entry
    subst hentry
    refine Json.same_obj.mpr ⟨sameKeys_iff.mp hnames, ?_⟩
    simp [Fields.keys, readEnum_eq_ok hpath, readEnum_eq_ok hrole,
      readEnum_eq_ok hkind, readEnum_eq_ok hdisposition, readEnum_eq_ok hreason, Json.Same.refl]
  split at h
  · next hnames =>
    simp only [bind_eq_ok, pure_eq_ok, Except.ok.injEq] at h
    obtain ⟨_, rfl, path, hpath, role, hrole, content_kind, hkind, disposition, hdisposition,
      hbuild⟩ := h
    have hentry := build_eq_ok hbuild
    obtain ⟨inner, hvalid⟩ := entry
    subst hentry
    refine Json.same_obj.mpr ⟨sameKeys_iff.mp hnames, ?_⟩
    simp [Fields.keys, readEnum_eq_ok hpath, readEnum_eq_ok hrole,
      readEnum_eq_ok hkind, readEnum_eq_ok hdisposition, Json.Same.refl]
  · cases h

end ManagedInventoryEntry

namespace AtlasCoreBackupV3Manifest

variable {py : Python}

/-- A manifest is read from what is the same as its JSON value. -/
theorem fromDict_of_same {value : Json} {manifest : AtlasCoreBackupV3Manifest py}
    (h : Json.Same value manifest.toDict) : fromDict py value = .ok manifest := by
  have hself := manifest.build_self
  obtain ⟨fields, rfl, hkeys, hvalues⟩ := Json.same_obj_iff.mp h
  have hnames : sameKeys fields fieldNames = true := sameKeys_iff.mpr hkeys
  simp [Fields.keys] at hvalues
  obtain ⟨hschema, hversion, hcreated, hmode, hactivation, hinventory⟩ := hvalues
  obtain ⟨entries, hentries, hsame⟩ := Json.same_arr_iff.mp hinventory
  have hread : entries.mapM ManagedInventoryEntry.fromDict = .ok manifest.inventory :=
    mapM_of_same (fun _ _ => ManagedInventoryEntry.fromDict_of_same) hsame
  simp [fromDict, hnames, hschema, hversion, hcreated, hmode, hactivation, hentries, hread, hself]

theorem build_eq_ok {fields : ManifestFields} {manifest : AtlasCoreBackupV3Manifest py}
    (h : build py fields = .ok manifest) : manifest.toManifestFields = fields := by
  unfold build at h
  split at h
  · cases h
    rfl
  · cases h

/-- What a manifest was read from is the same as its JSON value when the numbers that are only
compared are the integers themselves. -/
theorem same_iff_of_fromDict {value : Json} {manifest : AtlasCoreBackupV3Manifest py}
    (h : fromDict py value = .ok manifest) :
    Json.Same value manifest.toDict ↔
      field value "format_version" = .int V3_FORMAT_VERSION ∧
        field value "backup_directory_mode" = .int BACKUP_DIRECTORY_MODE := by
  simp only [fromDict] at h
  obtain ⟨fields, hfields, h⟩ := bind_eq_ok.mp h
  rw [Json.eq_obj_of_requireObject hfields]
  simp only [bind_eq_ok, exists_unit, require_eq_ok, Bool.and_eq_true, decide_eq_true_eq] at h
  obtain ⟨hnames, ⟨hschema, -⟩, -, h⟩ := h
  split at h
  · next entries hentries =>
    simp only [bind_eq_ok, pure_eq_ok, Except.ok.injEq, convert_eq_ok, expect_eq_ok,
      asStr_eq_some] at h
    obtain ⟨_, rfl, _, ⟨activation, hactivation, inventory, hinventory, rfl⟩, created_at,
      hcreated, hbuild⟩ := h
    have hmanifest := build_eq_ok hbuild
    obtain ⟨inner, hvalid⟩ := manifest
    subst hmanifest
    have hitems : List.Forall₂ Json.Same entries (inventory.map ManagedInventoryEntry.toDict) :=
      (@forall_same_of_mapM _ _ _ _ _ _ (fun _ => True) (fun _ _ hread =>
        iff_of_true (ManagedInventoryEntry.same_of_fromDict hread) trivial) hinventory).mpr
        fun _ _ => trivial
    have hlist : Json.Same (.arr entries) (.arr (inventory.map ManagedInventoryEntry.toDict)) :=
      Json.same_arr_iff.mpr ⟨entries, rfl, hitems⟩
    rw [toDict, Json.same_obj]
    simp only [field]
    constructor
    · rintro ⟨-, hvalues⟩
      simp [Fields.keys] at hvalues
      exact ⟨hvalues.2.1, hvalues.2.2.2.1⟩
    · rintro ⟨hformat, hmode⟩
      refine ⟨sameKeys_iff.mp hnames, ?_⟩
      simp [Fields.keys, hschema, hformat, hcreated, hmode, readEnum_eq_ok hactivation, hentries,
        hlist]
  · cases h

end AtlasCoreBackupV3Manifest

/-! ## The journal -/

/-- The values of a restore journal, with its numbers as they were read. -/
structure HeldJournalFields (py : Python) where
  transaction_id : String
  target_path : String
  target_device : ℕ
  target_inode : ℕ
  runtime_uid : ℕ
  runtime_gid : ℕ
  phase : RestorePhase
  manifest : AtlasCoreBackupV3Manifest py
  manifest_digest : String
  operations : List HeldOperation
  directories : List HeldDirectory
  deriving DecidableEq

/-- The values that the numbers stand for. -/
def HeldJournalFields.plain {py : Python} (journal : HeldJournalFields py) : JournalFields py where
  transaction_id := journal.transaction_id
  target_path := journal.target_path
  target_device := journal.target_device
  target_inode := journal.target_inode
  runtime_uid := journal.runtime_uid
  runtime_gid := journal.runtime_gid
  phase := journal.phase
  manifest := journal.manifest
  manifest_digest := journal.manifest_digest
  operations := journal.operations.map HeldOperation.plain
  directories := journal.directories.map HeldDirectory.plain

/-- A journal with its numbers as they were read, consistent with its manifest. -/
structure HeldJournal (py : Python) extends HeldJournalFields py where
  valid : toHeldJournalFields.plain.postInit = .ok ()
  deriving DecidableEq

namespace HeldJournal

variable {py : Python}

/-- The journal that the numbers stand for. -/
def plain (journal : HeldJournal py) : RestoreJournal py :=
  ⟨journal.toHeldJournalFields.plain, journal.valid⟩

/-- The journal with the given values, when they are consistent: `__post_init__` compares no
number of a state. -/
def build (fields : HeldJournalFields py) : Except Error (HeldJournal py) :=
  match h : fields.plain.postInit with
  | .ok () => .ok ⟨fields, h⟩
  | .error error => .error error

/-- `RestoreJournal.to_dict` -/
def toDict (journal : HeldJournal py) : Json :=
  .obj [("schema", .str JOURNAL_SCHEMA), ("version", .int JOURNAL_VERSION),
    ("transaction_id", .str journal.transaction_id), ("target_path", .str journal.target_path),
    ("target_device", .int journal.target_device), ("target_inode", .int journal.target_inode),
    ("runtime_uid", .int journal.runtime_uid), ("runtime_gid", .int journal.runtime_gid),
    ("phase", .str (StrEnum.value journal.phase)), ("manifest", journal.manifest.toDict),
    ("manifest_digest", .str journal.manifest_digest),
    ("operations", .arr (journal.operations.map HeldOperation.toDict)),
    ("directories", .arr (journal.directories.map HeldDirectory.toDict))]

/-- `RestoreJournal.from_dict`, with `__post_init__`. -/
def fromDict (py : Python) (value : Json) : Except Error (HeldJournal py) := do
  let fields ← readObject value (.journal "restore journal fields are invalid")
  demand (sameKeys fields RestoreJournal.fieldNames) (.journal "restore journal fields are invalid")
  demand (fields.get "schema" = .str JOURNAL_SCHEMA &&
      equalsInt JOURNAL_VERSION (fields.get "version"))
    (.journal "restore journal identity is unsupported")
  let (raw_operations, raw_directories) ←
    match fields.get "operations", fields.get "directories" with
    | .arr operations, .arr directories => pure (operations, directories)
    | _, _ => .error (.journal "restore journal inventories are invalid")
  convertError (.journal "restore journal values are invalid") do
    let phase ← ofPython (readEnum RestorePhase (fields.get "phase"))
    let manifest ← ofPython (AtlasCoreBackupV3Manifest.fromDict py (fields.get "manifest"))
    let operations ← raw_operations.mapM HeldOperation.fromDict
    let directories ← raw_directories.mapM HeldDirectory.fromDict
    let transaction_id ← obtainOr (asStr? (fields.get "transaction_id"))
      (.builtin (.typeError "expected string or bytes-like object"))
    demand (isTransactionId transaction_id) (.journal "transaction ID is invalid")
    let target_path ← obtainOr (asStr? (fields.get "target_path"))
      (.builtin (.typeError "argument should be a str or an os.PathLike object"))
    demand (isAbsolute target_path) (.journal "journal target binding must be absolute")
    let identity := Error.journal "journal target identity is invalid"
    let target_device ← obtainOr (RestoreJournal.readNatural (fields.get "target_device")) identity
    let target_inode ← obtainOr (RestoreJournal.readNatural (fields.get "target_inode")) identity
    demand (0 < target_inode) identity
    let runtime := Error.builtin (.valueError "runtime UID and GID must be non-negative integers")
    let runtime_uid ← obtainOr (RestoreJournal.readNatural (fields.get "runtime_uid")) runtime
    let runtime_gid ← obtainOr (RestoreJournal.readNatural (fields.get "runtime_gid")) runtime
    let manifest_digest ← obtainOr (asStr? (fields.get "manifest_digest"))
      (.journal "journal manifest digest is invalid")
    build { transaction_id, target_path, target_device, target_inode, runtime_uid, runtime_gid,
            phase, manifest, manifest_digest, operations, directories }

/-- What `__post_init__` says of the values decides what is built of them. -/
theorem build_of_valid {fields : HeldJournalFields py} (h : fields.plain.postInit = .ok ()) :
    build fields = .ok ⟨fields, h⟩ := by
  unfold build
  split
  · rfl
  · next hrefused =>
    rw [h] at hrefused
    cases hrefused

theorem build_of_refused {fields : HeldJournalFields py} {error : Error}
    (h : fields.plain.postInit = .error error) : build fields = .error error := by
  unfold build
  split
  · next hvalid =>
    rw [h] at hvalid
    cases hvalid
  · next hrefused =>
    rw [h] at hrefused
    cases hrefused
    rfl

theorem map_plain_build (fields : HeldJournalFields py) :
    (build fields).map plain = RestoreJournal.build fields.plain := by
  cases h : fields.plain.postInit with
  | ok =>
    rw [build_of_valid h, RestoreJournal.build_of_valid h]
    rfl
  | error error =>
    rw [build_of_refused h, RestoreJournal.build_of_refused h]
    rfl

/-- Reading a list and taking what its items stand for. -/
theorem mapM_map {α β ε : Type} (read : Json → Except ε α) (f : α → β) (items : List Json) :
    (items.mapM read).map (List.map f) = items.mapM fun item => (read item).map f := by
  induction items with
  | nil => rfl
  | cons item items ih =>
    simp only [List.mapM_cons, map_bind, ← ih, bind_map]
    rfl

/-- The journal that the engine reads is the one that the numbers stand for. -/
theorem map_plain_fromDict (py : Python) (value : Json) :
    (fromDict py value).map plain = RestoreJournal.fromDict py value := by
  have hoperations : RestoreOperation.fromDict = fun item =>
      (HeldOperation.fromDict item).map HeldOperation.plain :=
    funext fun item => (HeldOperation.map_plain_fromDict item).symm
  have hdirectories : DirectoryState.fromDict = fun item =>
      (HeldDirectory.fromDict item).map HeldDirectory.plain :=
    funext fun item => (HeldDirectory.map_plain_fromDict item).symm
  simp only [fromDict, RestoreJournal.fromDict, map_bind]
  refine bind_congr fun fields => bind_congr fun _ => bind_congr fun _ => ?_
  cases fields.get "operations" with
  | arr operations =>
    cases fields.get "directories" with
    | arr directories =>
      simp only [map_bind, map_convertError, map_plain_build, hoperations, hdirectories,
        ← mapM_map, bind_map]
      rfl
    | _ => rfl
  | _ => rfl

theorem build_self (journal : HeldJournal py) :
    build journal.toHeldJournalFields = .ok journal := build_of_valid journal.valid

theorem build_eq_ok {fields : HeldJournalFields py} {journal : HeldJournal py}
    (h : build fields = .ok journal) : journal.toHeldJournalFields = fields := by
  unfold build at h
  split at h
  · cases h
    rfl
  · cases h

/-- A journal is read from an object with its values, whose operations are read as its own. -/
theorem fromDict_obj {journal : HeldJournal py} {fields : Fields} {operations directories : List Json}
    (hnames : sameKeys fields RestoreJournal.fieldNames = true)
    (hschema : fields.get "schema" = .str JOURNAL_SCHEMA)
    (hversion : equalsInt JOURNAL_VERSION (fields.get "version") = true)
    (hidentity : fields.get "transaction_id" = .str journal.transaction_id)
    (hpath : fields.get "target_path" = .str journal.target_path)
    (hdevice : fields.get "target_device" = .int journal.target_device)
    (hinode : fields.get "target_inode" = .int journal.target_inode)
    (huid : fields.get "runtime_uid" = .int journal.runtime_uid)
    (hgid : fields.get "runtime_gid" = .int journal.runtime_gid)
    (hphase : fields.get "phase" = .str (StrEnum.value journal.phase))
    (hmanifest : AtlasCoreBackupV3Manifest.fromDict py (fields.get "manifest") =
      .ok journal.manifest)
    (hdigest : fields.get "manifest_digest" = .str journal.manifest_digest)
    (hoperations : fields.get "operations" = .arr operations)
    (hread : operations.mapM HeldOperation.fromDict = .ok journal.operations)
    (hdirectories : fields.get "directories" = .arr directories)
    (hread' : directories.mapM HeldDirectory.fromDict = .ok journal.directories) :
    fromDict py (.obj fields) = .ok journal := by
  obtain ⟨hid, habsolute, hpositive, -⟩ := journal.plain.checks
  have hself := journal.build_self
  simp only [plain, HeldJournalFields.plain] at hid habsolute hpositive
  simp [fromDict, hnames, hschema, hversion, hidentity, hpath, hdevice, hinode, huid, hgid, hphase,
    hmanifest, hdigest, hoperations, hread, hdirectories, hread', hid, habsolute, hpositive, hself]

/-- A journal is read from what is the same as its JSON value. -/
theorem fromDict_of_same {journal : HeldJournal py} {value : Json}
    (h : Json.Same value journal.toDict) : fromDict py value = .ok journal := by
  obtain ⟨fields, rfl, hkeys, hvalues⟩ := Json.same_obj_iff.mp h
  have hnames : sameKeys fields RestoreJournal.fieldNames = true := sameKeys_iff.mpr hkeys
  simp [Fields.keys] at hvalues
  obtain ⟨hschema, hversion, hidentity, hpath, hdevice, hinode, huid, hgid, hphase, hmanifest,
    hdigest, hoperations, hdirectories⟩ := hvalues
  obtain ⟨operations, hlisted, hsame⟩ := Json.same_arr_iff.mp hoperations
  obtain ⟨directories, hlisted', hsame'⟩ := Json.same_arr_iff.mp hdirectories
  exact fromDict_obj hnames hschema (by simp [hversion]) hidentity hpath hdevice hinode huid hgid
    hphase (AtlasCoreBackupV3Manifest.fromDict_of_same hmanifest) hdigest hlisted
    (mapM_of_same (fun _ _ => HeldOperation.fromDict_of_same) hsame) hlisted'
    (mapM_of_same (fun _ _ => HeldDirectory.fromDict_of_same) hsame')

end HeldJournal

/-- The values that a journal is written as: the numbers that are only compared are the integers
themselves, and no operation has an artifact that is `null`. -/
structure ExactValue (value : Json) : Prop where
  version : field value "version" = .int JOURNAL_VERSION
  format_version : field (field value "manifest") "format_version" = .int V3_FORMAT_VERSION
  backup_directory_mode :
    field (field value "manifest") "backup_directory_mode" = .int BACKUP_DIRECTORY_MODE
  artifacts : ∀ operation ∈ items (field value "operations"), hasNull operation "artifact" = false

namespace HeldJournal

variable {py : Python}

theorem readNatural_eq_some {value : Json} {n : ℕ} :
    RestoreJournal.readNatural value = some n ↔ value = .int n := by
  unfold RestoreJournal.readNatural
  split
  · next m => exact ⟨fun h => by cases h; rfl, fun h => by cases h; rfl⟩
  · next hother =>
    refine iff_of_false (by simp) ?_
    rintro rfl
    exact hother n rfl

/-- What a journal was read from is the same as its JSON value exactly when it is such a value. -/
theorem same_iff_of_fromDict {value : Json} {journal : HeldJournal py}
    (h : fromDict py value = .ok journal) : Json.Same value journal.toDict ↔ ExactValue value := by
  simp only [fromDict, bind_eq_ok, readObject_eq_ok, exists_unit, demand_eq_ok, Bool.and_eq_true,
    decide_eq_true_eq] at h
  obtain ⟨fields, rfl, hnames, ⟨hschema, -⟩, h⟩ := h
  split at h
  · next operations directories hlisted hlisted' =>
    simp only [bind_eq_ok, pure_eq_ok, Except.ok.injEq, exists_unit, demand_eq_ok,
      convertError_eq_ok, ofPython_eq_ok, obtainOr_eq_ok, asStr_eq_some,
      readNatural_eq_some] at h
    obtain ⟨_, rfl, phase, hphase, manifest, hmanifest, held, hread, held', hread', identity,
      hidentity, -, path, hpath, -, device, hdevice, inode, hinode, -, uid, huid, gid, hgid,
      digest, hdigest, hbuild⟩ := h
    have hjournal := build_eq_ok hbuild
    obtain ⟨inner, hvalid⟩ := journal
    subst hjournal
    have hstates : Json.Same (.arr directories) (.arr (held'.map HeldDirectory.toDict)) := by
      refine Json.same_arr_iff.mpr ⟨directories, rfl, ?_⟩
      exact (@forall_same_of_mapM _ _ _ _ _ _ (fun _ => True) (fun _ _ hstate =>
        iff_of_true (HeldDirectory.same_of_fromDict hstate) trivial) hread').mpr
        fun _ _ => trivial
    have hoperations : Json.Same (.arr operations) (.arr (held.map HeldOperation.toDict)) ↔
        ∀ operation ∈ operations, hasNull operation "artifact" = false := by
      rw [Json.same_arr_iff, ← forall_same_of_mapM (fun _ _ => HeldOperation.same_iff_of_fromDict)
        hread]
      simp
    have hplan := AtlasCoreBackupV3Manifest.same_iff_of_fromDict hmanifest
    rw [toDict, Json.same_obj]
    constructor
    · rintro ⟨-, hvalues⟩
      simp [Fields.keys, hlisted, hoperations, hplan] at hvalues
      exact ⟨hvalues.2.1, hvalues.2.2.2.2.2.2.2.2.2.1.1, hvalues.2.2.2.2.2.2.2.2.2.1.2,
        by simpa [field, hlisted, items] using hvalues.2.2.2.2.2.2.2.2.2.2.2.1⟩
    · rintro ⟨hversion, hformat, hmode, hartifacts⟩
      simp only [field, hlisted, items] at hversion hformat hmode hartifacts
      refine ⟨sameKeys_iff.mp hnames, ?_⟩
      simp [Fields.keys, hschema, hversion, hidentity, hpath, hdevice, hinode, huid, hgid,
        readEnum_eq_ok hphase, hdigest, hlisted, hlisted', hstates, hoperations.mpr hartifacts,
        hplan.mpr ⟨hformat, hmode⟩]
  · cases h

end HeldJournal

/-- The codec is exact but for the values that are only compared and for an artifact that is `null`:
every journal is read back from its JSON value, and a value from which a journal is read is the one
that the journal is written as exactly when it is exact. -/
theorem journal_codec (py : Python) :
    (∀ journal : HeldJournal py, HeldJournal.fromDict py journal.toDict.sorted = .ok journal) ∧
      ∀ (value : Json) (journal : HeldJournal py), HeldJournal.fromDict py value = .ok journal →
        (Json.Same value journal.toDict ↔ ExactValue value) :=
  ⟨fun journal => HeldJournal.fromDict_of_same (Json.same_sorted journal.toDict),
    fun _ _ => HeldJournal.same_iff_of_fromDict⟩

/-! ## A journal -/

/-- A file of an empty database. -/
def emptyArtifact : ArtifactMetadata where
  sha256 := String.ofList (List.replicate 64 '0')
  size := 0
  checksum := by decide

/-- The entry of a path whose file is in the backup. -/
def presentEntry (path : ManagedPath) (role : InventoryRole) (content_kind : ContentKind)
    (valid : (InventoryFields.mk path role content_kind .requiredPresent
      (.int PRIVATE_FILE_MODE.val) none (some emptyArtifact)).postInit = .ok ()) :
    ManagedInventoryEntry :=
  ⟨_, valid⟩

/-- The entries of a backup before the provider intent store is activated. -/
def basicEntry : ManagedPath → ManagedInventoryEntry
  | .actionHistory => presentEntry .actionHistory .history .sqlite (by decide)
  | .providerIntelligence => presentEntry .providerIntelligence .derivedHistory .sqlite (by decide)
  | .operationalDispatch => presentEntry .operationalDispatch .safetyLedger .sqlite (by decide)
  | .operatorIntents => presentEntry .operatorIntents .authority .sqlite (by decide)
  | .policies => presentEntry .policies .authority .yaml (by decide)
  | .providerConnections => presentEntry .providerConnections .authority .yaml (by decide)
  | .providerSecrets => presentEntry .providerSecrets .authority .yaml (by decide)
  | .operatorSecurityAudit => presentEntry .operatorSecurityAudit .audit .sqlite (by decide)
  | .operatorSessions =>
      ⟨⟨.operatorSessions, .ephemeralSecurity, .sqlite, .invalidateOnRestore,
        .int PRIVATE_FILE_MODE.val, none, none⟩, by decide⟩
  | .providerIntents =>
      ⟨⟨.providerIntents, .preActivation, .sqlite, .approvedAbsent, .int PRIVATE_FILE_MODE.val,
        some .providerIntentStoreNotActivated, none⟩, by decide⟩

/-- A manifest of such a backup. -/
def basicManifest : AtlasCoreBackupV3Manifest Python.plain where
  created_at := Python.plain.isoformat (.utc ⟨0, zero_lt_MAX_MICROS⟩)
  provider_intent_activation := .notActivated
  inventory := MANAGED_PATH_ORDER.map basicEntry
  valid := by decide

variable {py : Python}

/-- The journal of a restore of a backup into an empty directory. -/
def emptyTargetJournal (manifest : AtlasCoreBackupV3Manifest py) : HeldJournal py where
  transaction_id := String.ofList (List.replicate 32 '0')
  target_path := "/data"
  target_device := 1
  target_inode := 1
  runtime_uid := 1000
  runtime_gid := 1000
  phase := .prepared
  manifest := manifest
  manifest_digest := manifestDigest manifest
  operations := MANAGED_TRANSACTION_PATHS.map fun path =>
    ⟨path, (planned manifest path).action, (planned manifest path).artifact, none,
      planned_agrees manifest path⟩
  directories := [⟨.config, none⟩, ⟨.secrets, none⟩]
  valid := by
    simp only [JournalFields.postInit, check_bind_eq_ok, demand_eq_ok, decide_eq_true_eq,
      HeldJournalFields.plain, List.map_map, List.all_eq_true, List.forall_mem_map]
    refine ⟨by decide, by decide, by decide, trivial, ?_, rfl, fun _ _ => ?_, fun _ _ => ?_⟩
    · exact List.map_id MANAGED_TRANSACTION_PATHS
    · rfl
    · rfl

/-- The same journal with an artifact that is `null` where the target stays without a file. -/
def nullArtifact (operation : HeldOperation) : Json :=
  match operation.artifact with
  | some _ => operation.toDict
  | none =>
      .obj [("path", .str operation.path.value), ("action", .str (StrEnum.value operation.action)),
        ("original", HeldFileState.toDict operation.original), ("artifact", .null)]

theorem fromDict_nullArtifact (operation : HeldOperation) :
    HeldOperation.fromDict (nullArtifact operation) = .ok operation := by
  cases hartifact : operation.artifact with
  | some artifact =>
    simp only [nullArtifact, hartifact]
    exact HeldOperation.fromDict_of_same (Json.Same.refl _)
  | none =>
    obtain ⟨path, action, artifact, original, hagrees⟩ := operation
    subst hartifact
    have hself : HeldOperation.build path action none original =
        .ok ⟨path, action, none, original, hagrees⟩ := dif_pos hagrees
    have hstate := HeldFileState.fromDict_of_same (Json.Same.refl (HeldFileState.toDict original))
    have hpath := path.value_ne_empty
    simp [HeldOperation.fromDict, nullArtifact, sameKeys, Fields.keys, hstate, findPath_value,
      DirectoryState.validateRelativePath, hpath, RestoreOperation.readArtifact, hself]

/-- The JSON value of the journal with such artifacts. -/
def nullValue (journal : HeldJournal py) : Json :=
  .obj [("schema", .str JOURNAL_SCHEMA), ("version", .int JOURNAL_VERSION),
    ("transaction_id", .str journal.transaction_id), ("target_path", .str journal.target_path),
    ("target_device", .int journal.target_device), ("target_inode", .int journal.target_inode),
    ("runtime_uid", .int journal.runtime_uid), ("runtime_gid", .int journal.runtime_gid),
    ("phase", .str (StrEnum.value journal.phase)), ("manifest", journal.manifest.toDict),
    ("manifest_digest", .str journal.manifest_digest),
    ("operations", .arr (journal.operations.map nullArtifact)),
    ("directories", .arr (journal.directories.map HeldDirectory.toDict))]

theorem fromDict_nullValue (journal : HeldJournal py) :
    HeldJournal.fromDict py (nullValue journal) = .ok journal := by
  refine HeldJournal.fromDict_obj ?_ ?_ ?_ ?_ ?_ ?_ ?_ ?_ ?_ ?_ ?_ ?_ rfl
    (mapM_map_eq_ok fun operation _ => fromDict_nullArtifact operation) rfl
    (mapM_map_eq_ok fun state _ => HeldDirectory.fromDict_of_same (Json.Same.refl _))
  · simp [sameKeys, Fields.keys, RestoreJournal.fieldNames]
  · rfl
  · rfl
  · rfl
  · rfl
  · rfl
  · rfl
  · rfl
  · rfl
  · rfl
  · exact AtlasCoreBackupV3Manifest.fromDict_of_same (Json.Same.refl _)
  · rfl

/-- The side file of a database is never installed. -/
theorem not_exactValue_nullValue (manifest : AtlasCoreBackupV3Manifest py) :
    ¬ ExactValue (nullValue (emptyTargetJournal manifest)) := by
  intro hexact
  have hmem : nullArtifact ⟨.side .actionHistory .wal rfl, .absent, none, none, by simp⟩ ∈
      items (field (nullValue (emptyTargetJournal manifest)) "operations") :=
    List.mem_map_of_mem (List.mem_map_of_mem (TransactionPath.mem_paths _))
  have hclosed := hexact.artifacts _ hmem
  simp [nullArtifact, hasNull, Fields.keys] at hclosed

/-- A value with artifacts that are `null` is read, and the journal is written as another. -/
theorem journal_codec_inexact : ¬ ∀ (value : Json) (journal : HeldJournal Python.plain),
    HeldJournal.fromDict Python.plain value = .ok journal → Json.Same value journal.toDict := by
  intro h
  have hread := fromDict_nullValue (emptyTargetJournal basicManifest)
  exact not_exactValue_nullValue basicManifest
    ((HeldJournal.same_iff_of_fromDict hread).mp (h _ _ hread))

/-- The journal of a restore into an empty directory is read back, and what it is written as is
exact. -/
theorem journal_codec_emptyTarget :
    HeldJournal.fromDict Python.plain (emptyTargetJournal basicManifest).toDict.sorted =
        .ok (emptyTargetJournal basicManifest) ∧
      (Json.Same (emptyTargetJournal basicManifest).toDict.sorted
          (emptyTargetJournal basicManifest).toDict ↔
        ExactValue (emptyTargetJournal basicManifest).toDict.sorted) :=
  ⟨(journal_codec Python.plain).1 _,
    (journal_codec Python.plain).2 _ _ ((journal_codec Python.plain).1 _)⟩

end AtlasOS.Restore
