import AtlasOS.Restore.Rules

/-!
# The places of a transaction

A restore touches the managed files, their directories and what lies in its own
namespace. These places are listed once, with their paths. What every crash
leaves behind is stated place by place: each old file is at its own place or in
the rollback area, and nothing else of the target has changed.
-/

namespace AtlasOS.Restore

variable {Bytes : Type}

/-- The two areas of a transaction. -/
inductive Area where
  | stage | rollback
  deriving DecidableEq

/-- The name of an area. -/
def Area.name : Area → String
  | .stage => "stage"
  | .rollback => "rollback"

/-- The places that a transaction touches. -/
inductive Place where
  /-- The place of a managed file in the target. -/
  | final (path : TransactionPath)
  /-- A directory of managed files. -/
  | directory (parent : ManagedDirectory)
  /-- The namespace of the engine in the target. -/
  | restoreNamespace
  /-- The journal. -/
  | journal
  /-- The journal while it is written. -/
  | temporary
  /-- The directory of the transaction. -/
  | transaction
  /-- An area of the transaction. -/
  | area (part : Area)
  /-- A directory in an area. -/
  | areaDirectory (part : Area) (parent : ManagedDirectory)
  /-- A file in an area. -/
  | areaFile (part : Area) (path : TransactionPath)
  deriving DecidableEq

/-- The path of an area. -/
def areaPath (transaction_id : String) (area : Area) : Parts :=
  NAMESPACE ++ [transaction_id, area.name]

/-- The path of a place. -/
def Place.path (transaction_id : String) : Place → Parts
  | .final path => path.parts
  | .directory parent => parent.parts
  | .restoreNamespace => NAMESPACE
  | .journal => JOURNAL_PATH
  | .temporary => TEMPORARY_PATH
  | .transaction => NAMESPACE ++ [transaction_id]
  | .area part => areaPath transaction_id part
  | .areaDirectory part parent => areaPath transaction_id part ++ parent.parts
  | .areaFile part path => areaPath transaction_id part ++ path.parts

/-- Whether a place lies in the namespace of the engine. -/
def Place.isInside : Place → Bool
  | .final _ | .directory _ => false
  | _ => true

/-! ## Different places have different paths -/

theorem TransactionPath.parts_injective {p q : TransactionPath} (h : p.parts = q.parts) : p = q := by
  have hnodup : (MANAGED_TRANSACTION_PATHS.map TransactionPath.parts).Nodup := by decide
  exact List.inj_on_of_nodup_map hnodup p.mem_paths q.mem_paths h

theorem TransactionPath.head_parts (path : TransactionPath) :
    path.parts.head? ≠ some TRANSACTION_NAMESPACE := by
  have hall : ∀ p ∈ MANAGED_TRANSACTION_PATHS, p.parts.head? ≠ some TRANSACTION_NAMESPACE := by
    decide
  exact hall path path.mem_paths

theorem TransactionPath.parts_ne_directory (path : TransactionPath)
    (directory : ManagedDirectory) : path.parts ≠ directory.parts := by
  have hall : ∀ p ∈ MANAGED_TRANSACTION_PATHS,
      p.parts ≠ ManagedDirectory.parts .config ∧ p.parts ≠ ManagedDirectory.parts .secrets := by
    decide
  cases directory with
  | config => exact (hall path path.mem_paths).1
  | secrets => exact (hall path path.mem_paths).2

theorem ManagedDirectory.head_parts (directory : ManagedDirectory) :
    directory.parts.head? ≠ some TRANSACTION_NAMESPACE := by
  cases directory <;> decide

theorem ManagedDirectory.parts_injective {first second : ManagedDirectory}
    (h : first.parts = second.parts) : first = second := by
  cases first <;> cases second <;> first | rfl | (revert h; decide)

/-- A transaction identifier is none of the names that the engine uses beside it. -/
theorem transactionId_ne {transaction_id : String} (h : isTransactionId transaction_id = true) :
    transaction_id ≠ JOURNAL_NAME ∧ transaction_id ≠ "." ++ JOURNAL_NAME ++ ".tmp" := by
  have hlength : transaction_id.length = 32 := by
    simp only [isTransactionId, Bool.and_eq_true, beq_iff_eq] at h
    exact h.1
  constructor
  · rintro rfl
    revert hlength
    decide
  · rintro rfl
    revert hlength
    decide

/-- The paths that start with the name of the namespace are those in the namespace. -/
theorem Place.inside_iff (transaction_id : String) (place : Place) :
    NAMESPACE <+: place.path transaction_id ↔ place.isInside = true := by
  have hhead {parts : Parts} (h : parts.head? ≠ some TRANSACTION_NAMESPACE) :
      ¬ NAMESPACE <+: parts := by
    rintro ⟨rest, rfl⟩
    exact h rfl
  cases place with
  | final path => simpa [isInside, Place.path] using hhead path.head_parts
  | directory parent => simpa [isInside, Place.path] using hhead parent.head_parts
  | restoreNamespace => simp [isInside, Place.path]
  | journal => simp [isInside, Place.path, JOURNAL_PATH]
  | temporary => simp [isInside, Place.path, TEMPORARY_PATH]
  | transaction => simp [isInside, Place.path]
  | area part => simp [isInside, Place.path, areaPath]
  | areaDirectory part parent => simp [isInside, Place.path, areaPath]
  | areaFile part path => simp [isInside, Place.path, areaPath]

theorem Place.path_injective {transaction_id : String} (h : isTransactionId transaction_id = true)
    {p q : Place} (hpath : p.path transaction_id = q.path transaction_id) : p = q := by
  obtain ⟨hjournal, htemporary⟩ := transactionId_ne h
  have hinside : p.isInside = q.isInside := by
    rw [Bool.eq_iff_iff, ← p.inside_iff transaction_id, ← q.inside_iff transaction_id, hpath]
  have hfile (path : TransactionPath) : path.parts ≠ [] := by simp [TransactionPath.parts]
  have hparent (parent : ManagedDirectory) : parent.parts ≠ [] := by
    simp [ManagedDirectory.parts]
  have hnames : JOURNAL_NAME ≠ "." ++ JOURNAL_NAME ++ ".tmp" := by decide
  have harea {a b : Area} (hname : a.name = b.name) : a = b := by
    cases a <;> cases b <;> first | rfl | (revert hname; decide)
  cases p <;> cases q <;>
    simp only [isInside, reduceCtorEq] at hinside <;>
    simp [Place.path, NAMESPACE, JOURNAL_PATH, TEMPORARY_PATH, areaPath, hfile, hparent,
      hnames, hnames.symm, hjournal, hjournal.symm, htemporary, htemporary.symm,
      TransactionPath.parts_ne_directory, (TransactionPath.parts_ne_directory _ _).symm] at hpath ⊢
  · exact TransactionPath.parts_injective hpath
  · exact ManagedDirectory.parts_injective hpath
  · exact harea hpath
  · exact ⟨harea hpath.1, ManagedDirectory.parts_injective hpath.2⟩
  · exact ⟨harea hpath.1, TransactionPath.parts_injective hpath.2⟩

/-! ## What lies at the places -/

variable {machine : Machine Bytes}

/-- The entry at a place of the transaction of a journal. -/
def RestoreJournal.look {py : Python} (journal : RestoreJournal py) (d : Disk Bytes)
    (place : Place) : Option (Node Bytes) :=
  d.node (place.path journal.transaction_id)

section

variable {py : Python} {journal : RestoreJournal py} {d d' : Disk Bytes} {place : Place}
  {node : Option (Node Bytes)}

/-- A place is changed, and no other one. -/
theorem look_sets (h : d.Sets (place.path journal.transaction_id) node d') (other : Place) :
    journal.look d' other = if other = place then node else journal.look d other := by
  rw [RestoreJournal.look, h]
  have hid := journal.checks.1
  by_cases heq : other = place
  · rw [heq, if_pos rfl, if_pos rfl]
  · rw [if_neg heq, if_neg fun hpath => heq (Place.path_injective hid hpath), RestoreJournal.look]

/-- A file is moved from a place to another one. -/
theorem look_replace {source target : Place} (hne : source ≠ target)
    (h : d.replace (source.path journal.transaction_id) (target.path journal.transaction_id) =
      some d') (other : Place) :
    journal.look d' other = if other = target then journal.look d source
      else if other = source then none else journal.look d other := by
  have hid := journal.checks.1
  have hpaths {p q : Place} (hpq : p ≠ q) :
      p.path journal.transaction_id ≠ q.path journal.transaction_id :=
    fun hpath => hpq (Place.path_injective hid hpath)
  rw [RestoreJournal.look, Disk.node_of_replace (hpaths hne) h]
  by_cases htarget : other = target
  · rw [htarget, if_pos rfl, if_pos rfl, RestoreJournal.look]
  · rw [if_neg htarget, if_neg (hpaths htarget)]
    by_cases hsource : other = source
    · rw [hsource, if_pos rfl, if_pos rfl]
    · rw [if_neg hsource, if_neg (hpaths hsource), RestoreJournal.look]

end

/-- A path that a restore has no business with. -/
def Unmanaged (path : Parts) : Prop :=
  ¬ NAMESPACE <+: path ∧ (∀ managed : TransactionPath, path ≠ managed.parts) ∧
    ∀ parent : ManagedDirectory, path ≠ parent.parts

theorem Unmanaged.ne_path {path : Parts} (h : Unmanaged path) (transaction_id : String)
    (place : Place) : path ≠ place.path transaction_id := by
  rintro rfl
  obtain ⟨hinside, hfinal, hdirectory⟩ := h
  cases place with
  | final managed => exact hfinal managed rfl
  | directory parent => exact hdirectory parent rfl
  | _ => exact hinside ((Place.inside_iff _ _).mpr rfl)

/-- A regular file without other links. -/
def IsPlainFile (node : Node Bytes) : Prop := ∃ content metadata, node = .file content metadata 1

/-- What may lie at a place in the namespace once the journal is there. -/
def Fits {py : Python} (journal : RestoreJournal py) : Place → Node Bytes → Prop
  | .restoreNamespace, node | .transaction, node | .area _, node =>
      node = privateDirectory journal.runtime_uid journal.runtime_gid
  | .areaDirectory .., node => ∃ metadata, node = .directory metadata
  | .journal, node | .temporary, node | .areaFile .., node => IsPlainFile node
  | .final _, _ | .directory _, _ => False

/-- Nothing or a plain file, which a rollback may replace. -/
def Replaceable (node : Option (Node Bytes)) : Prop := ∀ n, node = some n → IsPlainFile n

theorem Replaceable.none : Replaceable (none : Option (Node Bytes)) := fun _ h => nomatch h

theorem Replaceable.file (content : Bytes) (metadata : Metadata) :
    Replaceable (some (.file content metadata 1)) := by
  rintro _ ⟨⟩
  exact ⟨content, metadata, rfl⟩

/-- An old file is at its place, or it is in the rollback area and its place can be cleared. -/
def Recoverable (original quarantined current : Option (Node Bytes)) : Prop :=
  quarantined = none ∧ current = original ∨ quarantined = original ∧ Replaceable current

/-- The namespace holds nothing but what a transaction puts there. -/
def Confined {py : Python} (journal : RestoreJournal py) (d : Disk Bytes) : Prop :=
  ∀ path, NAMESPACE <+: path → ∀ node, d.node path = some node →
    ∃ place : Place, path = place.path journal.transaction_id ∧ Fits journal place node

/-- Whatever lies at a place of the namespace fits there. -/
theorem Confined.fits {py : Python} {journal : RestoreJournal py} {d : Disk Bytes} {place : Place}
    {n : Node Bytes} (h : Confined journal d) (hinside : place.isInside = true)
    (hlook : journal.look d place = some n) : Fits journal place n := by
  obtain ⟨other, hpath, hfits⟩ :=
    h _ ((Place.inside_iff journal.transaction_id place).mpr hinside) n hlook
  rw [Place.path_injective journal.checks.1 hpath]
  exact hfits

/-- What a transaction leaves on the disk at every point before its commit: the old files,
and nothing else of the target changed. -/
structure Evidence {py : Python} (journal : RestoreJournal py) (origin d : Disk Bytes) :
    Prop where
  /-- The rest of the target is as it was. -/
  framed : ∀ path, Unmanaged path → d.node path = origin.node path
  /-- The namespace holds nothing foreign. -/
  confined : Confined journal d
  /-- Each old file can be restored. -/
  files : ∀ path : TransactionPath, Recoverable (origin.node path.parts)
    (journal.look d (.areaFile .rollback path)) (journal.look d (.final path))
  /-- Each directory is there, or it was not there before. -/
  directories : ∀ parent : ManagedDirectory,
    (∃ metadata, journal.look d (.directory parent) = some (.directory metadata)) ∨
      origin.node parent.parts = none ∧ journal.look d (.directory parent) = none

/-- The state that a journal records of a file. -/
def Records (storage : Storage Bytes) (node : Option (Node Bytes)) (state : FileState) : Prop :=
  node = none ∧ state = none ∨ ∃ content metadata, node = some (.file content metadata 1) ∧
    state = some ⟨storage.sha256 content, storage.size content, metadata,
      storage.sha256_isHexDigest content⟩

/-- The journal belongs to the target and records how the target was. -/
structure Captured (journal : RestoreJournal machine.py) (origin : Disk Bytes) : Prop where
  /-- The target is a directory that can be restored into. -/
  root : validateTargetRoot machine.target = .ok ()
  /-- The journal is bound to the target. -/
  target_path : machine.target.path = journal.target_path
  device : machine.target.device = journal.target_device
  inode : machine.target.inode = journal.target_inode
  /-- The old files. -/
  files : ∀ operation ∈ journal.operations,
    Records machine.storage (origin.node operation.path.parts) operation.original
  /-- The old directories. -/
  directories : ∀ state ∈ journal.directories,
    origin.node state.path.parts = state.metadata.map .directory

namespace Evidence

variable {py : Python} {journal : RestoreJournal py} {origin d d' : Disk Bytes}

/-- A change of one place keeps the frame and the bounds of the namespace. -/
theorem of_sets {place : Place} {node : Option (Node Bytes)} (h : Evidence journal origin d)
    (hsets : d.Sets (place.path journal.transaction_id) node d')
    (hfits : place.isInside = true → ∀ n, node = some n → Fits journal place n)
    (hfiles : ∀ path : TransactionPath, Recoverable (origin.node path.parts)
      (journal.look d' (.areaFile .rollback path)) (journal.look d' (.final path)))
    (hdirectories : ∀ parent : ManagedDirectory,
      (∃ metadata, journal.look d' (.directory parent) = some (.directory metadata)) ∨
        origin.node parent.parts = none ∧ journal.look d' (.directory parent) = none) :
    Evidence journal origin d' where
  framed path hpath := by
    rw [hsets.other (hpath.ne_path _ place)]
    exact h.framed path hpath
  confined path hpath n hn := by
    rw [hsets path] at hn
    split at hn
    · next heq =>
      refine ⟨place, heq, hfits ?_ n hn⟩
      exact (Place.inside_iff journal.transaction_id place).mp (heq ▸ hpath)
    · exact h.confined path hpath n hn
  files := hfiles
  directories := hdirectories

/-- A change in the namespace other than in the rollback files. -/
theorem set_inside {place : Place} {node : Option (Node Bytes)} (h : Evidence journal origin d)
    (hsets : d.Sets (place.path journal.transaction_id) node d') (hinside : place.isInside = true)
    (hrollback : ∀ path, place ≠ .areaFile .rollback path)
    (hfits : ∀ n, node = some n → Fits journal place n) : Evidence journal origin d' := by
  have hfinal (path : TransactionPath) : Place.final path ≠ place := by
    rintro rfl
    cases hinside
  have hdirectory (parent : ManagedDirectory) : Place.directory parent ≠ place := by
    rintro rfl
    cases hinside
  refine h.of_sets hsets (fun _ => hfits) (fun path => ?_) fun parent => ?_
  · rw [look_sets hsets, look_sets hsets, if_neg (hfinal path), if_neg (hrollback path).symm]
    exact h.files path
  · rw [look_sets hsets, if_neg (hdirectory parent)]
    exact h.directories parent

/-- Another entry at the place of a file that can still be restored. -/
theorem set_final {path : TransactionPath} {node : Option (Node Bytes)}
    (h : Evidence journal origin d)
    (hsets : d.Sets ((Place.final path).path journal.transaction_id) node d')
    (hfile : Recoverable (origin.node path.parts)
      (journal.look d (.areaFile .rollback path)) node) : Evidence journal origin d' := by
  refine h.of_sets hsets (fun hinside => by cases hinside) (fun other => ?_) fun parent => ?_
  · rw [look_sets hsets, look_sets hsets, if_neg (by simp)]
    by_cases heq : other = path
    · subst heq
      rw [if_pos rfl]
      exact hfile
    · rw [if_neg (by simpa using heq)]
      exact h.files other
  · rw [look_sets hsets, if_neg (by simp)]
    exact h.directories parent

/-- Other metadata for a directory, or a new directory. -/
theorem set_directory {parent : ManagedDirectory} {metadata : Metadata}
    (h : Evidence journal origin d)
    (hsets : d.Sets ((Place.directory parent).path journal.transaction_id)
      (some (.directory metadata)) d') : Evidence journal origin d' := by
  refine h.of_sets hsets (fun hinside => by cases hinside) (fun path => ?_) fun other => ?_
  · rw [look_sets hsets, look_sets hsets, if_neg (by simp), if_neg (by simp)]
    exact h.files path
  · rw [look_sets hsets]
    split
    · exact .inl ⟨metadata, rfl⟩
    · exact h.directories other

/-- A directory that was not there before is removed. -/
theorem remove_directory {parent : ManagedDirectory} (h : Evidence journal origin d)
    (hsets : d.Sets ((Place.directory parent).path journal.transaction_id) none d')
    (horigin : origin.node parent.parts = none) : Evidence journal origin d' := by
  refine h.of_sets hsets (fun hinside => by cases hinside) (fun path => ?_) fun other => ?_
  · rw [look_sets hsets, look_sets hsets, if_neg (by simp), if_neg (by simp)]
    exact h.files path
  · rw [look_sets hsets]
    split
    · next heq =>
      cases heq
      exact .inr ⟨horigin, rfl⟩
    · exact h.directories other

/-- A file moves between two places, one of them in the namespace. -/
theorem of_replace {source target : Place} (h : Evidence journal origin d)
    (hne : source ≠ target)
    (hmove : d.replace (source.path journal.transaction_id) (target.path journal.transaction_id) =
      some d')
    (hfits : target.isInside = true →
      ∀ n, journal.look d source = some n → Fits journal target n)
    (hfiles : ∀ path : TransactionPath, Recoverable (origin.node path.parts)
      (journal.look d' (.areaFile .rollback path)) (journal.look d' (.final path)))
    (hdirectories : ∀ parent : ManagedDirectory, source ≠ .directory parent ∧
      target ≠ .directory parent) : Evidence journal origin d' := by
  have hid := journal.checks.1
  have hpaths : source.path journal.transaction_id ≠ target.path journal.transaction_id :=
    fun hpath => hne (Place.path_injective hid hpath)
  have hnode := Disk.node_of_replace hpaths hmove
  refine ⟨fun path hpath => ?_, fun path hpath n hn => ?_, hfiles, fun parent => ?_⟩
  · rw [hnode, if_neg (hpath.ne_path _ target), if_neg (hpath.ne_path _ source)]
    exact h.framed path hpath
  · rw [hnode] at hn
    split at hn
    · next heq =>
      refine ⟨target, heq, hfits ?_ n hn⟩
      exact (Place.inside_iff journal.transaction_id target).mp (heq ▸ hpath)
    · split at hn
      · cases hn
      · exact h.confined path hpath n hn
  · rw [look_replace hne hmove, if_neg (hdirectories parent).2.symm,
      if_neg (hdirectories parent).1.symm]
    exact h.directories parent

end Evidence

end AtlasOS.Restore
