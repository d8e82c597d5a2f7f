import Mathlib.Data.List.Infix
import AtlasOS.Backup.Retention
import AtlasOS.Restore.Exactness
import AtlasOS.Restore.Rollback

/-!
# Recovering a target

A rollback that has put the old files back removes the transaction, its journal
and the namespace. Recovery reads the journal that a crash has left and rolls
the transaction back. Wherever a recovery is stopped, and however often, the old
generation is either back already or can still be put back.
-/

namespace AtlasOS.Restore

open Crash (World Process Run)

variable {Bytes : Type} {machine : Machine Bytes} {host : Host Bytes}
  {journal : RestoreJournal machine.py} {origin d₀ d d' : Disk Bytes}
  {S : Disk Bytes → Prop} {E : Error → World Call (Disk Bytes) → Prop}
  {w : World Call (Disk Bytes)} {operation : RestoreOperation}

/-! ## The removal of the evidence -/

theorem Place.length_path_le (transaction_id : String) (place : Place) :
    (place.path transaction_id).length ≤ 5 := by
  have hfile (path : TransactionPath) : path.parts.length ≤ 2 := by
    rw [TransactionPath.parts, List.length_append, List.length_map]
    have hdirectory := path.directory.length_toList_le
    simp only [List.length_singleton]
    omega
  have hparent (parent : ManagedDirectory) : parent.parts.length = 1 := rfl
  have hnamespace : NAMESPACE.length = 1 := rfl
  cases place with
  | final path =>
    have := hfile path
    simp only [Place.path]
    omega
  | areaFile part path =>
    have := hfile path
    simp only [Place.path, areaPath, List.length_append, List.length_cons, List.length_nil]
    omega
  | areaDirectory part parent =>
    have := hparent parent
    simp only [Place.path, areaPath, List.length_append, List.length_cons, List.length_nil]
    omega
  | _ =>
    simp [Place.path, JOURNAL_PATH, TEMPORARY_PATH, areaPath, NAMESPACE, ManagedDirectory.parts]

/-- What lies in the transaction can be removed. -/
theorem Confined.removable (h : Confined journal d) :
    Removable d (NAMESPACE ++ [journal.transaction_id]) := by
  intro entry node hbelow hentry
  obtain ⟨place, rfl, hfits⟩ := h entry ((List.prefix_append _ _).trans hbelow) node hentry
  have hid := journal.checks.1
  have hother {place : Place} (hne : place ≠ .transaction) :
      place.path journal.transaction_id ≠ NAMESPACE ++ [journal.transaction_id] :=
    fun hpath => hne (Place.path_injective hid hpath)
  have hfile {place : Place} {node : Node Bytes} (hne : place ≠ .transaction)
      (hplain : IsPlainFile node) :
      place.path journal.transaction_id ≠ NAMESPACE ++ [journal.transaction_id] ∧
        ∃ content metadata nlink, node = .file content metadata nlink := by
    obtain ⟨content, metadata, rfl⟩ := hplain
    exact ⟨hother hne, content, metadata, 1, rfl⟩
  cases place with
  | final path => exact hfits.elim
  | directory parent => exact hfits.elim
  | restoreNamespace => exact .inl ⟨_, hfits⟩
  | transaction => exact .inl ⟨_, hfits⟩
  | area part => exact .inl ⟨_, hfits⟩
  | areaDirectory part parent => exact .inl hfits
  | journal => exact .inr (hfile (by simp) hfits)
  | temporary => exact .inr (hfile (by simp) hfits)
  | areaFile part path => exact .inr (hfile (by simp) hfits)

/-- The namespace holds the journal, its temporary file and the transaction. -/
theorem Confined.child (h : Confined journal d) {name : String}
    (hname : d.node (NAMESPACE ++ [name]) ≠ none) :
    ∃ place, (place = .journal ∨ place = .temporary ∨ place = .transaction) ∧
      journal.look d place ≠ none := by
  obtain ⟨node, hnode⟩ := Option.ne_none_iff_exists'.mp hname
  obtain ⟨place, hpath, -⟩ := h _ (List.prefix_append _ _) node hnode
  refine ⟨place, ?_, by rwa [RestoreJournal.look, ← hpath]⟩
  have hlength := congrArg List.length hpath
  cases place with
  | journal => exact .inl rfl
  | temporary => exact .inr (.inl rfl)
  | transaction => exact .inr (.inr rfl)
  | final path => exact (path.head_parts (congrArg List.head? hpath).symm).elim
  | _ =>
    simp [Place.path, areaPath, NAMESPACE, ManagedDirectory.parts, TransactionPath.parts] at hlength

/-- What is left in the namespace still fits there. -/
theorem Confined.pruned (h : Confined journal d) (hpruned : d.Pruned NAMESPACE d') :
    Confined journal d' := by
  intro path hpath node hnode
  rcases hpruned path with hsame | ⟨-, hnone⟩
  · exact h path hpath node (hsame ▸ hnode)
  · rw [hnone] at hnode
    cases hnode

/-- What the removal of the evidence leaves of the namespace. -/
structure Purged (journal : RestoreJournal machine.py) (d d' : Disk Bytes) : Prop where
  pruned : d.Pruned NAMESPACE d'
  noTransaction : journal.look d' .transaction = none
  noJournal : journal.look d' .journal = none
  /-- The namespace stays only when the journal was being written. -/
  noNamespace : journal.look d .temporary = none → journal.look d' .restoreNamespace = none

/-- The transaction, the journal and the namespace are removed. -/
theorem run_removeTransactionEvidence (hS : ∀ d', d.Pruned NAMESPACE d' → S d')
    (h : At host S E w d) (hconfined : Confined journal d)
    (hnamespace : d.isDirectory NAMESPACE = true) :
    Run S (removeTransactionEvidence machine host journal) w
      (Leaves host S E (Purged journal d)) E := by
  have hid := journal.checks.1
  have hprune {path : Parts} {d₁ d₂ : Disk Bytes} (hinside : NAMESPACE <+: path)
      (hpruned : d.Pruned NAMESPACE d₁) (hstep : d₁.Pruned path d₂) : d.Pruned NAMESPACE d₂ :=
    hpruned.trans hstep hinside
  have hlink : d.isSymlink NAMESPACE = false := by
    obtain ⟨metadata, hnode⟩ := Disk.isDirectory_iff.mp hnamespace
    simp [Disk.isSymlink, hnode]
  unfold removeTransactionEvidence
  refine h.observe_bind (b := ()) (by simp [safeDescendant, hlink]) fun v hv => ?_
  have hdepth (entry : Parts) (hbelow : NAMESPACE ++ [journal.transaction_id] <+: entry)
      (hne : d.node entry ≠ none) :
      entry.length < (NAMESPACE ++ [journal.transaction_id]).length + RECURSION_LIMIT := by
    obtain ⟨node, hnode⟩ := Option.ne_none_iff_exists'.mp hne
    obtain ⟨place, rfl, -⟩ :=
      hconfined entry ((List.prefix_append _ _).trans hbelow) node hnode
    have := place.length_path_le journal.transaction_id
    simp only [RECURSION_LIMIT]
    omega
  refine run_bind (run_removeTree hv (by simp) hconfined.removable hdepth (by decide)
    fun d₁ hpruned => hS _ (hprune (List.prefix_append _ _) (.refl d _) hpruned))
    fun v d₁ hv hremoved => ?_
  have hpruned₁ := hprune (List.prefix_append _ _) (.refl d _) hremoved.pruned
  have hnamespace₁ : d₁.isDirectory NAMESPACE = true := by
    have hparent := hremoved.isDirectory_dropLast (by simp)
    rw [List.dropLast_concat] at hparent
    rw [hparent, hnamespace]
  have htransaction₁ : journal.look d₁ .transaction = none := by
    show d₁.node (NAMESPACE ++ [journal.transaction_id]) = none
    rw [hremoved, if_pos List.prefix_rfl]
  refine hv.observe_bind (fsyncDirectory_ok hnamespace₁) fun v hv => ?_
  -- What is left to do once the journal is gone.
  have hfinish {v : World Call (Disk Bytes)} {d₂ : Disk Bytes} (hv : At host S E v d₂)
      (hpruned₂ : d.Pruned NAMESPACE d₂) (hnamespace₂ : d₂.isDirectory NAMESPACE = true)
      (htransaction₂ : journal.look d₂ .transaction = none)
      (hjournal₂ : journal.look d₂ .journal = none) :
      Run S (do
          let removable ← observe host fun d =>
            return d.existsAt NAMESPACE && (d.children NAMESPACE).isEmpty
          if removable then
            change host (.rmdir NAMESPACE) (·.rmdir NAMESPACE)
            fsyncDirectory host []) v (Leaves host S E (Purged journal d)) E := by
    obtain ⟨metadata, hself⟩ := Disk.isDirectory_iff.mp hnamespace₂
    have hexists : d₂.existsAt NAMESPACE = true := by simp [Disk.existsAt, hself]
    refine hv.observe_bind (b := (d₂.children NAMESPACE).isEmpty) (by simp [hexists])
      fun v hv => ?_
    cases hempty : (d₂.children NAMESPACE).isEmpty with
    | true =>
      have hchildren (name : String) : d₂.node (NAMESPACE ++ [name]) = none :=
        Disk.children_eq_nil.mp (List.isEmpty_iff.mp hempty) name
      obtain ⟨d₃, hd₃⟩ := Disk.rmdir_of (by simp [NAMESPACE]) hnamespace₂ hchildren
      have hsets := (Disk.sets_of_rmdir hd₃).1
      have hpruned₃ := hprune List.prefix_rfl hpruned₂ hsets.pruned
      refine hv.change_bind hd₃ (hS _ hpruned₃) fun v hv => ?_
      refine hv.observe (fsyncDirectory_ok (Disk.isDirectory_iff.mpr d₃.node_root)) fun v hv =>
        hv.leaves ⟨hpruned₃, ?_, ?_, fun _ => hsets.self⟩
      · exact (hsets.other (by simp [Place.path, NAMESPACE])).trans htransaction₂
      · exact (hsets.other (by simp [Place.path, JOURNAL_PATH, NAMESPACE])).trans hjournal₂
    | false =>
      refine hv.skip ⟨hpruned₂, htransaction₂, hjournal₂, fun htemporary => ?_⟩
      -- The namespace holds the temporary file, since nothing else can be left in it.
      have hchild : d₂.children NAMESPACE ≠ [] := by
        intro hnil
        rw [hnil] at hempty
        cases hempty
      obtain ⟨name, hname⟩ := List.exists_mem_of_ne_nil _ hchild
      have htemporary₂ : journal.look d₂ .temporary = none := by
        rcases hpruned₂ TEMPORARY_PATH with hsame | ⟨-, hnone⟩
        · exact hsame.trans htemporary
        · exact hnone
      obtain ⟨place, rfl | rfl | rfl, hpresent⟩ :=
        (hconfined.pruned hpruned₂).child (Disk.mem_children.mp hname)
      · exact (hpresent hjournal₂).elim
      · exact (hpresent htemporary₂).elim
      · exact (hpresent htransaction₂).elim
  cases hjournal : journal.look d₁ .journal with
  | none =>
    have hnode : d₁.node JOURNAL_PATH = none := hjournal
    refine hv.observe_bind (b := false) (by simp [Disk.existsAt, hnode]) fun v hv => ?_
    exact hfinish hv hpruned₁ hnamespace₁ htransaction₁ hjournal
  | some node =>
    obtain ⟨content, metadata, rfl⟩ := (hconfined.pruned hpruned₁).fits rfl hjournal
    have hnode : d₁.node JOURNAL_PATH = some (.file content metadata 1) := hjournal
    refine hv.observe_bind (b := true) (by simp [Disk.existsAt, hnode]) fun v hv => ?_
    obtain ⟨d₂, hd₂⟩ : ∃ d₂, d₁.unlink JOURNAL_PATH = some d₂ := Disk.unlink_of
      (by simp [Disk.isDirectory, hnode, Node.isDirectory]) (by simp [hnode])
    have hsets := Disk.sets_of_unlink hd₂
    have hinside : NAMESPACE <+: JOURNAL_PATH := List.prefix_append _ _
    have hpruned₂ := hprune hinside hpruned₁ hsets.pruned
    have hnamespace₂ : d₂.isDirectory NAMESPACE = true := by
      rw [hsets.isDirectory_other (by simp [JOURNAL_PATH, NAMESPACE]), hnamespace₁]
    have htransaction₂ : journal.look d₂ .transaction = none := by
      have hne : Place.path journal.transaction_id .transaction ≠ JOURNAL_PATH :=
        fun hpath => absurd (Place.path_injective (q := .journal) hid hpath) (by simp)
      exact (hsets.other hne).trans htransaction₁
    refine hv.change_bind hd₂ (hS _ hpruned₂) fun v hv => ?_
    refine hv.observe_bind (fsyncDirectory_ok hnamespace₂) fun v hv => ?_
    exact hfinish hv hpruned₂ hnamespace₂ htransaction₂ hsets.self

/-! ## The whole rollback -/

/-- Outside of the namespace the target is as it was. -/
def Restored (origin d : Disk Bytes) : Prop :=
  ∀ path, ¬ NAMESPACE <+: path → d.node path = origin.node path

theorem Restored.pruned (h : Restored origin d) (hpruned : d.Pruned NAMESPACE d') :
    Restored origin d' := by
  intro path hpath
  rcases hpruned path with hsame | ⟨hinside, -⟩
  · rw [hsame, h path hpath]
  · exact (hpath hinside).elim

/-- The old generation is in place, and no old file is left in the rollback area. -/
structure Reset (journal : RestoreJournal machine.py) (origin d : Disk Bytes) : Prop where
  restored : Restored origin d
  confined : Confined journal d
  emptied : ∀ path, journal.look d (.areaFile .rollback path) = none

namespace Reset

theorem pruned (h : Reset journal origin d) (hpruned : d.Pruned NAMESPACE d') :
    Reset journal origin d' where
  restored := h.restored.pruned hpruned
  confined := h.confined.pruned hpruned
  emptied path := by
    rcases hpruned (Place.path journal.transaction_id (.areaFile .rollback path)) with
      hsame | ⟨-, hnone⟩
    · exact hsame.trans (h.emptied path)
    · exact hnone

theorem final (h : Reset journal origin d) (path : TransactionPath) :
    journal.look d (.final path) = origin.node path.parts := by
  refine h.restored path.parts fun hinside => ?_
  cases (Place.inside_iff journal.transaction_id (.final path)).mp hinside

/-- What is in place again can still be rolled back. -/
theorem evidence (h : Reset journal origin d) (hcaptured : Captured journal origin) :
    Evidence journal origin d where
  framed path hpath := h.restored path hpath.1
  confined := h.confined
  files path := .inl ⟨h.emptied path, h.final path⟩
  directories parent := by
    have hlook : journal.look d (.directory parent) = origin.node parent.parts := by
      refine h.restored parent.parts fun hinside => ?_
      cases (Place.inside_iff journal.transaction_id (.directory parent)).mp hinside
    have hmem : parent ∈ journal.directories.map (·.path) := by
      rw [journal.checks.2.2.2.2.2.1]
      cases parent <;> simp
    obtain ⟨state, hstate, rfl⟩ := List.mem_map.mp hmem
    have horigin := hcaptured.directories state hstate
    rw [hlook, horigin]
    cases state.metadata with
    | none => exact .inr ⟨rfl, rfl⟩
    | some metadata => exact .inl ⟨metadata, rfl⟩

/-- Old files and directories that are back are the whole old generation. -/
theorem of_settled (hevidence : Evidence journal origin d) (hsettled : AllSettled journal origin d)
    (hdirectories : ∀ parent : ManagedDirectory,
      journal.look d (.directory parent) = origin.node parent.parts) : Reset journal origin d where
  restored path hpath := by
    by_cases hfile : ∃ managed : TransactionPath, path = managed.parts
    · obtain ⟨managed, rfl⟩ := hfile
      exact (hsettled managed).2
    by_cases hdirectory : ∃ parent : ManagedDirectory, path = parent.parts
    · obtain ⟨parent, rfl⟩ := hdirectory
      exact hdirectories parent
    refine hevidence.framed path ⟨hpath, fun managed heq => hfile ⟨managed, heq⟩, fun parent heq =>
      hdirectory ⟨parent, heq⟩⟩
  confined := hevidence.confined
  emptied path := (hsettled path).1

end Reset

/-- The states of a rollback: the old generation is being put back, or its evidence removed. -/
def RollsBack (journal : RestoreJournal machine.py) (origin d₀ d : Disk Bytes) : Prop :=
  Rolling journal origin d₀ d ∨ ∃ d₁, Rolling journal origin d₀ d₁ ∧ Reset journal origin d₁ ∧
    d₁.Pruned NAMESPACE d

/-- The whole rollback puts the old generation back and removes its evidence. -/
theorem run_rollback (hcaptured : Captured journal origin) (huniform : ∀ e e' v, E e v → E e' v)
    (hS : ∀ d', RollsBack journal origin d₀ d' → S d') (h : At host S E w d)
    (hroll : Rolling journal origin d₀ d) (hnamespace : d.isDirectory NAMESPACE = true) :
    Run S (rollback machine host journal) w
      (Leaves host S E fun d' => ∃ d₁, Rolling journal origin d₀ d₁ ∧ Reset journal origin d₁ ∧
        Purged journal d₁ d') E := by
  have hrolling (d' : Disk Bytes) (hroll' : Rolling journal origin d₀ d') : S d' :=
    hS d' (.inl hroll')
  unfold rollback
  -- Some of the operations have been rolled back, the last one first.
  have hoperations : Run S (journal.operations.reverse.forM
      (rollbackOperation machine host (areaPath journal.transaction_id .rollback))) w _ E :=
    run_forM (fun before d' => Rolling journal origin d₀ d' ∧
        ∀ operation ∈ before, Settled journal origin d' operation.path)
      h ⟨hroll, by simp⟩ fun before operation after v d₁ heq hv hbefore => by
        obtain ⟨hroll₁, hsettled₁⟩ := hbefore
        have hmem : operation ∈ journal.operations := by
          rw [← List.mem_reverse, heq]
          simp
        refine (run_rollbackOperation hcaptured hmem hrolling hv hroll₁).mono
          (fun _ h => h) (fun _ v _ hleaves => ?_) fun _ _ _ h => h
        obtain ⟨d₂, hd₂, hroll₂, hlocal, hsettled⟩ := hleaves
        refine hd₂.leaves ⟨hroll₂, fun other hother => ?_⟩
        by_cases hsame : other.path = operation.path
        · rw [hsame]
          exact hsettled
        · rcases List.mem_append.mp hother with hother | hother
          · exact hlocal.settled hsame (hsettled₁ other hother)
          · cases List.mem_singleton.mp hother
            exact (hsame rfl).elim
  refine run_bind hoperations fun v d₁ hv hpost => ?_
  obtain ⟨hroll₁, hstates⟩ := hpost
  have hsettled₁ : AllSettled journal origin d₁ := by
    intro path
    obtain ⟨operation, hmem, rfl⟩ := journal.exists_operation path
    exact hstates operation (List.mem_reverse.mpr hmem)
  refine run_bind (run_restoreDirectoryAbsence hcaptured huniform hrolling hv hroll₁ hsettled₁)
    fun v d₂ hv hpost => ?_
  obtain ⟨hroll₂, hsettled₂, hdirectories₂⟩ := hpost
  have hreset := Reset.of_settled hroll₂.evidence hsettled₂ hdirectories₂
  have hverify : Run S (journal.operations.forM fun operation => observe host fun d => do
      safeTargetPath operation.path.parts d
      verifyFileState machine.storage operation.path.parts operation.original
        operation.path.value d) v (Leaves host S E fun d' => d' = d₂) E :=
    run_forM (fun _ d' => d' = d₂) hv rfl fun before operation after u d' heq hu hsame => by
      subst hsame
      have hmem : operation ∈ journal.operations := by
        rw [heq]
        simp
      have hrecords := hcaptured.files operation hmem
      rw [← hreset.final operation.path] at hrecords
      have hverified : verifyFileState machine.storage operation.path.parts operation.original
          operation.path.value d' = .ok () := verifyFileState_ok hrecords
      refine hu.observe (a := ()) ?_ fun u hu => hu.leaves rfl
      rw [hroll₂.evidence.safeTargetPath_ok, ok_bind, hverified]
  refine run_bind hverify fun u d' hu hsame => ?_
  subst hsame
  have hnamespace₂ : d'.isDirectory NAMESPACE = true := by
    have hback : journal.look d₀ .restoreNamespace = journal.look d .restoreNamespace :=
      (hroll.undisturbed _ rfl (by simp)).symm
    have hsame := (hroll₂.undisturbed .restoreNamespace rfl (by simp)).trans hback
    obtain ⟨metadata, hnode⟩ := Disk.isDirectory_iff.mp hnamespace
    exact Disk.isDirectory_of_node (hsame.trans hnode)
  refine (run_removeTransactionEvidence (fun d₃ hpruned => hS d₃ (.inr ⟨d', hroll₂, hreset,
    hpruned⟩)) hu hreset.confined hnamespace₂).mono (fun _ h => h) (fun _ v _ hleaves => ?_)
      fun _ _ _ h => h
  obtain ⟨d₃, hd₃, hpurged⟩ := hleaves
  exact hd₃.leaves ⟨d', hroll₂, hreset, hpurged⟩

/-! ## Reading the journal -/

/-- The journal is on the disk. -/
def Stored (journal : RestoreJournal machine.py) (d : Disk Bytes) : Prop :=
  journal.look d .journal = some (.file (machine.storage.document journal.toDict)
    ⟨PRIVATE_FILE_MODE, journal.runtime_uid, journal.runtime_gid⟩ 1)

/-- The namespace of a journal is a private directory. -/
theorem Stored.namespace (hstored : Stored journal d) (hconfined : Confined journal d) :
    d.node NAMESPACE = some (privateDirectory journal.runtime_uid journal.runtime_gid) := by
  have hjournal : d.node JOURNAL_PATH = _ := hstored
  have hpresent : d.node (NAMESPACE ++ [JOURNAL_NAME]) ≠ none := by
    intro hnone
    rw [JOURNAL_PATH, hnone] at hjournal
    cases hjournal
  obtain ⟨metadata, hnode⟩ := Disk.parent_directory hpresent
  have hlook : journal.look d .restoreNamespace = some (.directory metadata) := hnode
  have hfits : Node.directory metadata = _ := hconfined.fits rfl hlook
  rw [hnode, hfits]

theorem mem_allowedFiles (journal : RestoreJournal machine.py) (area : Area)
    (path : TransactionPath) : area.name :: path.parts ∈ allowedFiles journal.operations := by
  obtain ⟨operation, hmem, rfl⟩ := journal.exists_operation path
  refine List.mem_flatMap.mpr ⟨area.name, by cases area <;> simp [Area.name], ?_⟩
  exact List.mem_map.mpr ⟨operation, hmem, rfl⟩

theorem mem_allowedDirectories (journal : RestoreJournal machine.py) (area : Area)
    (parent : ManagedDirectory) :
    area.name :: parent.parts ∈ allowedDirectories journal.operations := by
  obtain ⟨path, hdirectory⟩ : ∃ path : TransactionPath, path.directory = some parent := by
    cases parent with
    | config => exact ⟨.main .policies, rfl⟩
    | secrets => exact ⟨.main .providerSecrets, rfl⟩
  refine List.mem_append_right _ (List.mem_flatMap.mpr ⟨_, mem_allowedFiles journal area path, ?_⟩)
  have hparts : path.parts = parent.parts ++ [path.name] := by
    rw [TransactionPath.parts, hdirectory]
    rfl
  refine List.mem_filter.mpr ⟨(List.mem_inits _ _).mpr ⟨[path.name], by rw [hparts]; rfl⟩, ?_⟩
  simp [hparts, ManagedDirectory.parts]

/-- What a transaction leaves in its directory is what the engine expects there. -/
theorem validateTransactionContents_ok (h : Confined journal d) :
    validateTransactionContents (NAMESPACE ++ [journal.transaction_id]) journal.operations d =
      .ok () := by
  unfold validateTransactionContents
  refine forM_eq_ok.mpr ?_
  rintro ⟨path, node⟩ hmem
  obtain ⟨hnode, hbelow, hne⟩ := Disk.mem_below.mp hmem
  obtain ⟨place, rfl, hfits⟩ := h path ((List.prefix_append _ _).trans hbelow) node hnode
  have hid := journal.checks.1
  have hlong := hbelow.length_le
  have hrelative (rest : Parts) : (NAMESPACE ++ [journal.transaction_id] ++ rest).drop
      (NAMESPACE ++ [journal.transaction_id]).length = rest := List.drop_left
  cases place with
  | final path => exact hfits.elim
  | directory parent => exact hfits.elim
  | restoreNamespace => simp [Place.path, NAMESPACE] at hlong
  | transaction => exact (hne rfl).elim
  | journal =>
    have heq := hbelow.eq_of_length (by simp [Place.path, JOURNAL_PATH])
    exact absurd (Place.path_injective (p := .transaction) (q := .journal) hid heq) (by simp)
  | temporary =>
    have heq := hbelow.eq_of_length (by simp [Place.path, TEMPORARY_PATH])
    exact absurd (Place.path_injective (p := .transaction) (q := .temporary) hid heq) (by simp)
  | area part =>
    have hpath : areaPath journal.transaction_id part =
        NAMESPACE ++ [journal.transaction_id] ++ [part.name] := rfl
    have hallowed : [part.name] ∈ allowedDirectories journal.operations := by
      refine List.mem_append_left _ ?_
      cases part <;> simp [Area.name]
    rw [hfits]
    simp only [Place.path, hpath, hrelative, privateDirectory, hallowed, decide_true, demand_true]
  | areaDirectory part parent =>
    obtain ⟨metadata, rfl⟩ := hfits
    have hpath : areaPath journal.transaction_id part ++ parent.parts =
        NAMESPACE ++ [journal.transaction_id] ++ (part.name :: parent.parts) := rfl
    have hallowed := mem_allowedDirectories journal part parent
    simp only [Place.path, hpath, hrelative, hallowed, decide_true, demand_true]
  | areaFile part path =>
    obtain ⟨content, metadata, rfl⟩ := hfits
    have hpath : areaPath journal.transaction_id part ++ path.parts =
        NAMESPACE ++ [journal.transaction_id] ++ (part.name :: path.parts) := by
      simp [areaPath]
    have hallowed := mem_allowedFiles journal part path
    simp only [Place.path, hpath, hrelative, hallowed, decide_true, demand_true]

/-- A journal that is on the disk is read back, with its transaction or when it is committed. -/
theorem loadJournal_eq (hcaptured : Captured journal origin) (hconfined : Confined journal d)
    (hstored : Stored journal d) :
    loadJournal machine d =
      if (journal.look d .transaction).isSome || journal.phase = .committed then .ok journal
      else .error (.journal "restore transaction directory is missing") := by
  have hjournal : d.node JOURNAL_PATH = _ := hstored
  have hnamespace := hstored.namespace hconfined
  have hlink : d.isSymlink NAMESPACE = false := by simp [Disk.isSymlink, hnamespace, privateDirectory]
  have hsafe : safeDescendant NAMESPACE [journal.transaction_id] d = .ok () := by
    simp [safeDescendant, hlink]
  have hprivate {path : Parts} {owner : Option (ℕ × ℕ)}
      (hnode : d.node path = some (privateDirectory journal.runtime_uid journal.runtime_gid))
      (howner : owner = none ∨ owner = some (journal.runtime_uid, journal.runtime_gid)) :=
    assertPrivateDirectory_ok machine.target hnode howner
  have hread := journal.fromDict_toDict
  unfold loadJournal
  rw [hprivate hnamespace (.inl rfl), ok_bind, hjournal]
  cases hlook : journal.look d .transaction with
  | none =>
    have hdirectory : d.node (NAMESPACE ++ [journal.transaction_id]) = none := hlook
    have hexists : d.existsAt (NAMESPACE ++ [journal.transaction_id]) = false := by
      simp [Disk.existsAt, hdirectory]
    simp [machine.storage.loads_document, hread, hcaptured.target_path, hcaptured.device,
      hcaptured.inode, hsafe, hexists, hdirectory, hprivate hnamespace (.inr rfl)]
    split
    · next hphase => simp [hphase]
    · next hphase => simp [demand, hphase]
  | some node =>
    have hfits : node = _ := hconfined.fits rfl hlook
    have hdirectory : d.node (NAMESPACE ++ [journal.transaction_id]) =
        some (privateDirectory journal.runtime_uid journal.runtime_gid) := by
      rw [← hfits]
      exact hlook
    have hexists : d.existsAt (NAMESPACE ++ [journal.transaction_id]) = true := by
      simp [Disk.existsAt, hdirectory, privateDirectory]
    have hcontents : validateTransactionContents (NAMESPACE ++ [journal.transaction_id])
        journal.operations d = .ok () := validateTransactionContents_ok hconfined
    simp [machine.storage.loads_document, hread, hcaptured.target_path, hcaptured.device,
      hcaptured.inode, hsafe, hexists, hdirectory, hcontents, hprivate hnamespace (.inr rfl),
      hprivate hdirectory (.inr rfl)]

/-! ## Recovery -/

/-- A transaction before its commit: its journal, its directory and all the old files. -/
structure Pending (journal : RestoreJournal machine.py) (origin d : Disk Bytes) : Prop where
  evidence : Evidence journal origin d
  stored : Stored journal d
  transaction : journal.look d .transaction ≠ none

/-- A transaction that was rolled back, with its evidence on the way out. -/
structure Undone (journal : RestoreJournal machine.py) (origin d : Disk Bytes) : Prop where
  reset : Reset journal origin d
  incomplete : journal.look d .journal = none ∨
    Stored journal d ∧ journal.look d .transaction = none

/-- The states of a recovery. -/
def Recovering (journal : RestoreJournal machine.py) (origin d : Disk Bytes) : Prop :=
  Pending journal origin d ∨ Undone journal origin d

theorem Rolling.pending (h : Rolling journal origin d₀ d) (hpending : Pending journal origin d₀) :
    Pending journal origin d where
  evidence := h.evidence
  stored := (h.undisturbed .journal rfl (by simp)).trans hpending.stored
  transaction := by
    rw [h.undisturbed .transaction rfl (by simp)]
    exact hpending.transaction

/-- The evidence that is left of a transaction that was rolled back. -/
theorem Reset.recovering (hcaptured : Captured journal origin) (h : Reset journal origin d)
    (hjournal : journal.look d .journal = none ∨ Stored journal d) :
    Recovering journal origin d := by
  rcases hjournal with hnone | hstored
  · exact .inr ⟨h, .inl hnone⟩
  · by_cases htransaction : journal.look d .transaction = none
    · exact .inr ⟨h, .inr ⟨hstored, htransaction⟩⟩
    · exact .inl ⟨h.evidence hcaptured, hstored, htransaction⟩

theorem RollsBack.recovering (hcaptured : Captured journal origin)
    (hpending : Pending journal origin d₀) (h : RollsBack journal origin d₀ d) :
    Recovering journal origin d := by
  rcases h with hroll | ⟨d₁, hroll, hreset, hpruned⟩
  · exact .inl (hroll.pending hpending)
  · refine (hreset.pruned hpruned).recovering hcaptured ?_
    rcases hpruned JOURNAL_PATH with hsame | ⟨-, hnone⟩
    · exact .inr (hsame.trans (hroll.pending hpending).stored)
    · exact .inl hnone

/-- A call was made and failed, as the host decided. -/
def Hindered (host : Host Bytes) (_ : Error) (w : World Call (Disk Bytes)) : Prop :=
  ∃ u call, (u.record ⟨call, true, u.state⟩).Extends w ∧
    (host.fails u call = true ∨
      ∃ event index, call = .hook event index ∧ (host.hook u event index).isSome)

theorem excuses_hindered : Excuses host S (Hindered host) w where
  calls u call _ _ hfails := ⟨u, call, .refl _, .inl hfails⟩
  hooks u event index e _ _ hhook := ⟨u, _, .refl _, .inr ⟨event, index, rfl, by simp [hhook]⟩⟩

/-- A transaction that is recovered is rolled back, unless a call fails. -/
theorem run_recover_pending {expected : Option String} (hcaptured : Captured journal origin)
    (hphase : journal.phase ≠ .committed) (hstate : w.state = d)
    (hpending : Pending journal origin d) :
    Run (Recovering journal origin) (recover machine host expected) w
      (fun answer v => answer = "rolled_back" ∧ Restored origin v.state ∧
        ∃ d₁, journal.look d₁ .temporary = journal.look d .temporary ∧ Purged journal d₁ v.state)
      (Hindered host) := by
  have h : At host (Recovering journal origin) (Hindered host) w d :=
    ⟨hstate, .inl hpending, excuses_hindered⟩
  have hload : loadJournal machine d = .ok journal := by
    rw [loadJournal_eq hcaptured hpending.evidence.confined hpending.stored]
    simp [Option.isSome_iff_ne_none, hpending.transaction]
  have hpresent : (d.node JOURNAL_PATH).isSome = true := by
    have hjournal : d.node JOURNAL_PATH = _ := hpending.stored
    rw [hjournal]
    rfl
  have hnamespace : d.isDirectory NAMESPACE = true :=
    Disk.isDirectory_of_node (hpending.stored.namespace hpending.evidence.confined)
  unfold recover
  refine h.observe_bind (b := some journal) (by simp [hcaptured.root, hpresent, hload])
    fun v hv => ?_
  simp only [hphase, if_false]
  have hrollback := run_rollback hcaptured (fun _ _ _ he => he)
    (fun d' => RollsBack.recovering hcaptured hpending) hv
    ⟨hpending.evidence, .refl d⟩ hnamespace
  refine Run.bind (hrollback.handle (R := Hindered host) fun e v _ he => ?_) fun _ v _ hleaves => ?_
  · cases e.isRecoveryRequired with
    | true => exact Run.raise he
    | false =>
      cases e.isException with
      | true => exact Run.raise he
      | false => exact Run.raise he
  · obtain ⟨d', hd', d₁, hroll, hreset, hpurged⟩ := hleaves
    refine Run.done ⟨rfl, ?_, d₁, hroll.undisturbed .temporary rfl (by simp), ?_⟩
    · rw [hd'.state]
      exact hreset.restored.pruned hpurged.pruned
    · rw [hd'.state]
      exact hpurged

/-- A recovery that finds the old generation in place changes nothing. -/
theorem run_recover_undone {expected : Option String} (hcaptured : Captured journal origin)
    (hphase : journal.phase ≠ .committed) (hstate : w.state = d)
    (hundone : Undone journal origin d) :
    Run (Recovering journal origin) (recover machine host expected) w
      (fun answer v => answer = "no_transaction" ∧ Restored origin v.state) (fun _ _ => True) := by
  have h : At host (Recovering journal origin) (fun _ _ => True) w d :=
    ⟨hstate, .inr hundone, fun _ _ _ _ _ => trivial, fun _ _ _ _ _ _ _ => trivial⟩
  unfold recover
  refine h.observe_or_bind (fun _ _ _ _ => trivial) fun pending v hv hpending => ?_
  have hnone : pending = none := by
    simp only [hcaptured.root, ok_bind] at hpending
    rcases hundone.incomplete with hjournal | ⟨hstored, htransaction⟩
    · have hnode : d.node JOURNAL_PATH = none := hjournal
      simp only [Disk.isPresent_eq, hnode, Option.isSome_none, Bool.false_eq_true, if_false,
        check_bind_eq_ok] at hpending
      cases hpending.2
      rfl
    · have hjournal : d.node JOURNAL_PATH = _ := hstored
      have hload := loadJournal_eq hcaptured hundone.reset.confined hstored
      rw [htransaction, if_neg (by simpa using hphase)] at hload
      simp only [Disk.isPresent_eq, hjournal, Option.isSome_some, if_true, hload,
        error_bind] at hpending
      cases hpending
  subst hnone
  refine Run.done ⟨rfl, ?_⟩
  rw [hv.state]
  exact hundone.reset.restored

/-! ## Recovery again and again -/

/-- A target after some recoveries, each of which was stopped somewhere or came to its end. -/
inductive Attempts (machine : Machine Bytes) (d : Disk Bytes) : Disk Bytes → Prop where
  | none : Attempts machine d d
  | stopped {d' : Disk Bytes} {v : World Call (Disk Bytes)} (before : Attempts machine d d')
      (host : Host Bytes) (expected : Option String)
      (hv : Process.Interrupted (recover machine host expected) (World.fresh d') v) :
      Attempts machine d v.state

/-- However recoveries are stopped, the next one can go on. -/
theorem Attempts.recovering (hcaptured : Captured journal origin)
    (hphase : journal.phase ≠ .committed) (h : Attempts machine d d')
    (hrecovering : Recovering journal origin d) : Recovering journal origin d' := by
  induction h with
  | none => exact hrecovering
  | @stopped d' v before host expected hv ih =>
    have hstate : (World.fresh d' : World Call (Disk Bytes)).state = d' := World.state_fresh d'
    rcases ih with hpending | hundone
    · exact (run_recover_pending hcaptured hphase hstate hpending).interrupted (.inl hpending) hv
    · exact (run_recover_undone hcaptured hphase hstate hundone).interrupted (.inr hundone) hv

/-! ## An empty target -/

/-- A target that has no namespace can have the transaction of a journal that was captured there. -/
theorem exists_pending (hcaptured : Captured journal origin)
    (habsent : ∀ path, NAMESPACE <+: path → origin.node path = none) :
    ∃ d, Pending journal origin d := by
  have hinside {place : Place} (h : place.isInside = true) :
      origin.node (place.path journal.transaction_id) = none :=
    habsent _ ((Place.inside_iff journal.transaction_id place).mpr h)
  have hreset : Reset journal origin origin := by
    refine ⟨fun _ _ => rfl, fun path hpath node hnode => ?_, fun path => hinside rfl⟩
    rw [habsent path hpath] at hnode
    cases hnode
  have hevidence := hreset.evidence hcaptured
  let directory : Node Bytes := privateDirectory journal.runtime_uid journal.runtime_gid
  obtain ⟨metadata, hroot⟩ := origin.node_root
  obtain ⟨d₁, hd₁⟩ := Disk.add_of_absent
    (show origin.isDirectory (Place.path journal.transaction_id .restoreNamespace).dropLast = true from
      Disk.isDirectory_of_node hroot) (hinside rfl) directory
  have hsets₁ := (Disk.sets_of_add hd₁).2
  have hnode₁ (place : Place) := look_sets hsets₁ place
  have hevidence₁ := hevidence.set_inside hsets₁ rfl (by simp) (by rintro n ⟨⟩; rfl)
  obtain ⟨d₂, hd₂⟩ := Disk.add_of_absent
    (show d₁.isDirectory (Place.path journal.transaction_id .transaction).dropLast = true from
      Disk.isDirectory_of_node hsets₁.self) ((hnode₁ .transaction).trans (hinside rfl)) directory
  have hsets₂ := (Disk.sets_of_add hd₂).2
  have hnode₂ (place : Place) := look_sets hsets₂ place
  have hevidence₂ := hevidence₁.set_inside hsets₂ rfl (by simp) (by rintro n ⟨⟩; rfl)
  obtain ⟨d₃, hd₃⟩ := Disk.add_of_absent
    (show d₂.isDirectory (Place.path journal.transaction_id .journal).dropLast = true from
      Disk.isDirectory_of_node ((hnode₂ .restoreNamespace).trans hsets₁.self))
    ((hnode₂ .journal).trans ((hnode₁ .journal).trans (hinside rfl)))
    (.file (machine.storage.document journal.toDict)
      ⟨PRIVATE_FILE_MODE, journal.runtime_uid, journal.runtime_gid⟩ 1)
  have hsets₃ := (Disk.sets_of_add hd₃).2
  refine ⟨d₃, hevidence₂.set_inside hsets₃ rfl (by simp) ?_, hsets₃.self, ?_⟩
  · rintro n ⟨⟩
    exact ⟨_, _, rfl⟩
  · rw [look_sets hsets₃, if_neg (by simp), hnode₂, if_pos rfl]
    simp

theorem isAbsolute_data : isAbsolute "/data" = true := by decide

/-- A machine whose files have no content. -/
def plainMachine : Machine Json where
  py := Python.plain
  storage := Backup.plainStorage
  target := ⟨"/data", 1, 1, true, false, true, isAbsolute_data, Nat.one_pos⟩

/-- A process none of whose calls fails. -/
def calmHost : Host Json where
  fails _ _ := false
  hook _ _ _ := none
  scandir := id
  fresh mode := ⟨mode, 1000, 1000⟩
  scandir_perm _ := .refl _

/-- The journal of a restore into an empty target. -/
def plainJournal : RestoreJournal plainMachine.py := (emptyTargetJournal basicManifest).plain

theorem node_emptyDirectory {path : Parts} (h : path ≠ []) :
    Backup.emptyDirectory.node path = none := by
  simp [Backup.emptyDirectory, Disk.node, Ne.symm h]

theorem captured_plainJournal : Captured plainJournal Backup.emptyDirectory where
  root := by decide
  target_path := rfl
  device := rfl
  inode := rfl
  files operation hmem := by
    obtain ⟨held, hheld, rfl⟩ := List.mem_map.mp hmem
    obtain ⟨path, -, rfl⟩ := List.mem_map.mp hheld
    exact .inl ⟨node_emptyDirectory (by simp [HeldOperation.plain, TransactionPath.parts]), rfl⟩
  directories state hmem := by
    obtain ⟨held, hheld, rfl⟩ := List.mem_map.mp hmem
    have hnone : held.metadata = none := by
      rcases List.mem_pair.mp hheld with rfl | rfl <;> rfl
    rw [HeldDirectory.plain, hnone]
    exact node_emptyDirectory (by simp [ManagedDirectory.parts])

/-! ## The recovery of a restore -/

/-- Recovery is re-entrant and exact: from a transaction that has not been committed, after any
number of recoveries that were stopped anywhere, a recovery that returns leaves the target as it
was before the restore, and one that still finds the whole transaction fails only when one of its
calls does. -/
theorem recover_restores (hcaptured : Captured journal origin) (hphase : journal.phase ≠ .committed)
    (hpending : Pending journal origin d) (hattempts : Attempts machine d d')
    (host : Host Bytes) (expected : Option String) :
    (∀ answer, (recover machine host expected (World.fresh d')).1 = .ok answer →
      Restored origin (recover machine host expected (World.fresh d')).2.state) ∧
    (Pending journal origin d' → ∀ error,
      (recover machine host expected (World.fresh d')).1 = .error error →
        Hindered host error (recover machine host expected (World.fresh d')).2) ∧
    (¬ Pending journal origin d' → Restored origin d') := by
  have hrecovering := hattempts.recovering hcaptured hphase (.inl hpending)
  have hstate : (World.fresh d' : World Call (Disk Bytes)).state = d' := World.state_fresh d'
  refine ⟨fun answer hanswer => ?_, fun hpending' error herror => ?_, fun hnot => ?_⟩
  · rcases hrecovering with hpending' | hundone
    · exact ((run_recover_pending hcaptured hphase hstate hpending').returns answer hanswer).2.1
    · exact ((run_recover_undone hcaptured hphase hstate hundone).returns answer hanswer).2
  · exact (run_recover_pending hcaptured hphase hstate hpending').raises error herror
  · exact (hrecovering.resolve_left hnot).reset.restored

/-- An unfinished restore into an empty directory is rolled back. -/
theorem recover_restores_emptyTarget : ∃ d answer, Pending plainJournal Backup.emptyDirectory d ∧
    (recover plainMachine calmHost none (World.fresh d)).1 = .ok answer ∧
      Restored Backup.emptyDirectory (recover plainMachine calmHost none (World.fresh d)).2.state := by
  obtain ⟨d, hpending⟩ := exists_pending captured_plainJournal fun path hpath =>
    node_emptyDirectory fun hnil => by simp [hnil, NAMESPACE] at hpath
  obtain ⟨hrestores, hhindered, -⟩ :=
    recover_restores captured_plainJournal (by decide) hpending .none calmHost none
  cases hanswer : (recover plainMachine calmHost none (World.fresh d)).1 with
  | ok answer => exact ⟨d, answer, hpending, hanswer, hrestores answer hanswer⟩
  | error error =>
    -- No call of this process fails.
    obtain ⟨u, call, -, hfails | ⟨event, index, -, hhook⟩⟩ := hhindered hpending error hanswer
    · cases hfails
    · cases hhook

end AtlasOS.Restore
