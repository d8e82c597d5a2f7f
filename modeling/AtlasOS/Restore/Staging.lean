import AtlasOS.Lib.Rows
import AtlasOS.Restore.Advance

/-!
# Staging a backup

Before the journal is written a restore fills its own namespace only, and what
it has put there is what the transaction is then made of. The journal records
the old generation as it is found.
-/

namespace AtlasOS.Restore

open Crash (World Process Run)

variable {Bytes α : Type} {machine : Machine Bytes} {host : Host Bytes}
  {journal : RestoreJournal machine.py} {origin d d' : Disk Bytes} {S : Disk Bytes → Prop}
  {w v : World Call (Disk Bytes)} {transaction_id : String} {uid gid : ℕ}
  {manifest : AtlasCoreBackupV3Manifest machine.py} {request : Request Bytes}

/-- The target is as it was, and there is no journal. -/
structure Untouched (origin d : Disk Bytes) : Prop where
  restored : Restored origin d
  noJournal : d.node JOURNAL_PATH = none

/-- A change in the namespace other than of the journal. -/
theorem Untouched.sets {path : Parts} {node : Option (Node Bytes)} (h : Untouched origin d)
    (hsets : d.Sets path node d') (hinside : NAMESPACE <+: path)
    (hjournal : path = JOURNAL_PATH → node = none) : Untouched origin d' where
  restored entry hentry := by
    rw [hsets.other (by rintro rfl; exact hentry hinside)]
    exact h.restored entry hentry
  noJournal := by
    rw [hsets]
    split
    · next heq => exact hjournal heq.symm
    · exact h.noJournal

/-! ## What is staged -/

/-- What may lie at a place of the namespace before the journal is written. -/
def StagedAt (uid gid : ℕ) : Place → Node Bytes → Prop
  | .restoreNamespace, node | .transaction, node | .area _, node => node = privateDirectory uid gid
  | .areaDirectory .stage _, node => ∃ metadata, node = .directory metadata
  | .areaFile .stage _, node => IsPlainFile node
  | _, _ => False

/-- The target is as it was, and the namespace holds only what was staged. -/
structure Staged (origin : Disk Bytes) (transaction_id : String) (uid gid : ℕ) (d : Disk Bytes) :
    Prop where
  restored : Restored origin d
  staged : ∀ path, NAMESPACE <+: path → ∀ node, d.node path = some node →
    ∃ place : Place, path = place.path transaction_id ∧ StagedAt uid gid place node

namespace Staged

theorem sets {node : Node Bytes} (h : Staged origin transaction_id uid gid d) (place : Place)
    (hsets : d.Sets (place.path transaction_id) (some node) d') (hinside : place.isInside = true)
    (hstaged : StagedAt uid gid place node) : Staged origin transaction_id uid gid d' where
  restored path hpath := by
    rw [hsets.other]
    · exact h.restored path hpath
    · rintro rfl
      exact hpath ((Place.inside_iff transaction_id place).mpr hinside)
  staged path hpath other hother := by
    rw [hsets path] at hother
    split at hother
    · next heq =>
      cases hother
      exact ⟨place, heq, hstaged⟩
    · exact h.staged path hpath other hother

/-- Nothing lies at a place where nothing is staged. -/
theorem absent (hid : isTransactionId transaction_id = true)
    (h : Staged origin transaction_id uid gid d) (place : Place) (hinside : place.isInside = true)
    (hplace : ∀ node : Node Bytes, ¬ StagedAt uid gid place node) :
    d.node (place.path transaction_id) = none := by
  by_contra hne
  obtain ⟨node, hnode⟩ := Option.ne_none_iff_exists'.mp hne
  obtain ⟨other, hpath, hstaged⟩ :=
    h.staged _ ((Place.inside_iff transaction_id place).mpr hinside) node hnode
  rw [← Place.path_injective hid hpath] at hstaged
  exact hplace node hstaged

theorem untouched (hid : isTransactionId transaction_id = true)
    (h : Staged origin transaction_id uid gid d) : Untouched origin d where
  restored := h.restored
  noJournal := h.absent hid .journal rfl fun _ hstaged => hstaged

/-- What is staged is the start of a transaction. -/
theorem reset (h : Staged origin journal.transaction_id journal.runtime_uid journal.runtime_gid d) :
    Reset journal origin d where
  restored := h.restored
  confined path hpath node hnode := by
    obtain ⟨place, rfl, hstaged⟩ := h.staged path hpath node hnode
    refine ⟨place, rfl, ?_⟩
    cases place with
    | areaDirectory part parent =>
      cases part with
      | stage => exact hstaged
      | rollback => exact hstaged.elim
    | areaFile part path =>
      cases part with
      | stage => exact hstaged
      | rollback => exact hstaged.elim
    | restoreNamespace => exact hstaged
    | transaction => exact hstaged
    | area part => exact hstaged
    | _ => exact hstaged.elim
  emptied path := h.absent journal.checks.1 (.areaFile .rollback path) rfl
    fun _ hstaged => hstaged

end Staged

/-! ## The steps of staging -/

/-- Nothing that was there is missing. -/
def Keeps (d d' : Disk Bytes) : Prop := ∀ path, d.node path ≠ none → d'.node path ≠ none

theorem Keeps.refl (d : Disk Bytes) : Keeps d d := fun _ h => h

theorem Keeps.trans {d'' : Disk Bytes} (h : Keeps d d') (h' : Keeps d' d'') : Keeps d d'' :=
  fun path hpath => h' path (h path hpath)

theorem Keeps.of_sets {path : Parts} {node : Node Bytes} (h : d.Sets path (some node) d') :
    Keeps d d' := by
  intro entry hentry
  rw [h entry]
  split
  · simp
  · exact hentry

/-- What a step of the staging adds. -/
structure Stages (origin : Disk Bytes) (transaction_id : String) (uid gid : ℕ)
    (d d' : Disk Bytes) : Prop where
  staged : Staged origin transaction_id uid gid d'
  keeps : Keeps d d'

/-- A place of the namespace other than the journal is not the path of the journal. -/
theorem Place.path_ne_journal (hid : isTransactionId transaction_id = true) {place : Place}
    (hplace : place ≠ .journal) : place.path transaction_id ≠ JOURNAL_PATH :=
  fun hpath => hplace (Place.path_injective (q := .journal) hid hpath)

/-- A change at a place of the namespace leaves the target untouched. -/
theorem Untouched.sets_place {place : Place} {node : Option (Node Bytes)}
    (hid : isTransactionId transaction_id = true) (h : Untouched origin d)
    (hsets : d.Sets (place.path transaction_id) node d') (hinside : place.isInside = true)
    (hplace : place ≠ .journal) : Untouched origin d' :=
  h.sets hsets ((Place.inside_iff transaction_id place).mpr hinside) fun hpath =>
    (Place.path_ne_journal hid hplace hpath).elim

/-- A directory of the transaction is created. -/
theorem run_stageDirectory {place : Place} (hid : isTransactionId transaction_id = true)
    (hinside : place.isInside = true) (hplace : place ≠ .journal)
    (hstaged : StagedAt uid gid place (privateDirectory uid gid : Node Bytes))
    (h : At host (Untouched origin) (Safely (Untouched origin)) w d)
    (hd : Staged origin transaction_id uid gid d) :
    Run (Untouched origin)
      (createPrivateDirectory host machine.target (place.path transaction_id) uid gid) w
      (Leaves host (Untouched origin) (Safely (Untouched origin)) fun d' =>
        Stages origin transaction_id uid gid d d' ∧ d'.node (place.path transaction_id) ≠ none)
      (Safely (Untouched origin)) := by
  refine (run_createPrivateDirectory_or h fun _ _ hsets =>
    h.safe.sets_place hid hsets hinside hplace).mono (fun _ h => h) (fun _ v _ hleaves => ?_)
    fun _ _ _ h => h
  obtain ⟨d', hd', hsets⟩ := hleaves
  exact hd'.leaves
    ⟨⟨hd.sets place hsets hinside hstaged, .of_sets hsets⟩, by simp [hsets.self]⟩

/-- A file of the backup is copied into the stage. -/
theorem run_stageOperation {backup : Backup Bytes} {operation : PlannedOperation}
    (hid : isTransactionId transaction_id = true)
    (h : At host (Untouched origin) (Safely (Untouched origin)) w d)
    (hd : Staged origin transaction_id uid gid d) :
    Run (Untouched origin) (stageOperation machine host backup (areaPath transaction_id .stage)
        manifest uid gid operation) w
      (Leaves host (Untouched origin) (Safely (Untouched origin))
        (Stages origin transaction_id uid gid d)) (Safely (Untouched origin)) := by
  unfold stageOperation
  cases hkind : operation.path with
  | side path suffix sqlite =>
    exact Run.bind (R := fun _ _ => False) (Run.raise (h.raises _)) fun _ _ _ hfalse => hfalse.elim
  | main managed =>
    refine Run.bind (R := fun path v => path = managed ∧ v = w) (Run.done ⟨rfl, rfl⟩) ?_
    rintro path v - ⟨rfl, rfl⟩
    rw [← hkind]
    refine h.observe_or_bind (fun e v hv _ => hv.raises e) fun _ v hv _ => ?_
    have hparent (parent : ManagedDirectory) (metadata : Metadata) (d' : Disk Bytes)
        (hsets : d.Sets (areaPath transaction_id .stage ++ parent.parts)
          (some (.directory metadata)) d') : Staged origin transaction_id uid gid d' :=
      hd.sets (.areaDirectory .stage parent) hsets rfl ⟨metadata, rfl⟩
    refine run_bind (run_ensurePrivateParents_or operation.path hv fun parent _ metadata d' hsets =>
      (hparent parent metadata d' hsets).untouched hid) fun u d₁ hu hpost => ?_
    obtain ⟨hd₁, hkeeps₁⟩ : Stages origin transaction_id uid gid d d₁ := by
      cases hdirectory : operation.path.directory with
      | none =>
        rw [hdirectory] at hpost
        rw [hpost]
        exact ⟨hd, .refl d⟩
      | some parent =>
        rw [hdirectory] at hpost
        exact ⟨hparent parent _ d₁ hpost, .of_sets hpost⟩
    refine hu.observe_or_bind (fun e v hv _ => hv.raises e) fun content u hu _ => ?_
    have hsafe {draft : Bytes} {metadata : Metadata} {d₂ : Disk Bytes}
        (hsets : d₁.Sets (areaPath transaction_id .stage ++ operation.path.parts)
          (some (.file draft metadata 1)) d₂) : Staged origin transaction_id uid gid d₂ :=
      hd₁.sets (.areaFile .stage operation.path) hsets rfl ⟨draft, metadata, rfl⟩
    refine hu.change_or_bind (fun v hv _ => hv.raises _)
      (fun d₂ hd₂ => (hsafe (Disk.sets_of_add hd₂).2).untouched hid) fun u d₂ hu hd₂ => ?_
    have hsets₂ := (Disk.sets_of_add hd₂).2
    refine run_bind (run_writeFile hu hsets₂.self fun draft d₃ hsets =>
      (hsafe (hsets₂.again hsets)).untouched hid) fun u d₃ hu hsets₃ => ?_
    have hsets₃ := hsets₂.again hsets₃
    refine hu.setMetadata_bind hsets₃.self (by simp)
      (fun d₄ hsets => (hsafe (hsets₃.again hsets)).untouched hid) fun u d₄ hu hsets₄ => ?_
    have hsets₄ := hsets₃.again hsets₄
    refine hu.setMetadata_bind hsets₄.self (by simp [Node.withMetadata])
      (fun d₅ hsets => (hsafe (hsets₄.again hsets)).untouched hid) fun u d₅ hu hsets₅ => ?_
    have hsets₅ := hsets₄.again hsets₅
    refine hu.observe_or_bind (fun e v hv _ => hv.raises e) fun _ u hu _ => ?_
    refine hu.observe_or_bind (fun e v hv _ => hv.raises e) fun _ u hu _ => ?_
    exact hu.observe_or (fun e v hv _ => hv.raises e) fun _ u hu _ =>
      hu.leaves ⟨hsafe hsets₅, hkeeps₁.trans (.of_sets hsets₅)⟩

/-- All files of the backup are copied into the stage. -/
theorem run_stageArtifacts {backup : Backup Bytes} (hid : isTransactionId transaction_id = true)
    (h : At host (Untouched origin) (Safely (Untouched origin)) w d)
    (hd : Staged origin transaction_id uid gid d) :
    Run (Untouched origin) (stageArtifacts machine host backup (areaPath transaction_id .stage)
        manifest uid gid) w
      (Leaves host (Untouched origin) (Safely (Untouched origin))
        (Stages origin transaction_id uid gid d)) (Safely (Untouched origin)) :=
  run_forM (fun _ => Stages origin transaction_id uid gid d) h ⟨hd, .refl d⟩
    fun before (operation, index) after v d₁ _ hv hd₁ =>
      run_bind (run_stageOperation hid hv hd₁.staged) fun v d₂ hv hd₂ =>
        hv.emit fun v hv => hv.leaves ⟨hd₂.staged, hd₁.keeps.trans hd₂.keeps⟩

/-! ## The journal of a restore -/

/-- The recorded state of a file is what was found. -/
theorem records_of_captureFileState {storage : Storage Bytes} {path : TransactionPath}
    {state : FileState} (h : captureFileState storage path d = .ok state) :
    Records storage (d.node path.parts) state := by
  unfold captureFileState at h
  obtain ⟨-, hstate⟩ := check_bind_eq_ok.mp h
  rw [Disk.isPresent_eq] at hstate
  cases hnode : d.node path.parts with
  | none =>
    rw [hnode, Option.isSome_none, if_neg Bool.false_ne_true] at hstate
    cases hstate
    exact .inl ⟨rfl, rfl⟩
  | some node =>
    rw [hnode, Option.isSome_some, if_pos rfl] at hstate
    obtain ⟨found, hfound, hstate⟩ := bind_eq_ok.mp hstate
    have hfile := plain_of_assertRegularFile hfound
    rw [hnode] at hfile
    cases hfile
    cases hstate
    exact .inr ⟨_, _, rfl, rfl⟩

/-- The recorded state of a directory is what was found. -/
theorem node_of_captureDirectoryState {directory : ManagedDirectory} {state : DirectoryState}
    (h : captureDirectoryState directory d = .ok state) :
    state.path = directory ∧ d.node directory.parts = state.metadata.map .directory := by
  unfold captureDirectoryState at h
  obtain ⟨-, hstate⟩ := check_bind_eq_ok.mp h
  split at hstate
  · next hnode =>
    cases hstate
    exact ⟨rfl, hnode⟩
  · next metadata hnode =>
    cases hstate
    exact ⟨rfl, hnode⟩
  · cases hstate

/-- A journal that is built has the given values. -/
theorem RestoreJournal.build_eq_ok {fields : JournalFields machine.py}
    (h : RestoreJournal.build fields = .ok journal) : journal.toJournalFields = fields := by
  cases hinit : fields.postInit with
  | ok _ =>
    rw [RestoreJournal.build_of_valid hinit] at h
    cases h
    rfl
  | error e =>
    rw [RestoreJournal.build_of_refused hinit] at h
    cases h

/-- The operation that is recorded has the path of the planned one and the state that is found. -/
theorem recordOperation_eq_ok {planned : PlannedOperation} {operation : RestoreOperation}
    (h : recordOperation machine d planned = .ok operation) :
    Records machine.storage (d.node operation.path.parts) operation.original := by
  unfold recordOperation at h
  obtain ⟨original, horiginal, hbuild⟩ := bind_eq_ok.mp h
  unfold RestoreOperation.build at hbuild
  split at hbuild
  · cases hbuild
    exact records_of_captureFileState horiginal
  · cases hbuild

/-- What a restore is about to do, and what there was before it. -/
structure Prepared (machine : Machine Bytes) (request : Request Bytes)
    (manifest : AtlasCoreBackupV3Manifest machine.py) (origin : Disk Bytes)
    (journal : RestoreJournal machine.py) : Prop where
  captured : Captured journal origin
  transaction_id : journal.transaction_id = request.transactionId
  runtime_uid : journal.runtime_uid = request.runtime_uid
  runtime_gid : journal.runtime_gid = request.runtime_gid
  phase : journal.phase = .prepared
  manifest : journal.manifest = manifest

/-- The journal is one of the restore, in whatever phase. -/
structure Belongs (machine : Machine Bytes) (request : Request Bytes)
    (manifest : AtlasCoreBackupV3Manifest machine.py) (origin : Disk Bytes)
    (journal : RestoreJournal machine.py) : Prop where
  admitted : admitRestore machine request origin = .ok manifest
  captured : Captured journal origin
  runtime_uid : journal.runtime_uid = request.runtime_uid
  runtime_gid : journal.runtime_gid = request.runtime_gid
  manifest : journal.manifest = manifest

theorem Prepared.belongs (h : Prepared machine request manifest origin journal)
    (hadmitted : admitRestore machine request origin = .ok manifest) :
    Belongs machine request manifest origin journal :=
  ⟨hadmitted, h.captured, h.runtime_uid, h.runtime_gid, h.manifest⟩

/-- The journal records the target as it is found. -/
theorem prepared_of_prepareJournal (hroot : validateTargetRoot machine.target = .ok ())
    (hrestored : Restored origin d)
    (h : prepareJournal machine manifest request.runtime_uid request.runtime_gid
      request.transactionId d = .ok journal) : Prepared machine request manifest origin journal := by
  have hsame (path : Parts) (hpath : path.head? ≠ some TRANSACTION_NAMESPACE) :
      d.node path = origin.node path := by
    refine hrestored path ?_
    rintro ⟨rest, rfl⟩
    exact hpath rfl
  unfold prepareJournal at h
  obtain ⟨operations, hoperations, h⟩ := bind_eq_ok.mp h
  obtain ⟨directories, hdirectories, h⟩ := bind_eq_ok.mp h
  have hfields := RestoreJournal.build_eq_ok h
  refine ⟨⟨hroot, ?_, ?_, ?_, fun operation hmem => ?_, fun state hmem => ?_⟩, ?_, ?_, ?_, ?_, ?_⟩
  · rw [hfields]
  · rw [hfields]
  · rw [hfields]
  · rw [hfields] at hmem
    obtain ⟨planned, -, hrecord⟩ := Rows.exists_of_mem_right (mapM_eq_ok_iff.mp hoperations) hmem
    rw [← hsame _ operation.path.head_parts]
    exact recordOperation_eq_ok hrecord
  · rw [hfields] at hmem
    obtain ⟨directory, -, hcapture⟩ := Rows.exists_of_mem_right (mapM_eq_ok_iff.mp hdirectories) hmem
    obtain ⟨rfl, hnode⟩ := node_of_captureDirectoryState hcapture
    rw [← hsame _ state.path.head_parts]
    exact hnode
  · rw [hfields]
  · rw [hfields]
  · rw [hfields]
  · rw [hfields]
  · rw [hfields]

/-- A namespace that is absent or empty holds nothing that was not staged. -/
theorem Staged.of_empty (hnamespace : d.node NAMESPACE = none ∨
      d.node NAMESPACE = some (privateDirectory uid gid) ∧ d.children NAMESPACE = []) :
    Staged d transaction_id uid gid d where
  restored _ _ := rfl
  staged path hpath node hnode := by
    rcases hnamespace with habsent | ⟨hprivate, hempty⟩
    · have hkind : d.isDirectory NAMESPACE = false := by simp [Disk.isDirectory, habsent]
      obtain ⟨rest, rfl⟩ := hpath
      by_cases hrest : rest = []
      · rw [hrest, List.append_nil, habsent] at hnode
        cases hnode
      · rw [Disk.node_below_eq_none hkind hrest] at hnode
        cases hnode
    · by_cases hself : path = NAMESPACE
      · subst hself
        rw [hprivate] at hnode
        cases hnode
        exact ⟨.restoreNamespace, rfl, rfl⟩
      · obtain ⟨name, rest, rfl⟩ := Disk.exists_child_prefix hpath hself
        have hchild := Disk.children_eq_nil.mp hempty name
        have hkind : d.isDirectory (NAMESPACE ++ [name]) = false := by
          simp [Disk.isDirectory, hchild]
        by_cases hrest : rest = []
        · rw [hrest, List.append_nil, hchild] at hnode
          cases hnode
        · rw [Disk.node_below_eq_none hkind hrest] at hnode
          cases hnode

/-- The target of a restore that is admitted, before anything is staged. -/
theorem staged_of_admitRestore (hadmitted : admitRestore machine request d = .ok manifest) :
    validateTargetRoot machine.target = .ok () ∧ d.node JOURNAL_PATH = none ∧
      isTransactionId request.transactionId = true ∧
      Staged d request.transactionId request.runtime_uid request.runtime_gid d := by
  unfold admitRestore at hadmitted
  obtain ⟨_, -, h⟩ := bind_eq_ok.mp hadmitted
  obtain ⟨_, -, h⟩ := bind_eq_ok.mp h
  obtain ⟨hroot, h⟩ := check_bind_eq_ok.mp h
  obtain ⟨hpresent, h⟩ := check_bind_eq_ok.mp h
  have hnone : d.node JOURNAL_PATH = none := by
    rw [demand_eq_ok, Disk.isPresent_eq, Bool.not_eq_true', Option.isSome_eq_false_iff,
      Option.isNone_iff_eq_none] at hpresent
    exact hpresent
  refine ⟨hroot, hnone, ?_⟩
  split at h
  · obtain ⟨hassert, h⟩ := check_bind_eq_ok.mp h
    obtain ⟨hempty, h⟩ := check_bind_eq_ok.mp h
    obtain ⟨hid, -⟩ := check_bind_eq_ok.mp h
    rw [demand_eq_ok, List.isEmpty_iff] at hempty
    exact ⟨demand_eq_ok.mp hid, .of_empty (.inr ⟨private_of_assertPrivateDirectory hassert, hempty⟩)⟩
  · next habsent =>
    obtain ⟨hid, -⟩ := check_bind_eq_ok.mp h
    rw [Disk.isPresent_eq, Bool.not_eq_true, Option.isSome_eq_false_iff,
      Option.isNone_iff_eq_none] at habsent
    exact ⟨demand_eq_ok.mp hid, .of_empty (.inl habsent)⟩

/-! ## The preparation of a restore -/

/-- The states of a restore before its commit: the target is as it was, or it can be recovered. -/
def Beginning (machine : Machine Bytes) (request : Request Bytes)
    (manifest : AtlasCoreBackupV3Manifest machine.py) (origin d : Disk Bytes) : Prop :=
  Untouched origin d ∨ ∃ journal : RestoreJournal machine.py,
    Belongs machine request manifest origin journal ∧ Live journal origin d

/-- The first journal is written when everything is staged. -/
theorem run_stageTransaction (hadmitted : admitRestore machine request origin = .ok manifest)
    (hstate : w.state = origin) :
    Run (Beginning machine request manifest origin) (stageTransaction machine host request manifest) w
      (fun journal v => Prepared machine request manifest origin journal ∧
        ∃ d, v.state = d ∧ Quarantining journal origin [] d) (Safely (Beginning machine request manifest origin)) := by
  obtain ⟨hroot, hnone, hid, hstaged⟩ := staged_of_admitRestore hadmitted
  -- Whatever keeps the target untouched is a beginning.
  have hlift {script : Script Bytes Unit} {v : World Call (Disk Bytes)} {post : Disk Bytes → Prop}
      (hrun : Run (Untouched origin) script v
        (Leaves host (Untouched origin) (Safely (Untouched origin)) post)
        (Safely (Untouched origin))) :
      Run (Beginning machine request manifest origin) script v (fun _ v => post v.state)
        (Safely (Beginning machine request manifest origin)) := by
    refine hrun.mono (fun _ h => .inl h) (fun _ v _ hleaves => ?_) fun _ _ _ h => .inl h
    obtain ⟨d, hd, hpost⟩ := hleaves
    rwa [hd.state]
  have hcreate {v : World Call (Disk Bytes)} (place : Place) (hinside : place.isInside = true)
      (hplace : place ≠ .journal)
      (hfits : StagedAt request.runtime_uid request.runtime_gid place
        (privateDirectory request.runtime_uid request.runtime_gid : Node Bytes))
      (hv : Staged origin request.transactionId request.runtime_uid request.runtime_gid v.state) :
      Run (Beginning machine request manifest origin)
        (createPrivateDirectory host machine.target (place.path request.transactionId)
          request.runtime_uid request.runtime_gid) v
        (fun _ v' => Stages origin request.transactionId request.runtime_uid request.runtime_gid
          v.state v'.state ∧ v'.state.node (place.path request.transactionId) ≠ none)
        (Safely (Beginning machine request manifest origin)) :=
    hlift (run_stageDirectory hid hinside hplace hfits (.safely rfl (hv.untouched hid)) hv)
  have hstart : Staged origin request.transactionId request.runtime_uid request.runtime_gid
      w.state := by
    rw [hstate]
    exact hstaged
  unfold stageTransaction
  refine (hcreate .restoreNamespace rfl (by simp) rfl hstart).bind fun _ v₁ _ h₁ => ?_
  refine (hcreate .transaction rfl (by simp) rfl h₁.1.staged).bind fun _ v₂ _ h₂ => ?_
  refine (hcreate (.area .stage) rfl (by simp) rfl h₂.1.staged).bind fun _ v₃ _ h₃ => ?_
  refine (hcreate (.area .rollback) rfl (by simp) rfl h₃.1.staged).bind
    fun _ v₄ _ h₄ => ?_
  refine (hlift (run_stageArtifacts hid (.safely rfl (h₄.1.staged.untouched hid))
    h₄.1.staged)).bind fun _ v₅ _ h₅ => ?_
  have htransaction : v₅.state.node (Place.path request.transactionId .transaction) ≠ none :=
    h₅.keeps _ (h₄.1.keeps _ (h₃.1.keeps _ h₂.2))
  have hv : At host (Beginning machine request manifest origin) (Safely (Beginning machine request manifest origin)) v₅ v₅.state :=
    .safely rfl (.inl (h₅.staged.untouched hid))
  refine hv.observe_or_bind (fun e v hv _ => hv.raises e) fun journal v hv hjournal => ?_
  have hprepared := prepared_of_prepareJournal hroot h₅.staged.restored hjournal
  have hreset : Reset journal origin v₅.state := by
    refine Staged.reset ?_
    rw [hprepared.transaction_id, hprepared.runtime_uid, hprepared.runtime_gid]
    exact h₅.staged
  have hlive {d : Disk Bytes} (hwriting : Writing journal v₅.state d)
      (hstored : Stored journal d) : Live journal origin d := by
    refine ⟨hwriting.evidence (hreset.evidence hprepared.captured), ⟨journal.phase, hstored⟩, ?_⟩
    rw [hwriting.look_eq (by simp) (by simp), RestoreJournal.look, hprepared.transaction_id]
    exact htransaction
  have hbeginning (d : Disk Bytes) (hwriting : Writing journal v₅.state d) :
      Beginning machine request manifest origin d := by
    rcases hwriting.journal with hsame | hstored
    · exact .inl ⟨hwriting.restored hreset.restored,
        hsame.trans (h₅.staged.untouched hid).noJournal⟩
    · exact .inr ⟨journal, hprepared.belongs hadmitted, hlive hwriting hstored⟩
  refine (run_writeJournal hbeginning hv.state fun node hnode =>
    hreset.confined.fits rfl hnode).bind fun _ v _ hleaves => ?_
  obtain ⟨d, hd, hwrote⟩ := hleaves
  refine Run.done ⟨hprepared, d, hd.state, hlive hwrote.writing hwrote.stored, fun path _ => ?_⟩
  rw [hwrote.writing.look_eq (by simp) (by simp)]
  exact hreset.emptied path

/-- Wherever the removal of a tree stops, it has removed entries of this tree only. -/
theorem run_removeTree_or {depth : ℕ} {path : Parts} (h : At host S (Safely S) w d)
    (hS : ∀ d₁ d₂ entry, S d₁ → path <+: entry → d₁.Sets entry none d₂ → S d₂) :
    Run S (removeTree host depth path) w (Leaves host S (Safely S) fun _ => True) (Safely S) := by
  induction depth generalizing path w d with
  | zero => exact Run.raise (h.raises _)
  | succ depth ih =>
    unfold removeTree
    refine h.observe_or_bind (fun e v hv _ => hv.raises e) fun listed v hv _ => ?_
    cases listed with
    | none => exact hv.skip trivial
    | some names =>
      refine run_bind (run_forM (fun _ _ => True) hv trivial
        fun before name after v d₁ _ hv _ => ?_) fun v d₁ hv _ => ?_
      · refine hv.observe_or_bind (fun e v hv _ => hv.raises e) fun isDirectory v hv _ => ?_
        cases isDirectory with
        | true =>
          exact ih hv fun d₁ d₂ entry hd₁ hentry hsets =>
            hS d₁ d₂ entry hd₁ ((List.prefix_append _ _).trans hentry) hsets
        | false =>
          exact hv.change_or (fun v hv _ => hv.raises _)
            (fun d₂ hd₂ => hS d₁ d₂ _ hv.safe (List.prefix_append _ _) (Disk.sets_of_unlink hd₂))
            fun v d₂ hv _ => hv.leaves trivial
      · refine hv.change_or_bind (fun v hv _ => hv.raises _)
          (fun d₂ hd₂ => hS d₁ d₂ _ hv.safe List.prefix_rfl (Disk.sets_of_rmdir hd₂).1)
          fun v d₂ hv _ => ?_
        exact hv.observe_or (fun e v hv _ => hv.raises e) fun _ v hv _ => hv.leaves trivial

/-- The clean-up of a transaction without a journal leaves the target as it was. -/
theorem run_cleanupUnjournaledTransaction (hd : Untouched origin d) (hstate : w.state = d) :
    Run (Untouched origin)
      (cleanupUnjournaledTransaction host (NAMESPACE ++ [transaction_id])) w
      (fun _ v => Untouched origin v.state) (Safely (Untouched origin)) := by
  have hremove {d₁ d₂ : Disk Bytes} {entry : Parts} (hd₁ : Untouched origin d₁)
      (hentry : NAMESPACE <+: entry) (hsets : d₁.Sets entry none d₂) : Untouched origin d₂ :=
    hd₁.sets hsets hentry fun _ => rfl
  have h : At host (Untouched origin) (Safely (Untouched origin)) w d := .safely hstate hd
  unfold cleanupUnjournaledTransaction
  have hfinish {v : World Call (Disk Bytes)} {d₁ : Disk Bytes}
      (hv : At host (Untouched origin) (Safely (Untouched origin)) v d₁) :
      Run (Untouched origin) (do
          let removable ← observe host fun d =>
            return (d.directoryAt NAMESPACE).isSome && (d.children NAMESPACE).isEmpty
          if removable then
            change host (.rmdir NAMESPACE) (·.rmdir NAMESPACE)
            fsyncDirectory host []) v
        (fun _ v => Untouched origin v.state) (Safely (Untouched origin)) := by
    refine hv.observe_or_bind (fun e v hv _ => hv.raises e) fun removable v hv _ => ?_
    cases removable with
    | true =>
      refine hv.change_or_bind (fun v hv _ => hv.raises _)
        (fun d₂ hd₂ => hremove hv.safe List.prefix_rfl (Disk.sets_of_rmdir hd₂).1)
        fun v d₂ hv _ => ?_
      exact hv.observe_or (fun e v hv _ => hv.raises e) fun _ v hv _ => by
        rw [hv.state]
        exact hv.safe
    | false =>
      refine Run.done ?_
      rw [hv.state]
      exact hv.safe
  refine h.observe_or_bind (fun e v hv _ => hv.raises e) fun present v hv _ => ?_
  cases present with
  | true =>
    exact run_bind (run_removeTree_or hv fun d₁ d₂ entry hd₁ hentry hsets =>
      hremove hd₁ ((List.prefix_append _ _).trans hentry) hsets) fun v d₁ hv _ => hfinish hv
  | false => exact hfinish hv

/-- A restore that fails before its journal is written cleans up behind itself. -/
theorem run_prepare (hadmitted : admitRestore machine request origin = .ok manifest)
    (hstate : w.state = origin) :
    Run (Beginning machine request manifest origin) (prepare machine host request manifest) w
      (fun journal v => Prepared machine request manifest origin journal ∧
        ∃ d, v.state = d ∧ Quarantining journal origin [] d) (Safely (Beginning machine request manifest origin)) := by
  unfold prepare
  refine (run_stageTransaction hadmitted hstate).handle fun error v _ hv => ?_
  have hat : At host (Beginning machine request manifest origin) (Safely (Beginning machine request manifest origin)) v v.state :=
    .safely rfl hv
  refine hat.observe_or_bind (fun e v hv _ => hv.raises e) fun written u hu hwritten => ?_
  cases hwritten
  rcases hat.safe with huntouched | ⟨journal, -, hlive⟩
  · have hexists : v.state.existsAt JOURNAL_PATH = false := by
      simp [Disk.existsAt, huntouched.noJournal]
    rw [hexists]
    refine ((run_cleanupUnjournaledTransaction huntouched hu.state).mono (fun _ h => .inl h)
      (fun _ v _ h => h) fun _ _ _ h => .inl h).bind fun _ v _ huntouched => ?_
    exact Run.raise (.inl huntouched)
  · obtain ⟨phase, hstored⟩ := hlive.stored
    have hexists : v.state.existsAt JOURNAL_PATH = true := existsAt_of_file hstored
    rw [hexists]
    exact Run.raise (hu.raises error)

end AtlasOS.Restore
