import AtlasOS.Restore.Staging

/-!
# A whole restore

A restore that returns has installed the new generation, and nothing else of the
target has changed. One that is stopped or fails before a committed journal is
on the disk leaves the old generation in place or a transaction that recovery
rolls back, however often recovery itself is stopped.
-/

namespace AtlasOS.Restore

open Crash (World Process Run Reaches)

variable {Bytes α : Type} {machine : Machine Bytes} {host : Host Bytes}
  {journal : RestoreJournal machine.py} {origin d d' : Disk Bytes} {S : Disk Bytes → Prop}
  {w v : World Call (Disk Bytes)} {uid gid : ℕ}
  {manifest : AtlasCoreBackupV3Manifest machine.py} {request : Request Bytes}

/-! ## The new generation -/

/-- What a restore puts at the path of an operation. -/
def InstalledAt (machine : Machine Bytes) (uid gid : ℕ) (d : Disk Bytes)
    (operation : PlannedOperation) : Prop :=
  match operation.action with
  | .install => ∃ content artifact nlink, operation.artifact = some artifact ∧
      d.node operation.path.parts = some (.file content ⟨PRIVATE_FILE_MODE, uid, gid⟩ nlink) ∧
      machine.storage.size content = artifact.size ∧ machine.storage.sha256 content = artifact.sha256
  | .absent => d.node operation.path.parts = none

/-- The managed files and their directories are those of a backup. -/
structure Installed (machine : Machine Bytes) (manifest : AtlasCoreBackupV3Manifest machine.py)
    (uid gid : ℕ) (d : Disk Bytes) : Prop where
  directories : ∀ parent : ManagedDirectory, d.node parent.parts = some (privateDirectory uid gid)
  files : ∀ operation ∈ buildRestorePlan manifest, InstalledAt machine uid gid d operation

/-- Only the rest of the target matters. -/
theorem Installed.congr (h : Installed machine manifest uid gid d)
    (hsame : ∀ path, ¬ NAMESPACE <+: path → d'.node path = d.node path) :
    Installed machine manifest uid gid d' where
  directories parent := by
    rw [hsame _ fun hinside => ?_]
    · exact h.directories parent
    · cases (Place.inside_iff "" (.directory parent)).mp hinside
  files operation hmem := by
    have hpath : d'.node operation.path.parts = d.node operation.path.parts := by
      refine hsame _ fun hinside => ?_
      cases (Place.inside_iff "" (.final operation.path)).mp hinside
    have hinstalled := h.files operation hmem
    unfold InstalledAt at hinstalled ⊢
    rwa [hpath]

theorem installedAt_of_verifyInstalled {expected : Option String} {operation : PlannedOperation}
    (h : verifyInstalled machine manifest uid gid expected d operation = .ok ()) :
    InstalledAt machine uid gid d operation := by
  obtain ⟨path, action, artifact⟩ := operation
  unfold verifyInstalled at h
  obtain ⟨-, h⟩ := check_bind_eq_ok.mp h
  cases action with
  | absent =>
    rw [demand_eq_ok, Disk.isPresent_eq, Bool.not_eq_true', Option.isSome_eq_false_iff,
      Option.isNone_iff_eq_none] at h
    exact h
  | install =>
    cases path with
    | side path suffix sqlite => cases h
    | main path =>
      cases hnode : d.node (TransactionPath.main path).parts with
      | none =>
        simp only [hnode] at h
        cases h
      | some node =>
        cases node with
        | file content metadata nlink =>
          simp only [hnode] at h
          obtain ⟨found, hfound, h⟩ := bind_eq_ok.mp h
          cases hfound
          obtain ⟨hchecked, -⟩ := check_bind_eq_ok.mp h
          rw [demand_eq_ok, Bool.and_eq_true, decide_eq_true_eq, Option.any_eq_true] at hchecked
          obtain ⟨rfl, artifact, hartifact, hcontent⟩ := hchecked
          rw [Bool.and_eq_true, decide_eq_true_eq, decide_eq_true_eq] at hcontent
          exact ⟨content, artifact, nlink, hartifact, hnode, hcontent⟩
        | directory metadata | symlink target | special metadata =>
          simp only [hnode] at h
          cases h

/-- A target that is verified holds the new generation. -/
theorem installed_of_verifyV3Target {active expected : Option String}
    (h : verifyV3Target machine manifest uid gid active expected d = .ok ()) :
    Installed machine manifest uid gid d := by
  unfold verifyV3Target at h
  obtain ⟨-, h⟩ := check_bind_eq_ok.mp h
  obtain ⟨-, h⟩ := check_bind_eq_ok.mp h
  have hchecks : (do
      [ManagedDirectory.config, .secrets].forM fun directory => do
        safeTargetPath directory.parts d
        demand (d.directoryAt directory.parts = some (⟨PRIVATE_DIRECTORY_MODE, uid, gid⟩ : Metadata))
          (.transaction ("managed target directory is invalid: " ++ StrEnum.value directory))
      (buildRestorePlan manifest).forM (verifyInstalled machine manifest uid gid expected d)) =
        .ok () := by
    split at h
    · obtain ⟨_, -, h⟩ := bind_eq_ok.mp h
      obtain ⟨_, -, h⟩ := bind_eq_ok.mp h
      exact h
    · split at h
      · obtain ⟨-, h⟩ := check_bind_eq_ok.mp h
        obtain ⟨_, -, h⟩ := bind_eq_ok.mp h
        exact h
      · exact h
  obtain ⟨hdirectories, hfiles⟩ := check_bind_eq_ok.mp hchecks
  refine ⟨fun parent => ?_, fun operation hmem => ?_⟩
  · have hchecked := forM_eq_ok.mp hdirectories parent (by cases parent <;> simp)
    obtain ⟨-, hchecked⟩ := check_bind_eq_ok.mp hchecked
    rw [demand_eq_ok, decide_eq_true_eq] at hchecked
    exact Disk.directoryAt_eq_some.mp hchecked
  · exact installedAt_of_verifyInstalled (forM_eq_ok.mp hfiles operation hmem)

/-! ## The steps up to the commit -/

/-- An error of a step carries the journal of the step. -/
theorem run_during {script : Script Bytes α} {Q : α → World Call (Disk Bytes) → Prop}
    (h : Run S script w Q (Safely S)) :
    Run S (during machine journal script) w Q fun e v => e.2 = journal ∧ S v.state :=
  h.handle fun _ _ _ hs => Run.raise ⟨rfl, hs⟩

/-- An error before the commit is known: its journal, and a transaction that is all there. -/
def Failed (journal : RestoreJournal machine.py) (origin : Disk Bytes)
    (e : Error × RestoreJournal machine.py) (v : World Call (Disk Bytes)) : Prop :=
  (∃ phase, e.2 = journal.inPhase phase) ∧ Live journal origin v.state

/-- A transaction that is committed, with the new generation in place. -/
structure Done (machine : Machine Bytes) (request : Request Bytes)
    (manifest : AtlasCoreBackupV3Manifest machine.py) (journal : RestoreJournal machine.py)
    (origin d : Disk Bytes) : Prop where
  live : Live journal origin d
  stored : Stored (journal.inPhase .committed) d
  noTemporary : journal.look d .temporary = none
  installed : Installed machine manifest request.runtime_uid request.runtime_gid d

/-- The steps from the first journal to the committed one. -/
theorem run_proceed (hprepared : Prepared machine request manifest origin journal)
    (hstate : w.state = d) (hstart : Quarantining journal origin [] d) :
    Run (Live journal origin) (proceed machine host request journal) w
      (fun committed v => committed = journal.inPhase .committed ∧
        Done machine request manifest journal origin v.state) (Failed journal origin) := by
  have hblock (phase : RestorePhase) {β : Type} {script : Script Bytes β}
      {Q : β → World Call (Disk Bytes) → Prop} {v : World Call (Disk Bytes)}
      (hrun : Run (Live journal origin) script v Q (Safely (Live journal origin))) :
      Run (Live journal origin) (during machine (journal.inPhase phase) script) v Q
        (Failed journal origin) :=
    (run_during hrun).mono (fun _ h => h) (fun _ _ _ h => h)
      fun e v _ he => ⟨⟨phase, he.1⟩, he.2⟩
  have hat {v : World Call (Disk Bytes)} {d : Disk Bytes} (hv : v.state = d)
      (hd : Live journal origin d) :
      At host (Live journal origin) (Safely (Live journal origin)) v d := .safely hv hd
  unfold proceed
  rw [← hprepared.transaction_id]
  -- The old generation is quarantined.
  refine Run.bind (R := fun changed v => changed = journal.inPhase .oldGenerationQuarantined ∧
    Live journal origin v.state) (hblock journal.phase ?_) ?_
  · refine (hat hstate hstart.live).emit_bind fun v hv => ?_
    refine run_bind (run_quarantine hprepared.captured hv.state hstart) fun v d₁ hv hlive => ?_
    refine (run_transition journal.phase hlive hv.state).mono (fun _ h => h)
      (fun changed v _ hchanged => ?_) fun _ _ _ h => h
    obtain ⟨hchanged, d₂, hd₂, -⟩ := hchanged
    exact ⟨hchanged, by rw [hd₂.state]; exact hd₂.safe⟩
  rintro _ v - ⟨rfl, hv⟩
  -- The new generation is installed.
  refine Run.bind (R := fun changed v => changed = journal.inPhase .newGenerationInstalled ∧
    Live journal origin v.state) (hblock _ ?_) ?_
  · refine (hat rfl hv).emit_bind fun v hv => ?_
    refine run_bind (run_install hv.state hv.safe) fun v d₁ hv hlive => ?_
    refine (run_transition _ hlive hv.state).mono (fun _ h => h)
      (fun changed v _ hchanged => ?_) fun _ _ _ h => h
    obtain ⟨hchanged, d₂, hd₂, -⟩ := hchanged
    exact ⟨hchanged, by rw [hd₂.state]; exact hd₂.safe⟩
  rintro _ v - ⟨rfl, hv⟩
  -- The new generation is verified.
  refine Run.bind (R := fun changed v => changed = journal.inPhase .targetVerified ∧
    Live journal origin v.state ∧
      Installed machine manifest request.runtime_uid request.runtime_gid v.state) (hblock _ ?_) ?_
  · refine (hat rfl hv).emit_bind fun u hu => hu.emit_bind fun u hu => ?_
    refine hu.observe_or_bind (fun e v hv _ => hv.raises e) fun checked u hu hverified => ?_
    cases checked
    have hinstalled : Installed machine journal.manifest request.runtime_uid request.runtime_gid
        v.state := installed_of_verifyV3Target hverified
    rw [hprepared.manifest] at hinstalled
    refine (run_transition _ hu.safe hu.state).mono (fun _ h => h)
      (fun changed u _ hchanged => ?_) fun _ _ _ h => h
    obtain ⟨hchanged, d₂, hd₂, hwrote⟩ := hchanged
    rw [hd₂.state]
    exact ⟨hchanged, hd₂.safe, hinstalled.congr (hwrote.writing.restored fun _ _ => rfl)⟩
  rintro _ v - ⟨rfl, hv, hinstalled⟩
  -- The committed journal is written.
  refine Run.bind (R := fun changed v => changed = journal.inPhase .committed ∧
    Done machine request manifest journal origin v.state) (hblock _ ?_) ?_
  · refine (hat rfl hv).emit_bind fun u hu => ?_
    refine (run_transition _ hu.safe hu.state).mono (fun _ h => h)
      (fun changed u _ hchanged => ?_) fun _ _ _ h => h
    obtain ⟨hchanged, d₂, hd₂, hwrote⟩ := hchanged
    rw [hd₂.state]
    exact ⟨hchanged, hd₂.safe, hwrote.stored, hwrote.noTemporary,
      hinstalled.congr (hwrote.writing.restored fun _ _ => rfl)⟩
  rintro _ v - ⟨rfl, hdone⟩
  refine Run.bind (R := fun _ u => u.state = v.state) (hblock _ ?_) ?_
  · exact (hat rfl hdone.live).emit fun u hu => hu.state
  · intro _ u _ hu
    refine Run.done ⟨rfl, ?_⟩
    rwa [hu]

/-! ## The roll back of a failed restore -/

/-- The journal on the disk is committed. -/
def Committed (machine : Machine Bytes) (d : Disk Bytes) : Prop :=
  ∃ content metadata nlink value, ∃ journal : RestoreJournal machine.py,
    d.node JOURNAL_PATH = some (.file content metadata nlink) ∧
      machine.storage.loads content = some value ∧
      RestoreJournal.fromDict machine.py value = .ok journal ∧ journal.phase = .committed

theorem Stored.committed (h : Stored journal d) (hphase : journal.phase = .committed) :
    Committed machine d :=
  ⟨_, _, _, _, journal, h, machine.storage.loads_document _, journal.fromDict_toDict, hphase⟩

/-- The target is as it was and without a journal, or recovery puts the old generation back. -/
def Restorable (machine : Machine Bytes) (origin d : Disk Bytes) : Prop :=
  Untouched origin d ∨ ∃ journal : RestoreJournal machine.py, Captured journal origin ∧
    journal.phase ≠ .committed ∧ Recovering journal origin d

/-- The committed journal of a restore is on the disk, and the rest of the target is as it was. -/
structure Committing (machine : Machine Bytes) (request : Request Bytes)
    (manifest : AtlasCoreBackupV3Manifest machine.py) (origin : Disk Bytes)
    (journal : RestoreJournal machine.py) (d : Disk Bytes) : Prop where
  belongs : Belongs machine request manifest origin journal
  stored : Stored (journal.inPhase .committed) d
  confined : Confined journal d
  framed : ∀ path, Unmanaged path → d.node path = origin.node path

theorem Committing.committed (h : Committing machine request manifest origin journal d) :
    Committed machine d :=
  h.stored.committed rfl

/-- The states of a restore before its clean-up. -/
def Unfinished (machine : Machine Bytes) (request : Request Bytes) (origin d : Disk Bytes) : Prop :=
  Restorable machine origin d ∨
    ∃ manifest journal, Committing machine request manifest origin journal d

theorem Captured.inPhase (h : Captured journal origin) (phase : RestorePhase) :
    Captured (journal.inPhase phase) origin :=
  ⟨h.root, h.target_path, h.device, h.inode, h.files, h.directories⟩

theorem Reset.inPhase (h : Reset journal origin d) (phase : RestorePhase) :
    Reset (journal.inPhase phase) origin d :=
  ⟨h.restored, h.confined, h.emptied⟩

theorem Belongs.inPhase (h : Belongs machine request manifest origin journal)
    (phase : RestorePhase) : Belongs machine request manifest origin (journal.inPhase phase) :=
  ⟨h.admitted, h.captured.inPhase phase, h.runtime_uid, h.runtime_gid, h.manifest⟩

theorem Live.unfinished (hbelongs : Belongs machine request manifest origin journal)
    (h : Live journal origin d) : Unfinished machine request origin d := by
  obtain ⟨phase, hstored⟩ := h.stored
  by_cases hphase : phase = .committed
  · subst hphase
    exact .inr ⟨manifest, journal, hbelongs, hstored, h.evidence.confined, h.evidence.framed⟩
  · have hlive := h.inPhase phase
    exact .inl (.inr ⟨journal.inPhase phase, hbelongs.captured.inPhase phase, hphase,
      .inl ⟨hlive.evidence, hstored, hlive.transaction⟩⟩)

theorem Beginning.unfinished (h : Beginning machine request manifest origin d) :
    Unfinished machine request origin d := by
  rcases h with huntouched | ⟨journal, hbelongs, hlive⟩
  · exact .inl (.inl huntouched)
  · exact hlive.unfinished hbelongs

theorem RollsBack.unfinished (hbelongs : Belongs machine request manifest origin journal)
    {d₀ : Disk Bytes} (hlive : Live journal origin d₀) (h : RollsBack journal origin d₀ d) :
    Unfinished machine request origin d := by
  have hcaptured := hbelongs.captured
  have hrolling {d₁ : Disk Bytes} (hroll : Rolling journal origin d₀ d₁) : Live journal origin d₁ :=
    hlive.step hroll.evidence (hroll.undisturbed .journal rfl (by simp))
      (hroll.undisturbed .transaction rfl (by simp))
  rcases h with hroll | ⟨d₁, hroll, hreset, hpruned⟩
  · exact (hrolling hroll).unfinished hbelongs
  · have hreset' := hreset.pruned hpruned
    rcases hpruned JOURNAL_PATH with hsame | ⟨-, hnone⟩
    · obtain ⟨phase, hstored⟩ := (hrolling hroll).stored
      have hstored' : Stored (journal.inPhase phase) d := hsame.trans hstored
      by_cases hphase : phase = .committed
      · subst hphase
        exact .inr ⟨manifest, journal, hbelongs, hstored', hreset'.confined,
          fun path hpath => hreset'.restored path hpath.1⟩
      · exact .inl (.inr ⟨journal.inPhase phase, hcaptured.inPhase phase, hphase,
          (hreset'.inPhase phase).recovering (hcaptured.inPhase phase) (.inr hstored')⟩)
    · exact .inl (.inl ⟨hreset'.restored, hnone⟩)

/-- A restore that fails with a transaction on the disk rolls it back, and raises. -/
theorem run_abandon {error : Error} (hbelongs : Belongs machine request manifest origin journal)
    (hstate : w.state = d) (hlive : Live journal origin d) :
    Run (Unfinished machine request origin) (abandon machine host error journal) w
      (fun _ _ => False) (Safely (Unfinished machine request origin)) := by
  have h : At host (Unfinished machine request origin)
      (Safely (Unfinished machine request origin)) w d :=
    .safely hstate (hlive.unfinished hbelongs)
  have hnamespace : d.isDirectory NAMESPACE = true := by
    obtain ⟨phase, hstored⟩ := hlive.stored
    exact Disk.isDirectory_of_node (hstored.namespace (hlive.inPhase phase).evidence.confined)
  unfold abandon
  cases error.isException with
  | false => exact Run.raise (h.raises error)
  | true =>
    rw [if_pos rfl]
    split
    · exact Run.raise (h.raises _)
    · have hrollback := run_rollback hbelongs.captured (fun _ _ _ he => he)
        (fun d' => RollsBack.unfinished hbelongs hlive) h ⟨hlive.evidence, .refl d⟩ hnamespace
      refine Run.bind (hrollback.handle (R := Safely (Unfinished machine request origin))
        fun rollback_error v _ he => ?_) fun _ v _ hleaves => ?_
      · cases rollback_error.isException with
        | true => exact Run.raise he
        | false => exact Run.raise he
      · obtain ⟨d', hd', -⟩ := hleaves
        exact Run.raise (hd'.raises _)

/-- `execute_v3_restore` before its clean-up. -/
def beginRestore (machine : Machine Bytes) (host : Host Bytes) (request : Request Bytes) :
    Script Bytes (RestoreJournal machine.py) :=
  Process.handle (forward machine host request) fun (error, journal) =>
    match journal with
    | some journal => abandon machine host error journal
    | none => .raise error

/-- `execute_v3_restore` after its commit. -/
def finishRestore (machine : Machine Bytes) (host : Host Bytes) (request : Request Bytes)
    (journal : RestoreJournal machine.py) : Script Bytes Unit := do
  emit host "cleanup_begins" none
  cleanupCommitted machine host journal request.expected_legacy_import_id

theorem execute_eq (machine : Machine Bytes) (host : Host Bytes) (request : Request Bytes) :
    execute machine host request =
      (beginRestore machine host request >>= finishRestore machine host request) := rfl

/-- The steps of a restore before its commit, with the roll back when one of them fails. -/
theorem run_beginRestore (hnone : origin.node JOURNAL_PATH = none) (hstate : w.state = origin) :
    Run (Unfinished machine request origin) (beginRestore machine host request) w
      (fun committed v => ∃ manifest, ∃ journal : RestoreJournal machine.py,
        admitRestore machine request origin = .ok manifest ∧
          Prepared machine request manifest origin journal ∧
          committed = journal.inPhase .committed ∧
          Done machine request manifest journal origin v.state)
      (Safely (Unfinished machine request origin)) := by
  have huntouched : Untouched origin origin := ⟨fun _ _ => rfl, hnone⟩
  have hforward : Run (Unfinished machine request origin) (forward machine host request) w
      (fun committed v => ∃ manifest, ∃ journal : RestoreJournal machine.py,
        admitRestore machine request origin = .ok manifest ∧
          Prepared machine request manifest origin journal ∧
          committed = journal.inPhase .committed ∧
          Done machine request manifest journal origin v.state)
      (fun e v => Unfinished machine request origin v.state ∧ ∀ journal ∈ e.2,
        (∃ manifest, Belongs machine request manifest origin journal) ∧
          Live journal origin v.state) := by
    have h : At host (Unfinished machine request origin) (Safely (Unfinished machine request origin)) w origin :=
      .safely hstate (.inl (.inl huntouched))
    unfold forward
    refine Run.bind (R := fun manifest v => admitRestore machine request origin = .ok manifest ∧
      v.state = origin) ((h.observe_or (fun e v hv _ => hv.raises e) fun manifest v hv hadmitted =>
        ⟨hadmitted, hv.state⟩).handle fun e v _ he => Run.raise ⟨he, by simp⟩) ?_
    rintro manifest v - ⟨hadmitted, hv⟩
    refine Run.bind (R := fun journal v => Prepared machine request manifest origin journal ∧
      ∃ d, v.state = d ∧ Quarantining journal origin [] d) (((run_prepare hadmitted hv).mono
        (fun _ h => h.unfinished) (fun _ _ _ h => h) fun _ _ _ h => h.unfinished).handle
          (R := Safely (Unfinished machine request origin)) fun e v _ he => Run.raise ⟨he, by simp⟩) ?_
    rintro journal v - ⟨hprepared, d, hd, hstart⟩
    have hbelongs := hprepared.belongs hadmitted
    have hproceed : Run (Unfinished machine request origin) (proceed machine host request journal) v
        (fun committed v => ∃ manifest, ∃ journal : RestoreJournal machine.py,
          admitRestore machine request origin = .ok manifest ∧
            Prepared machine request manifest origin journal ∧
            committed = journal.inPhase .committed ∧
            Done machine request manifest journal origin v.state) (Failed journal origin) :=
      (run_proceed hprepared hd hstart).mono (fun _ h => h.unfinished hbelongs)
        (fun committed v _ hdone => ⟨manifest, journal, hadmitted, hprepared, hdone⟩)
        fun _ _ _ h => h
    refine hproceed.handle fun e v _ he => Run.raise ?_
    obtain ⟨⟨phase, hphase⟩, hlive⟩ := he
    refine ⟨hlive.unfinished hbelongs, fun failed hfailed => ?_⟩
    cases hfailed
    rw [hphase]
    exact ⟨⟨manifest, hbelongs.inPhase phase⟩, hlive.inPhase phase⟩
  refine hforward.handle fun e v _ he => ?_
  obtain ⟨error, failed⟩ := e
  cases failed with
  | none => exact Run.raise he.1
  | some failed =>
    obtain ⟨⟨manifest, hbelongs⟩, hlive⟩ := he.2 failed rfl
    exact (run_abandon hbelongs rfl hlive).mono (fun _ h => h) (fun _ _ _ h => h.elim)
      fun _ _ _ h => h

/-! ## The end of a restore -/

/-- The new generation is in place, and the rest of the target is as it was. -/
structure Renewed (machine : Machine Bytes) (request : Request Bytes)
    (manifest : AtlasCoreBackupV3Manifest machine.py) (origin d : Disk Bytes) : Prop where
  installed : Installed machine manifest request.runtime_uid request.runtime_gid d
  framed : ∀ path, Unmanaged path → d.node path = origin.node path

theorem Renewed.congr (h : Renewed machine request manifest origin d) (hsame : Restored d d') :
    Renewed machine request manifest origin d' where
  installed := h.installed.congr hsame
  framed path hpath := (hsame path hpath.1).trans (h.framed path hpath)

/-- What a restore that returns leaves. -/
structure Finished (machine : Machine Bytes) (request : Request Bytes)
    (manifest : AtlasCoreBackupV3Manifest machine.py) (origin d : Disk Bytes) : Prop
    extends Renewed machine request manifest origin d where
  noNamespace : d.node NAMESPACE = none

/-- The clean-up after a commit removes the transaction, its journal and the namespace. -/
theorem run_cleanupCommitted {expected : Option String} (hS : ∀ d', d.Pruned NAMESPACE d' → S d')
    (h : At host S (fun _ _ => True) w d) (hstored : Stored (journal.inPhase .committed) d)
    (hconfined : Confined (journal.inPhase .committed) d) :
    Run S (cleanupCommitted machine host (journal.inPhase .committed) expected) w
      (Leaves host S (fun _ _ => True) (Purged (journal.inPhase .committed) d))
      (fun _ _ => True) := by
  unfold cleanupCommitted
  have hcompute : Run S (compute (demand
      ((journal.inPhase .committed).phase = .committed)
      (.transaction "only committed restore state can be finalized")) : Script Bytes Unit) w
      (fun _ v => At host S (fun _ _ => True) v d) (fun _ _ => True) :=
    Run.done h
  refine hcompute.bind fun _ v _ hv => ?_
  refine hv.observe_or_bind (fun _ _ _ _ => trivial) fun _ v hv _ => ?_
  exact run_removeTransactionEvidence hS hv hconfined
    (Disk.isDirectory_of_node (hstored.namespace hconfined))

/-- The clean-up after a commit keeps the new generation. -/
theorem run_finishRestore (hdone : Done machine request manifest journal origin d)
    (hstate : w.state = d) :
    Run (d.Pruned NAMESPACE) (finishRestore machine host request (journal.inPhase .committed)) w
      (fun _ v => Finished machine request manifest origin v.state) (fun _ _ => True) := by
  have hpruned : d.Pruned NAMESPACE d := .refl d _
  have h : At host (d.Pruned NAMESPACE) (fun _ _ => True) w d :=
    ⟨hstate, hpruned, fun _ _ _ _ _ => trivial, fun _ _ _ _ _ _ _ => trivial⟩
  unfold finishRestore
  refine h.emit_bind fun v hv => ?_
  refine (run_cleanupCommitted (fun _ h => h) hv hdone.stored
    (hdone.live.inPhase .committed).evidence.confined).mono (fun _ h => h)
    (fun _ v _ hleaves => ?_) fun _ _ _ h => h
  obtain ⟨d', hd', hpurged⟩ := hleaves
  rw [hd'.state]
  have hrenewed : Renewed machine request manifest origin d :=
    ⟨hdone.installed, hdone.live.evidence.framed⟩
  exact ⟨hrenewed.congr (Restored.pruned (fun _ _ => rfl) hpurged.pruned),
    hpurged.noNamespace hdone.noTemporary⟩

/-- A restore that is refused raises. -/
theorem run_refused {error : Error} (hrefused : admitRestore machine request origin = .error error)
    (hstate : w.state = origin) :
    Run (fun _ => True) (execute machine host request) w (fun _ _ => False) (fun _ _ => True) := by
  have h : At host (fun _ => True) (fun _ _ => True) w origin :=
    ⟨hstate, trivial, fun _ _ _ _ _ => trivial, fun _ _ _ _ _ _ _ => trivial⟩
  have hforward : Run (fun _ => True) (forward machine host request) w (fun _ _ => False)
      (fun e _ => e.2 = none) := by
    unfold forward
    refine Run.bind (R := fun _ _ => False) ((h.observe_or (fun _ _ _ _ => trivial)
      fun manifest v _ hadmitted => ?_).handle fun e v _ _ => Run.raise rfl) fun _ _ _ hfalse =>
        hfalse.elim
    rw [hrefused] at hadmitted
    cases hadmitted
  have hbegin : Run (fun _ => True) (beginRestore machine host request) w (fun _ _ => False)
      (fun _ _ => True) := by
    refine hforward.handle fun e v _ he => ?_
    obtain ⟨error, journal⟩ := e
    cases he
    exact Run.raise trivial
  rw [execute_eq]
  exact hbegin.bind fun _ _ _ hfalse => hfalse.elim

/-- What is on the disk when the steps before the clean-up have returned. -/
theorem done_of_beginRestore (hnone : origin.node JOURNAL_PATH = none)
    {committed : RestoreJournal machine.py} {u : World Call (Disk Bytes)}
    (hu : beginRestore machine host request (World.fresh origin) = (.ok committed, u)) :
    ∃ manifest, ∃ journal : RestoreJournal machine.py,
      Belongs machine request manifest origin journal ∧ committed = journal.inPhase .committed ∧
        Done machine request manifest journal origin u.state := by
  have hbegin : Run (Unfinished machine request origin) (beginRestore machine host request)
      (World.fresh origin) _ _ := run_beginRestore hnone (World.state_fresh origin)
  have hreturns := hbegin.returns committed (by rw [hu])
  rw [hu] at hreturns
  obtain ⟨manifest, journal, hadmitted, hprepared, hcommitted, hdone⟩ := hreturns
  exact ⟨manifest, journal, hprepared.belongs hadmitted, hcommitted, hdone⟩

/-- A restore raises, or it has installed the new generation and has changed nothing else. -/
theorem execute_installs (machine : Machine Bytes) (host : Host Bytes) (request : Request Bytes)
    (origin : Disk Bytes) :
    (∃ error, (execute machine host request (World.fresh origin)).1 = .error error) ∨
      ∃ manifest, admitRestore machine request origin = .ok manifest ∧
        Finished machine request manifest origin
          (execute machine host request (World.fresh origin)).2.state := by
  cases hreturn : (execute machine host request (World.fresh origin)).1 with
  | error error => exact .inl ⟨error, rfl⟩
  | ok value =>
    refine .inr ?_
    cases hadmitted : admitRestore machine request origin with
    | error e =>
      exact ((run_refused hadmitted (World.state_fresh origin)).returns value hreturn).elim
    | ok manifest =>
      obtain ⟨-, hnone, -⟩ := staged_of_admitRestore hadmitted
      have heq : execute machine host request (World.fresh origin) =
        Process.andThen (beginRestore machine host request) (finishRestore machine host request)
          (World.fresh origin) := rfl
      rw [heq, Process.andThen] at hreturn ⊢
      rcases hm : beginRestore machine host request (World.fresh origin) with ⟨e | committed, u⟩
      · rw [hm] at hreturn
        cases hreturn
      · rw [hm] at hreturn
        obtain ⟨found, journal, hbelongs, rfl, hdone⟩ := done_of_beginRestore hnone hm
        have hfound := hbelongs.admitted
        rw [hadmitted] at hfound
        cases hfound
        exact ⟨manifest, rfl, (run_finishRestore hdone rfl).returns value hreturn⟩

/-- A restore makes its calls one after another. -/
theorem extends_execute (hnone : origin.node JOURNAL_PATH = none) :
    (World.fresh origin).Extends (execute machine host request (World.fresh origin)).2 := by
  have hbegin : Run (Unfinished machine request origin) (beginRestore machine host request)
      (World.fresh origin) _ _ := run_beginRestore hnone (World.state_fresh origin)
  have hreach := hbegin.reaches.1
  have heq : execute machine host request (World.fresh origin) =
    Process.andThen (beginRestore machine host request) (finishRestore machine host request)
      (World.fresh origin) := rfl
  rw [heq, Process.andThen]
  rcases hm : beginRestore machine host request (World.fresh origin) with ⟨e | committed, u⟩
  · rw [hm] at hreach
    exact hreach
  · rw [hm] at hreach
    obtain ⟨manifest, journal, -, rfl, hdone⟩ := done_of_beginRestore hnone hm
    have hfinish : Run (u.state.Pruned NAMESPACE)
        (finishRestore machine host request (journal.inPhase .committed)) u _ _ :=
      run_finishRestore hdone rfl
    exact hreach.trans hfinish.reaches.1

/-- A restore is stopped before its clean-up, or the clean-up has removed some of the evidence. -/
theorem cases_of_interrupted (hnone : origin.node JOURNAL_PATH = none)
    (hv : Process.Interrupted (execute machine host request) (World.fresh origin) v) :
    Unfinished machine request origin v.state ∨
      ∃ manifest journal, ∃ u : World Call (Disk Bytes), (World.fresh origin).Extends u ∧
        u.Extends v ∧ Belongs machine request manifest origin journal ∧
        Done machine request manifest journal origin u.state ∧
        u.state.Pruned NAMESPACE v.state := by
  have hstate : (World.fresh origin : World Call (Disk Bytes)).state = origin :=
    World.state_fresh origin
  have hbegin : Run (Unfinished machine request origin) (beginRestore machine host request)
      (World.fresh origin) _ _ := run_beginRestore hnone hstate
  have hsafe : Unfinished machine request origin
      (World.fresh origin : World Call (Disk Bytes)).state := by
    rw [hstate]
    exact .inl (.inl ⟨fun _ _ => rfl, hnone⟩)
  have hfinish {manifest : AtlasCoreBackupV3Manifest machine.py}
      {journal : RestoreJournal machine.py} {u : World Call (Disk Bytes)}
      (hdone : Done machine request manifest journal origin u.state) :
      Run (u.state.Pruned NAMESPACE)
        (finishRestore machine host request (journal.inPhase .committed)) u _ _ :=
    run_finishRestore hdone rfl
  have hcontinues (committed : RestoreJournal machine.py) (u : World Call (Disk Bytes))
      (hu : beginRestore machine host request (World.fresh origin) = (.ok committed, u)) :
      u.Extends (finishRestore machine host request committed u).2 := by
    obtain ⟨manifest, journal, -, rfl, hdone⟩ := done_of_beginRestore hnone hu
    exact (hfinish hdone).reaches.1
  rw [execute_eq] at hv
  rcases hv.of_bind hcontinues with hstopped | ⟨committed, u, hu, hafter⟩
  · exact .inl (hbegin.interrupted hsafe hstopped)
  · obtain ⟨manifest, journal, hbelongs, rfl, hdone⟩ := done_of_beginRestore hnone hu
    have hreach := hbegin.reaches.1
    rw [hu] at hreach
    exact .inr ⟨manifest, journal, u, hreach, hafter.1, hbelongs, hdone,
      (hfinish hdone).interrupted (.refl _ _) hafter⟩

/-- A restore that is stopped or fails before a committed journal is on the disk leaves a target
that can be restored. -/
theorem restorable_of_interrupted (hnone : origin.node JOURNAL_PATH = none)
    (hv : Process.Interrupted (execute machine host request) (World.fresh origin) v)
    (hbefore : ∀ u, (World.fresh origin).Extends u → u.Extends v → ¬ Committed machine u.state) :
    Restorable machine origin v.state := by
  rcases cases_of_interrupted hnone hv with
    (hrestorable | ⟨manifest, journal, hcommitting⟩) |
      ⟨manifest, journal, u, hreach, hafter, hbelongs, hdone, hpruned⟩
  · exact hrestorable
  · exact (hbefore v hv.1 (.refl v) hcommitting.committed).elim
  · exact (hbefore u hreach hafter (hdone.stored.committed rfl)).elim

/-! ## Recovery of a restore -/

/-- Recovery of a target without a journal changes nothing. -/
theorem run_recover_untouched {expected : Option String} (hd : Untouched origin d)
    (hstate : w.state = d) :
    Run (Untouched origin) (recover machine host expected) w
      (fun answer v => answer = "no_transaction" ∧ Untouched origin v.state) (fun _ _ => True) := by
  have h : At host (Untouched origin) (fun _ _ => True) w d :=
    ⟨hstate, hd, fun _ _ _ _ _ => trivial, fun _ _ _ _ _ _ _ => trivial⟩
  unfold recover
  refine h.observe_or_bind (fun _ _ _ _ => trivial) fun pending v hv hpending => ?_
  have hnone : pending = none := by
    obtain ⟨-, hpending⟩ := check_bind_eq_ok.mp hpending
    simp only [Disk.isPresent_eq, hd.noJournal, Option.isSome_none, Bool.false_eq_true, if_false,
      check_bind_eq_ok] at hpending
    cases hpending.2
    rfl
  subst hnone
  refine Run.done ⟨rfl, ?_⟩
  rw [hv.state]
  exact hd

theorem Restorable.attempts (h : Restorable machine origin d) (hattempts : Attempts machine d d') :
    Restorable machine origin d' := by
  rcases h with huntouched | ⟨journal, hcaptured, hphase, hrecovering⟩
  · refine .inl ?_
    induction hattempts with
    | none => exact huntouched
    | @stopped d' v before host expected hv ih =>
      have hstate : (World.fresh d' : World Call (Disk Bytes)).state = d' := World.state_fresh d'
      exact (run_recover_untouched ih hstate).interrupted (by rwa [hstate]) hv
  · exact .inr ⟨journal, hcaptured, hphase, hattempts.recovering hcaptured hphase hrecovering⟩

/-- A recovery that returns restores the target. -/
theorem Restorable.recovered (h : Restorable machine origin d) (host : Host Bytes)
    (expected : Option String) {answer : String}
    (hanswer : (recover machine host expected (World.fresh d)).1 = .ok answer) :
    (answer = "rolled_back" ∨ answer = "no_transaction") ∧
      Restored origin (recover machine host expected (World.fresh d)).2.state := by
  have hstate : (World.fresh d : World Call (Disk Bytes)).state = d := World.state_fresh d
  rcases h with huntouched | ⟨journal, hcaptured, hphase, hpending | hundone⟩
  · have hreturns := (run_recover_untouched huntouched hstate).returns answer hanswer
    exact ⟨.inr hreturns.1, hreturns.2.restored⟩
  · have hreturns := (run_recover_pending hcaptured hphase hstate hpending).returns answer hanswer
    exact ⟨.inl hreturns.1, hreturns.2.1⟩
  · have hreturns := (run_recover_undone hcaptured hphase hstate hundone).returns answer hanswer
    exact ⟨.inr hreturns.1, hreturns.2⟩

/-- What a restore has no business with is as it was. -/
theorem Restorable.framed (h : Restorable machine origin d) {path : Parts}
    (hpath : Unmanaged path) : d.node path = origin.node path := by
  rcases h with huntouched | ⟨journal, -, -, hpending | hundone⟩
  · exact huntouched.restored path hpath.1
  · exact hpending.evidence.framed path hpath
  · exact hundone.reset.restored path hpath.1

/-- A restore that is stopped or fails anywhere before a committed journal is on the disk is undone:
after any number of recoveries that were stopped anywhere, a recovery that returns leaves the
target as it was before the restore. -/
theorem execute_restores (machine : Machine Bytes) (request : Request Bytes) (host : Host Bytes)
    (hnone : origin.node JOURNAL_PATH = none)
    (hv : Process.Interrupted (execute machine host request) (World.fresh origin) v)
    (hbefore : ∀ u, (World.fresh origin).Extends u → u.Extends v → ¬ Committed machine u.state)
    (hattempts : Attempts machine v.state d) (host' : Host Bytes) (expected : Option String)
    {answer : String}
    (hanswer : (recover machine host' expected (World.fresh d)).1 = .ok answer) :
    Restored origin (recover machine host' expected (World.fresh d)).2.state :=
  (((restorable_of_interrupted hnone hv hbefore).attempts hattempts).recovered host' expected
    hanswer).2

/-! ## Recovery of any restore -/

/-- The states after a commit: the journal is still there, or the new generation is all that is
left of the restore. -/
def Settling (machine : Machine Bytes) (request : Request Bytes) (origin d : Disk Bytes) : Prop :=
  ∃ manifest, (∃ journal, Committing machine request manifest origin journal d) ∨
    d.node JOURNAL_PATH = none ∧ admitRestore machine request origin = .ok manifest ∧
      Renewed machine request manifest origin d

/-- What the removal of the evidence leaves of a committed restore. -/
theorem Committing.pruned (h : Committing machine request manifest origin journal d)
    (hinstalled : Installed machine manifest request.runtime_uid request.runtime_gid d)
    (hpruned : d.Pruned NAMESPACE d') : Settling machine request origin d' := by
  have hrenewed : Renewed machine request manifest origin d' :=
    (Renewed.mk hinstalled h.framed).congr (Restored.pruned (fun _ _ => rfl) hpruned)
  refine ⟨manifest, ?_⟩
  rcases hpruned JOURNAL_PATH with hjournal | ⟨-, hnone⟩
  · have hstored : Stored (journal.inPhase .committed) d' := hjournal.trans h.stored
    exact .inl ⟨journal, h.belongs, hstored, h.confined.pruned hpruned, hrenewed.framed⟩
  · exact .inr ⟨hnone, h.belongs.admitted, hrenewed⟩

/-- A restore that is stopped anywhere can be recovered. -/
theorem settling_of_interrupted (hnone : origin.node JOURNAL_PATH = none)
    (hv : Process.Interrupted (execute machine host request) (World.fresh origin) v) :
    Restorable machine origin v.state ∨ Settling machine request origin v.state := by
  rcases cases_of_interrupted hnone hv with
    (hrestorable | ⟨manifest, journal, hcommitting⟩) |
      ⟨manifest, journal, u, -, -, hbelongs, hdone, hpruned⟩
  · exact .inl hrestorable
  · exact .inr ⟨manifest, .inl ⟨journal, hcommitting⟩⟩
  · have hcommitting : Committing machine request manifest origin journal u.state :=
      ⟨hbelongs, hdone.stored, hdone.live.evidence.confined, hdone.live.evidence.framed⟩
    exact .inr (hcommitting.pruned hdone.installed hpruned)

/-- Recovery of a committed restore verifies the new generation before it cleans up. -/
theorem run_recover_committing {expected : Option String}
    (hcommitting : Committing machine request manifest origin journal d) (hstate : w.state = d) :
    Run (Settling machine request origin) (recover machine host expected) w
      (fun answer v => answer = "committed_finalized" ∧
        Renewed machine request manifest origin v.state) (fun _ _ => True) := by
  have hbelongs := hcommitting.belongs.inPhase .committed
  have h : At host (Settling machine request origin) (fun _ _ => True) w d :=
    ⟨hstate, ⟨manifest, .inl ⟨journal, hcommitting⟩⟩, fun _ _ _ _ _ => trivial,
      fun _ _ _ _ _ _ _ => trivial⟩
  have hload : loadJournal machine d = .ok (journal.inPhase .committed) := by
    rw [loadJournal_eq hbelongs.captured hcommitting.confined hcommitting.stored]
    simp
  have hpresent : (d.node JOURNAL_PATH).isSome = true := by
    have hjournal : d.node JOURNAL_PATH = _ := hcommitting.stored
    rw [hjournal]
    rfl
  unfold recover
  refine h.observe_bind (b := some (journal.inPhase .committed))
    (by simp [hbelongs.captured.root, hpresent, hload]) fun v hv => ?_
  simp only [RestoreJournal.phase_inPhase, if_true]
  refine hv.observe_or_bind (fun _ _ _ _ => trivial) fun _ v hv hverified => ?_
  have hinstalled : Installed machine manifest request.runtime_uid request.runtime_gid d := by
    have hinstalled := installed_of_verifyV3Target hverified
    rwa [hbelongs.manifest, hbelongs.runtime_uid, hbelongs.runtime_gid] at hinstalled
  refine run_bind (run_cleanupCommitted (fun d' => hcommitting.pruned hinstalled) hv
    hcommitting.stored hcommitting.confined) fun v d' hv hpurged => ?_
  refine Run.done ⟨rfl, ?_⟩
  rw [hv.state]
  exact (Renewed.mk hinstalled hcommitting.framed).congr
    (Restored.pruned (fun _ _ => rfl) hpurged.pruned)

/-- Recovery of a target without a journal changes nothing of a new generation. -/
theorem Renewed.untouched (h : Renewed machine request manifest origin d)
    (huntouched : Untouched d d') : Renewed machine request manifest origin d' :=
  h.congr huntouched.restored

theorem Settling.attempts (h : Settling machine request origin d)
    (hattempts : Attempts machine d d') : Settling machine request origin d' := by
  induction hattempts with
  | none => exact h
  | @stopped d' v before host expected hv ih =>
    have hstate : (World.fresh d' : World Call (Disk Bytes)).state = d' := World.state_fresh d'
    obtain ⟨manifest, ⟨journal, hcommitting⟩ | ⟨hnone, hadmitted, hrenewed⟩⟩ := ih
    · exact (run_recover_committing hcommitting hstate).interrupted
        (by rw [hstate]; exact ⟨manifest, .inl ⟨journal, hcommitting⟩⟩) hv
    · have huntouched : Untouched d' d' := ⟨fun _ _ => rfl, hnone⟩
      have hafter := (run_recover_untouched huntouched hstate).interrupted (by rwa [hstate]) hv
      exact ⟨manifest, .inr ⟨hafter.noJournal, hadmitted, hrenewed.untouched hafter⟩⟩

/-- The generation of the backup has replaced the old one. -/
def Replaced (machine : Machine Bytes) (request : Request Bytes) (origin d : Disk Bytes) : Prop :=
  ∃ manifest, admitRestore machine request origin = .ok manifest ∧
    Renewed machine request manifest origin d

theorem Settling.framed (h : Settling machine request origin d) {path : Parts}
    (hpath : Unmanaged path) : d.node path = origin.node path := by
  obtain ⟨manifest, ⟨journal, hcommitting⟩ | ⟨-, -, hrenewed⟩⟩ := h
  · exact hcommitting.framed path hpath
  · exact hrenewed.framed path hpath

/-- A recovery after a commit finds the new generation, or it raises. -/
theorem Settling.recovered (h : Settling machine request origin d) (host : Host Bytes)
    (expected : Option String) {answer : String}
    (hanswer : (recover machine host expected (World.fresh d)).1 = .ok answer) :
    (answer = "committed_finalized" ∨ answer = "no_transaction") ∧
      Replaced machine request origin
        (recover machine host expected (World.fresh d)).2.state := by
  have hstate : (World.fresh d : World Call (Disk Bytes)).state = d := World.state_fresh d
  obtain ⟨manifest, ⟨journal, hcommitting⟩ | ⟨hjournal, hadmitted, hrenewed⟩⟩ := h
  · have hreturns := (run_recover_committing hcommitting hstate).returns answer hanswer
    exact ⟨.inl hreturns.1, manifest, hcommitting.belongs.admitted, hreturns.2⟩
  · have huntouched : Untouched d d := ⟨fun _ _ => rfl, hjournal⟩
    have hreturns := (run_recover_untouched huntouched hstate).returns answer hanswer
    exact ⟨.inr hreturns.1, manifest, hadmitted, hrenewed.untouched hreturns.2⟩

/-- A restore is atomic: wherever it is stopped or fails, and however often recovery is stopped
after that, unmanaged files are as they were, and a recovery that returns leaves the old generation
or the whole new one, as its answer says. -/
theorem execute_atomic (machine : Machine Bytes) (request : Request Bytes) (host : Host Bytes)
    (hnone : origin.node JOURNAL_PATH = none)
    (hv : Process.Interrupted (execute machine host request) (World.fresh origin) v)
    (hattempts : Attempts machine v.state d) :
    (∀ path, Unmanaged path → d.node path = origin.node path) ∧
    ∀ (host' : Host Bytes) (expected : Option String) (answer : String),
      (recover machine host' expected (World.fresh d)).1 = .ok answer →
      let d' := (recover machine host' expected (World.fresh d)).2.state
      answer = "rolled_back" ∧ Restored origin d' ∨
        answer = "committed_finalized" ∧ Replaced machine request origin d' ∨
        answer = "no_transaction" ∧
          (Restored origin d' ∨ Replaced machine request origin d') := by
  rcases settling_of_interrupted hnone hv with hrestorable | hsettling
  · have hrestorable := hrestorable.attempts hattempts
    refine ⟨fun path => hrestorable.framed, fun host' expected answer hanswer => ?_⟩
    obtain ⟨hrolled | hnothing, hrestored⟩ := hrestorable.recovered host' expected hanswer
    · exact .inl ⟨hrolled, hrestored⟩
    · exact .inr (.inr ⟨hnothing, .inl hrestored⟩)
  · have hsettling := hsettling.attempts hattempts
    refine ⟨fun path => hsettling.framed, fun host' expected answer hanswer => ?_⟩
    obtain ⟨hfinalized | hnothing, hreplaced⟩ := hsettling.recovered host' expected hanswer
    · exact .inr (.inl ⟨hfinalized, hreplaced⟩)
    · exact .inr (.inr ⟨hnothing, .inr hreplaced⟩)

/-- A restore of a backup whose files are empty. -/
def plainRequest : Request Json where
  backup := ⟨fun _ => .ok basicManifest.toDict, fun _ => some .null⟩
  runtime_uid := 1000
  runtime_gid := 1000
  transaction_id := some (String.ofList (List.replicate 32 '0'))
  expected_legacy_import_id := none
  uuid := ""

/-- The process is killed when it comes to install the first file. -/
def killedHost : Host Json :=
  { calmHost with
    hook := fun _ event _ => if event = "installation_artifact" then some .exit else none }

/-- The world in which it is killed. -/
def killedWorld : World Call (Disk Json) :=
  (execute plainMachine killedHost plainRequest (World.fresh Backup.emptyDirectory)).2

theorem exists_of_isOk {ε β : Type} {result : Except ε β} (h : result.isOk = true) :
    ∃ b, result = .ok b := by
  cases result with
  | ok b => exact ⟨b, rfl⟩
  | error e => cases h

theorem isOk_recover_killedWorld :
    (recover plainMachine calmHost none (World.fresh killedWorld.state)).1.isOk = true := by
  decide +kernel

theorem journal_emptyDirectory : Backup.emptyDirectory.node JOURNAL_PATH = none :=
  node_emptyDirectory (by simp [JOURNAL_PATH])

theorem execute_atomic_killedWorld : ∃ answer,
    (recover plainMachine calmHost none (World.fresh killedWorld.state)).1 = .ok answer ∧
    (answer = "rolled_back" ∧ Restored Backup.emptyDirectory
        (recover plainMachine calmHost none (World.fresh killedWorld.state)).2.state ∨
      answer = "committed_finalized" ∧ Replaced plainMachine plainRequest Backup.emptyDirectory
        (recover plainMachine calmHost none (World.fresh killedWorld.state)).2.state ∨
      answer = "no_transaction" ∧ (Restored Backup.emptyDirectory
          (recover plainMachine calmHost none (World.fresh killedWorld.state)).2.state ∨
        Replaced plainMachine plainRequest Backup.emptyDirectory
          (recover plainMachine calmHost none (World.fresh killedWorld.state)).2.state)) := by
  obtain ⟨answer, hanswer⟩ := exists_of_isOk isOk_recover_killedWorld
  have hatomic := execute_atomic plainMachine plainRequest killedHost journal_emptyDirectory
    ⟨extends_execute journal_emptyDirectory, .refl _⟩ .none
  exact ⟨answer, hanswer, hatomic.2 calmHost none answer hanswer⟩

/-- A restore that is stopped before its first call leaves nothing to recover, which recovery
reports as neither of the two. -/
theorem not_execute_atomic_unstarted : ¬ ∀ (host : Host Json) (request : Request Json)
    (origin : Disk Json) (v : World Call (Disk Json)) (answer : String),
    (admitRestore plainMachine request origin).isOk = true →
    Process.Interrupted (execute plainMachine host request) (World.fresh origin) v →
    (recover plainMachine host none (World.fresh v.state)).1 = .ok answer →
    let d := (recover plainMachine host none (World.fresh v.state)).2.state
    answer = "rolled_back" ∧ Restored origin d ∨
      answer = "committed_finalized" ∧ Replaced plainMachine request origin d := by
  intro hclaim
  have hstate : (World.fresh Backup.emptyDirectory : World Call (Disk Json)).state =
    Backup.emptyDirectory := World.state_fresh _
  have hok : (recover plainMachine calmHost none (World.fresh Backup.emptyDirectory)).1.isOk =
      true := by
    decide +kernel
  obtain ⟨answer, hanswer⟩ := exists_of_isOk hok
  have hnothing : answer = "no_transaction" :=
    ((run_recover_untouched ⟨fun _ _ => rfl, journal_emptyDirectory⟩ hstate).returns answer
      hanswer).1
  subst hnothing
  have hstopped : Process.Interrupted (execute plainMachine calmHost plainRequest)
      (World.fresh Backup.emptyDirectory) (World.fresh Backup.emptyDirectory) :=
    ⟨.refl _, extends_execute journal_emptyDirectory⟩
  have hadmitted : (admitRestore plainMachine plainRequest Backup.emptyDirectory).isOk = true := by
    decide +kernel
  have hanswers := hclaim calmHost plainRequest Backup.emptyDirectory
    (World.fresh Backup.emptyDirectory) "no_transaction" hadmitted hstopped (by rwa [hstate])
  rcases hanswers with ⟨hrolled, -⟩ | ⟨hfinalized, -⟩
  · exact absurd hrolled (by decide)
  · exact absurd hfinalized (by decide)

end AtlasOS.Restore
