import AtlasOS.Restore.Recovery

/-!
# A restore before its commit

The steps of a restore may fail anywhere. Until the journal is written they only
touch the namespace. From then on they move the old files into the rollback
area and the new ones into their places, and whatever has happened by then, the
old files are all there and a journal is on the disk.
-/

namespace AtlasOS.Restore

open Crash (World Process Run)

variable {Bytes α : Type} {machine : Machine Bytes} {host : Host Bytes}
  {journal : RestoreJournal machine.py} {origin d₀ d d' d'' : Disk Bytes}
  {S : Disk Bytes → Prop} {w v : World Call (Disk Bytes)}

/-- Whatever fails leaves a disk of `S`. -/
def Safely (S : Disk Bytes → Prop) (_ : Error) (v : World Call (Disk Bytes)) : Prop := S v.state

theorem excuses_safely : Excuses host S (Safely S) w where
  calls u call _ hS _ := by
    rw [Safely, World.state_record]
    exact hS
  hooks u event index e _ hS _ := by
    rw [Safely, World.state_record]
    exact hS

theorem At.safely (hstate : w.state = d) (hS : S d) : At host S (Safely S) w d :=
  ⟨hstate, hS, excuses_safely⟩

theorem At.raises (h : At host S (Safely S) w d) (error : Error) : Safely S error w := by
  rw [Safely, h.state]
  exact h.safe

/-! ## Writing the journal -/

/-- The journal is being written: nothing else has changed. -/
structure Writing (journal : RestoreJournal machine.py) (d d' : Disk Bytes) : Prop where
  other : ∀ path, path ≠ JOURNAL_PATH → path ≠ TEMPORARY_PATH → d'.node path = d.node path
  temporary : Replaceable (journal.look d' .temporary)
  journal : d'.node JOURNAL_PATH = d.node JOURNAL_PATH ∨ Stored journal d'

theorem journalPath_ne : JOURNAL_PATH ≠ TEMPORARY_PATH := by decide

namespace Writing

/-- The temporary file is changed. -/
theorem set_temporary {node : Option (Node Bytes)} (h : Writing journal d d')
    (hsets : d'.Sets TEMPORARY_PATH node d'') (hnode : Replaceable node) :
    Writing journal d d'' where
  other path hjournal htemporary := by
    rw [hsets.other htemporary]
    exact h.other path hjournal htemporary
  temporary := by
    have hlook : journal.look d'' .temporary = node := hsets.self
    rwa [hlook]
  journal := by
    have hsame : d''.node JOURNAL_PATH = d'.node JOURNAL_PATH := hsets.other journalPath_ne
    rcases h.journal with hjournal | hstored
    · exact .inl (hsame.trans hjournal)
    · exact .inr (hsame.trans hstored)

theorem look_eq (h : Writing journal d d') {place : Place} (hjournal : place ≠ .journal)
    (htemporary : place ≠ .temporary) : journal.look d' place = journal.look d place := by
  have hid := journal.checks.1
  refine h.other _ (fun hpath => hjournal ?_) fun hpath => htemporary ?_
  · exact Place.path_injective (q := .journal) hid hpath
  · exact Place.path_injective (q := .temporary) hid hpath

theorem confined (h : Writing journal d d') (hconfined : Confined journal d) :
    Confined journal d' := by
  intro path hpath node hnode
  by_cases htemporary : path = TEMPORARY_PATH
  · subst htemporary
    exact ⟨.temporary, rfl, h.temporary node hnode⟩
  by_cases hjournal : path = JOURNAL_PATH
  · subst hjournal
    refine ⟨.journal, rfl, ?_⟩
    rcases h.journal with hsame | hstored
    · rw [hsame] at hnode
      have hlook : journal.look d .journal = some node := hnode
      exact hconfined.fits rfl hlook
    · have heq := hnode.symm.trans hstored
      cases heq
      exact ⟨_, _, rfl⟩
  · rw [h.other path hjournal htemporary] at hnode
    exact hconfined path hpath node hnode

theorem restored (h : Writing journal d d') (hrestored : Restored origin d) :
    Restored origin d' := by
  intro path hpath
  have hother {inside : Parts} (hinside : NAMESPACE <+: inside) : path ≠ inside := by
    rintro rfl
    exact hpath hinside
  rw [h.other path (hother (List.prefix_append _ _)) (hother (List.prefix_append _ _)),
    hrestored path hpath]

theorem evidence (h : Writing journal d d') (hevidence : Evidence journal origin d) :
    Evidence journal origin d' where
  framed path hpath := by
    rw [h.other path (hpath.ne_path journal.transaction_id .journal)
      (hpath.ne_path journal.transaction_id .temporary)]
    exact hevidence.framed path hpath
  confined := h.confined hevidence.confined
  files path := by
    rw [h.look_eq (by simp) (by simp), h.look_eq (by simp) (by simp)]
    exact hevidence.files path
  directories parent := by
    rw [h.look_eq (by simp) (by simp)]
    exact hevidence.directories parent

end Writing

/-- What the writing of the journal leaves: nothing else has changed. -/
structure Wrote (journal : RestoreJournal machine.py) (d d' : Disk Bytes) : Prop where
  writing : Writing journal d d'
  stored : Stored journal d'
  noTemporary : journal.look d' .temporary = none

/-- The clean-up removes the temporary file. -/
theorem run_removeTemporary (h : At host (Writing journal d₀) (Safely (Writing journal d₀)) w d) :
    Run (Writing journal d₀) (removeTemporary host) w
      (Leaves host (Writing journal d₀) (Safely (Writing journal d₀))
        fun d' => d.Sets TEMPORARY_PATH none d') (Safely (Writing journal d₀)) := by
  unfold removeTemporary
  cases hlook : journal.look d .temporary with
  | none =>
    have hnode : d.node TEMPORARY_PATH = none := hlook
    refine h.observe_bind (b := false) (by simp [Disk.existsAt, hnode]) fun v hv => ?_
    exact hv.skip (.same hnode)
  | some node =>
    obtain ⟨content, metadata, rfl⟩ := h.safe.temporary node hlook
    have hnode : d.node TEMPORARY_PATH = some (.file content metadata 1) := hlook
    refine h.observe_bind (b := true) (by simp [Disk.existsAt, hnode]) fun v hv => ?_
    obtain ⟨d', hd'⟩ : ∃ d', d.unlink TEMPORARY_PATH = some d' := Disk.unlink_of
      (by simp [Disk.isDirectory, hnode, Node.isDirectory]) (by simp [hnode])
    have hsets := Disk.sets_of_unlink hd'
    exact hv.change hd' (h.safe.set_temporary hsets .none) fun hv => hv.leaves hsets

/-- The journal is written beside the old one and then replaces it. -/
theorem run_writeJournal_within (hstate : w.state = d) (htemporary : Replaceable (journal.look d .temporary)) :
    Run (Writing journal d) (writeJournal machine host journal) w
      (Leaves host (Writing journal d) (Safely (Writing journal d)) (Wrote journal d))
      (Safely (Writing journal d)) := by
  have hstart : Writing journal d d := ⟨fun _ _ _ => rfl, htemporary, .inl rfl⟩
  have h : At host (Writing journal d) (Safely (Writing journal d)) w d := .safely hstate hstart
  unfold writeJournal
  refine h.observe_or_bind (fun e v hv _ => hv.raises e) fun _ v hv hchecks => ?_
  refine hv.change_or_bind (fun v hv _ => hv.raises _) (fun d₁ hd₁ => ?_) fun v d₁ hv hd₁ => ?_
  · exact hstart.set_temporary (Disk.sets_of_add hd₁).2 (.file _ _)
  have hsets₁ := (Disk.sets_of_add hd₁).2
  have hsafe {content : Bytes} {metadata : Metadata} {d₂ : Disk Bytes}
      (hsets : d.Sets TEMPORARY_PATH (some (.file content metadata 1)) d₂) : Writing journal d d₂ :=
    hstart.set_temporary hsets (.file content metadata)
  have hbody : Run (Writing journal d) (do
      chmod host TEMPORARY_PATH PRIVATE_FILE_MODE
      chown host TEMPORARY_PATH journal.runtime_uid journal.runtime_gid
      writeFile host machine.storage TEMPORARY_PATH (machine.storage.document journal.toDict)
      fsyncFile host TEMPORARY_PATH
      change host (.replace TEMPORARY_PATH JOURNAL_PATH) (·.replace TEMPORARY_PATH JOURNAL_PATH)
      fsyncDirectory host NAMESPACE) v
      (Leaves host (Writing journal d) (Safely (Writing journal d)) (Stored journal))
      (Safely (Writing journal d)) := by
    refine hv.setMetadata_bind hsets₁.self (by simp) (fun d₂ hsets => hsafe (hsets₁.again hsets))
      fun v d₂ hv hsets₂ => ?_
    have hsets₂ := hsets₁.again hsets₂
    refine hv.setMetadata_bind hsets₂.self (by simp [Node.withMetadata]) (fun d₃ hsets => hsafe (hsets₂.again hsets))
      fun v d₃ hv hsets₃ => ?_
    have hsets₃ := hsets₂.again hsets₃
    refine run_bind (run_writeFile hv hsets₃.self fun draft d₄ hsets =>
      hsafe (hsets₃.again hsets)) fun v d₄ hv hsets₄ => ?_
    have hsets₄ := hsets₃.again hsets₄
    refine hv.observe_or_bind (fun e v hv _ => hv.raises e) fun _ v hv _ => ?_
    have hstored {d₅ : Disk Bytes} (hd₅ : d₄.replace TEMPORARY_PATH JOURNAL_PATH = some d₅) :
        Writing journal d d₅ ∧ Stored journal d₅ := by
      have hnode := Disk.node_of_replace journalPath_ne.symm hd₅
      have hstored₅ : Stored journal d₅ := by
        show d₅.node JOURNAL_PATH = _
        rw [hnode, if_pos rfl, hsets₄.self]
      refine ⟨⟨fun path hjournal htemporary => ?_, ?_, .inr hstored₅⟩, hstored₅⟩
      · rw [hnode, if_neg hjournal, if_neg htemporary, hsets₄.other htemporary]
      · have hnone : journal.look d₅ .temporary = none := by
          show d₅.node TEMPORARY_PATH = none
          rw [hnode, if_neg journalPath_ne.symm, if_pos rfl]
        rw [hnone]
        exact .none
    refine hv.change_or_bind (fun v hv _ => hv.raises _) (fun d₅ hd₅ => (hstored hd₅).1)
      fun v d₅ hv hd₅ => ?_
    exact hv.observe_or (fun e v hv _ => hv.raises e) fun _ v hv _ => hv.leaves (hstored hd₅).2
  refine hbody.ensure (fun _ v _ hleaves => ?_) fun e v _ hsafely => ?_
  · obtain ⟨d₂, hd₂, hstored⟩ := hleaves
    refine (run_removeTemporary hd₂).mono (fun _ h => h) (fun _ v _ hleaves => ?_) fun _ _ _ h => h
    obtain ⟨d₃, hd₃, hsets⟩ := hleaves
    refine hd₃.leaves ⟨hd₃.safe, ?_, hsets.self⟩
    exact (hsets.other journalPath_ne).trans hstored
  · have hd : At host (Writing journal d) (Safely (Writing journal d)) v v.state :=
      .safely rfl hsafely
    refine (run_removeTemporary hd).mono (fun _ h => h) (fun _ v _ hleaves => ?_) fun _ _ _ h => h
    obtain ⟨d₂, hd₂, -⟩ := hleaves
    exact hd₂.raises e

theorem run_writeJournal (hS : ∀ d', Writing journal d d' → S d') (hstate : w.state = d)
    (htemporary : Replaceable (journal.look d .temporary)) :
    Run S (writeJournal machine host journal) w
      (Leaves host S (Safely S) (Wrote journal d)) (Safely S) := by
  refine (run_writeJournal_within hstate htemporary).mono hS (fun _ v _ hleaves => ?_)
    fun _ v _ hsafely => hS v.state hsafely
  obtain ⟨d', hd', hwrote⟩ := hleaves
  exact ⟨d', .safely hd'.state (hS d' hd'.safe), hwrote⟩

/-! ## Moving the files -/

/-- A transaction whose journal is on the disk, in whatever phase, with all the old files. -/
structure Live (journal : RestoreJournal machine.py) (origin d : Disk Bytes) : Prop where
  evidence : Evidence journal origin d
  stored : ∃ phase, Stored (journal.inPhase phase) d
  transaction : journal.look d .transaction ≠ none

namespace Live

/-- A change that leaves the journal and the transaction in place. -/
theorem step (h : Live journal origin d) (hevidence : Evidence journal origin d')
    (hjournal : journal.look d' .journal = journal.look d .journal)
    (htransaction : journal.look d' .transaction = journal.look d .transaction) :
    Live journal origin d' where
  evidence := hevidence
  stored := by
    obtain ⟨phase, hstored⟩ := h.stored
    exact ⟨phase, hjournal.trans hstored⟩
  transaction := by
    rw [htransaction]
    exact h.transaction

theorem sets {place : Place} {node : Option (Node Bytes)} (h : Live journal origin d)
    (hsets : d.Sets (place.path journal.transaction_id) node d')
    (hevidence : Evidence journal origin d') (hjournal : place ≠ .journal)
    (htransaction : place ≠ .transaction) : Live journal origin d' := by
  refine h.step hevidence ?_ ?_
  · rw [look_sets hsets, if_neg hjournal.symm]
  · rw [look_sets hsets, if_neg htransaction.symm]

theorem inPhase (h : Live journal origin d) (phase : RestorePhase) :
    Live (journal.inPhase phase) origin d :=
  ⟨⟨h.evidence.framed, h.evidence.confined, h.evidence.files, h.evidence.directories⟩, h.stored,
    h.transaction⟩

theorem writing {phase : RestorePhase} (h : Live journal origin d)
    (hwriting : Writing (journal.inPhase phase) d d') : Live journal origin d' := by
  have hphase := h.inPhase phase
  have hevidence := hwriting.evidence hphase.evidence
  refine ⟨⟨hevidence.framed, hevidence.confined, hevidence.files, hevidence.directories⟩, ?_, ?_⟩
  · rcases hwriting.journal with hsame | hstored
    · obtain ⟨old, hold⟩ := h.stored
      exact ⟨old, hsame.trans hold⟩
    · exact ⟨phase, hstored⟩
  · have hsame : journal.look d' .transaction = journal.look d .transaction :=
      hwriting.look_eq (by simp) (by simp)
    rw [hsame]
    exact h.transaction

end Live

/-- The journal goes to its next phase. -/
theorem run_transition (old : RestorePhase) {phase : RestorePhase} (hlive : Live journal origin d)
    (hstate : w.state = d) :
    Run (Live journal origin) (transition machine host (journal.inPhase old) phase) w
      (fun changed v => changed = journal.inPhase phase ∧
        ∃ d', At host (Live journal origin) (Safely (Live journal origin)) v d' ∧
          Wrote (journal.inPhase phase) d d') (Safely (Live journal origin)) := by
  unfold transition
  have hcompute : Run (Live journal origin) (compute (demand (old.next = some phase)
      (.journal "restore journal phase transition is invalid")) : Script Bytes Unit) w
      (fun _ v => v.state = d) (Safely (Live journal origin)) := by
    cases demand (old.next = some phase)
        (.journal "restore journal phase transition is invalid") with
    | ok _ => exact Run.done hstate
    | error e => exact Run.raise (by rw [Safely, hstate]; exact hlive)
  refine hcompute.bind fun _ v _ hv => ?_
  have htemporary : Replaceable ((journal.inPhase phase).look d .temporary) := by
    intro node hnode
    have hlook : journal.look d .temporary = some node := hnode
    exact hlive.evidence.confined.fits rfl hlook
  refine (run_writeJournal (fun d' => hlive.writing) hv htemporary).bind fun _ v _ hleaves => ?_
  obtain ⟨d', hd', hwrote⟩ := hleaves
  exact Run.done ⟨rfl, d', hd', hwrote⟩

theorem plain_of_assertRegularFile {path : Parts} {label : String} {found : Bytes × Metadata}
    (h : assertRegularFile path label d = .ok found) :
    d.node path = some (.file found.1 found.2 1) := by
  unfold assertRegularFile at h
  split at h
  · cases h
  · next content metadata nlink hnode =>
    split at h
    · next hlink =>
      cases h
      rw [hnode, hlink]
    · cases h
  · cases h

/-- A file that is verified against its recorded state is a plain file. -/
theorem plain_of_verifyFileState {storage : Storage Bytes} {path : Parts} {file : FileMetadata}
    {label : String} (h : verifyFileState storage path (some file) label d = .ok ()) :
    ∃ content metadata, d.node path = some (.file content metadata 1) := by
  unfold verifyFileState at h
  obtain ⟨found, hfound, -⟩ := bind_eq_ok.mp h
  exact ⟨found.1, found.2, plain_of_assertRegularFile hfound⟩

/-- A directory that passes the check for an owner is private to this owner. -/
theorem private_of_assertPrivateDirectory {target : Target} {path : Parts} {uid gid : ℕ}
    (h : assertPrivateDirectory target path (some (uid, gid)) d = .ok ()) :
    d.node path = some (privateDirectory uid gid) := by
  unfold assertPrivateDirectory at h
  rw [demand_eq_ok, Option.any_eq_true] at h
  obtain ⟨⟨mode, uid', gid'⟩, hat, hmetadata⟩ := h
  simp at hmetadata
  obtain ⟨rfl, rfl, rfl⟩ := hmetadata
  exact Disk.directoryAt_eq_some.mp hat

/-- A private directory is there afterwards, unless an error is raised. -/
theorem run_createPrivateDirectory_or {target : Target} {path : Parts} {uid gid : ℕ}
    (h : At host S (Safely S) w d)
    (hS : ∀ metadata d', d.Sets path (some (.directory metadata)) d' → S d') :
    Run S (createPrivateDirectory host target path uid gid) w
      (Leaves host S (Safely S) (d.Sets path (some (privateDirectory uid gid)))) (Safely S) := by
  unfold createPrivateDirectory
  refine h.observe_or_bind (fun e v hv _ => hv.raises e) fun present v hv hpresent => ?_
  cases hnode : d.node path with
  | none =>
    simp [hnode] at hpresent
    subst hpresent
    refine hv.change_or_bind (fun v hv _ => hv.raises _) (fun d₁ hd₁ => ?_) fun v d₁ hv hd₁ => ?_
    · exact hS _ _ (Disk.sets_of_add hd₁).2
    have hsets₁ := (Disk.sets_of_add hd₁).2
    refine hv.setMetadata_bind hsets₁.self (by simp)
      (fun d₂ hsets₂ => hS _ _ (hsets₁.again hsets₂)) fun v d₂ hv hsets₂ => ?_
    refine hv.setMetadata_bind hsets₂.self (by simp [Node.withMetadata])
      (fun d₃ hsets₃ => hS _ _ ((hsets₁.again hsets₂).again hsets₃)) fun v d₃ hv hsets₃ => ?_
    have hsets := (hsets₁.again hsets₂).again hsets₃
    exact hv.observe_or (fun e v hv _ => hv.raises e) fun _ v hv _ => hv.leaves hsets
  | some node =>
    simp only [Disk.isPresent_eq, hnode, Option.isSome_some, if_true, check_bind_eq_ok,
      pure_eq_ok, Except.ok.injEq] at hpresent
    obtain ⟨hassert, rfl⟩ := hpresent
    exact hv.skip (.same (private_of_assertPrivateDirectory hassert))

/-- The directory of a path below a root is there afterwards, unless an error is raised. -/
theorem run_ensurePrivateParents_or {target : Target} {root : Parts} {uid gid : ℕ}
    (path : TransactionPath) (h : At host S (Safely S) w d)
    (hS : ∀ directory ∈ path.directory, ∀ metadata d',
      d.Sets (root ++ ManagedDirectory.parts directory) (some (.directory metadata)) d' → S d') :
    Run S (ensurePrivateParents host target uid gid root path.parts.dropLast) w
      (Leaves host S (Safely S) fun d' =>
        match path.directory with
        | none => d' = d
        | some directory => d.Sets (root ++ ManagedDirectory.parts directory)
            (some (privateDirectory uid gid)) d') (Safely S) := by
  rw [TransactionPath.dropLast_parts]
  cases hdirectory : path.directory with
  | none => exact h.skip rfl
  | some directory =>
    exact run_bind (run_createPrivateDirectory_or h (hS directory hdirectory))
      fun v d' hv hsets => hv.skip hsets

/-- What the quarantine of some operations leaves. -/
structure Quarantining (journal : RestoreJournal machine.py) (origin : Disk Bytes)
    (paths : List TransactionPath) (d : Disk Bytes) : Prop where
  live : Live journal origin d
  /-- The rollback area holds only files that were visited. -/
  unvisited : ∀ path, path ∉ paths → journal.look d (.areaFile .rollback path) = none

/-- A directory of the rollback area. -/
theorem Quarantining.set_areaDirectory {paths : List TransactionPath} {metadata : Metadata}
    (h : Quarantining journal origin paths d) (parent : ManagedDirectory)
    (hsets : d.Sets ((Place.areaDirectory .rollback parent).path journal.transaction_id)
      (some (.directory metadata)) d') : Quarantining journal origin paths d' := by
  have hevidence := h.live.evidence.set_inside hsets rfl (by simp) (by
    rintro _ ⟨⟩
    exact ⟨metadata, rfl⟩)
  refine ⟨h.live.sets hsets hevidence (by simp) (by simp), fun path hpath => ?_⟩
  rw [look_sets hsets, if_neg (by simp)]
  exact h.unvisited path hpath

/-- Moving an old file into the rollback area keeps it. -/
theorem Quarantining.move {paths : List TransactionPath} {path : TransactionPath}
    {content : Bytes} {metadata : Metadata} (h : Quarantining journal origin paths d)
    (hnew : path ∉ paths) (horigin : origin.node path.parts ≠ none)
    (hfile : d.node path.parts = some (.file content metadata 1))
    (hmove : d.replace path.parts (areaPath journal.transaction_id .rollback ++ path.parts) =
      some d') : Quarantining journal origin (paths ++ [path]) d' := by
  have hne : Place.final path ≠ .areaFile .rollback path := by simp
  have hlook (other : Place) : journal.look d' other = _ := look_replace hne hmove other
  have hcurrent : d.node path.parts = origin.node path.parts := by
    rcases h.live.evidence.files path with ⟨-, hcurrent⟩ | ⟨hquarantined, -⟩
    · exact hcurrent
    · rw [h.unvisited path hnew] at hquarantined
      exact (horigin hquarantined.symm).elim
  have hevidence : Evidence journal origin d' := by
    refine h.live.evidence.of_replace hne hmove (fun _ node hnode => ?_) (fun other => ?_)
      fun parent => ⟨by simp, by simp⟩
    · have heq := hnode.symm.trans hfile
      cases heq
      exact ⟨content, metadata, rfl⟩
    · by_cases heq : other = path
      · subst heq
        rw [hlook, hlook, if_pos rfl, if_neg hne, if_pos rfl]
        exact .inr ⟨hcurrent, .none⟩
      · rw [hlook, hlook, if_neg (by simpa using heq), if_neg (by simp), if_neg (by simp),
          if_neg (by simpa using heq)]
        exact h.live.evidence.files other
  refine ⟨h.live.step hevidence ?_ ?_, fun other hother => ?_⟩
  · rw [hlook, if_neg (by simp), if_neg (by simp)]
  · rw [hlook, if_neg (by simp), if_neg (by simp)]
  · rw [List.mem_append, List.mem_singleton, not_or] at hother
    rw [hlook, if_neg (by simpa using hother.2), if_neg (by simp)]
    exact h.unvisited other hother.1

/-- The operations of a journal have different paths. -/
theorem path_not_mem_before {before after : List (RestoreOperation × ℕ)}
    {operation : RestoreOperation} {index : ℕ}
    (h : journal.operations.zipIdx = before ++ (operation, index) :: after) :
    operation.path ∉ before.map (·.1.path) := by
  have hnodup : (journal.operations.zipIdx.map (·.1.path)).Nodup := by
    have hpaths : journal.operations.zipIdx.map (·.1.path) = MANAGED_TRANSACTION_PATHS := by
      calc journal.operations.zipIdx.map (·.1.path)
          = (journal.operations.zipIdx.map Prod.fst).map (·.path) := by rw [List.map_map]; rfl
        _ = MANAGED_TRANSACTION_PATHS := by rw [List.zipIdx_map_fst, journal.checks.2.2.2.2.1]
    rw [hpaths]
    exact TransactionPath.nodup_paths
  rw [h, List.map_append, List.map_cons] at hnodup
  exact fun hmem => List.disjoint_of_nodup_append hnodup hmem (by simp)

/-- The old files are moved into the rollback area one after the other. -/
theorem run_quarantine (hcaptured : Captured journal origin) (hstate : w.state = d)
    (hstart : Quarantining journal origin [] d) :
    Run (Live journal origin)
      (quarantine machine host (areaPath journal.transaction_id .rollback) journal) w
      (Leaves host (Live journal origin) (Safely (Live journal origin)) (Live journal origin))
      (Safely (Live journal origin)) := by
  have h : At host (Live journal origin) (Safely (Live journal origin)) w d :=
    .safely hstate hstart.live
  have hloop : Run (Live journal origin)
      (quarantine machine host (areaPath journal.transaction_id .rollback) journal) w _
      (Safely (Live journal origin)) :=
    run_forM (fun before d' => Quarantining journal origin (before.map (·.1.path)) d') h hstart
      fun before (operation, index) after v d₁ heq hv hbefore => by
        have hnew := path_not_mem_before heq
        have hmem : operation ∈ journal.operations := by
          have hitem : (operation, index) ∈ journal.operations.zipIdx := by
            rw [heq]
            simp
          exact List.fst_mem_of_mem_zipIdx hitem
        rw [List.map_append, List.map_singleton]
        dsimp only
        refine hv.observe_or_bind (fun e v hv _ => hv.raises e) fun _ v hv _ => ?_
        cases horiginal : operation.original with
        | none =>
          rw [Option.isSome_none, if_neg Bool.false_ne_true]
          refine hv.skip ⟨hbefore.live, fun path hpath => hbefore.unvisited path fun hin => ?_⟩
          exact hpath (List.mem_append_left _ hin)
        | some file =>
          rw [Option.isSome_some, if_pos rfl]
          refine hv.observe_or_bind (fun e v hv _ => hv.raises e) fun _ v hv hverified => ?_
          obtain ⟨content, metadata, hfile⟩ :=
            plain_of_verifyFileState (check_bind_eq_ok.mp hverified).1
          have horigin : origin.node operation.path.parts ≠ none := by
            rcases hcaptured.files operation hmem with ⟨-, hnone⟩ | ⟨_, _, hsome, -⟩
            · rw [horiginal] at hnone
              cases hnone
            · simp [hsome]
          -- What follows once the directory of the rollback area is there.
          have hmove {v : World Call (Disk Bytes)} {d₂ : Disk Bytes}
              (hv : At host (Live journal origin) (Safely (Live journal origin)) v d₂)
              (hquarantining : Quarantining journal origin (before.map (·.1.path)) d₂)
              (hfile₂ : d₂.node operation.path.parts = some (.file content metadata 1)) :
              Run (Live journal origin) (do
                  change host (.replace operation.path.parts
                      (areaPath journal.transaction_id .rollback ++ operation.path.parts))
                    (·.replace operation.path.parts
                      (areaPath journal.transaction_id .rollback ++ operation.path.parts))
                  fsyncDirectory host operation.path.parts.dropLast
                  fsyncDirectory host (areaPath journal.transaction_id .rollback ++
                    operation.path.parts).dropLast
                  observe host (verifyFileState machine.storage
                    (areaPath journal.transaction_id .rollback ++ operation.path.parts)
                    (some file) operation.path.value)
                  emit host "quarantine_artifact" (some index)) v
                (Leaves host (Live journal origin) (Safely (Live journal origin))
                  (Quarantining journal origin (before.map (·.1.path) ++ [operation.path])))
                (Safely (Live journal origin)) := by
            refine hv.change_or_bind (fun v hv _ => hv.raises _)
              (fun d₃ hd₃ => (hquarantining.move hnew horigin hfile₂ hd₃).live)
              fun v d₃ hv hd₃ => ?_
            have hmoved := hquarantining.move hnew horigin hfile₂ hd₃
            refine hv.observe_or_bind (fun e v hv _ => hv.raises e) fun _ v hv _ => ?_
            refine hv.observe_or_bind (fun e v hv _ => hv.raises e) fun _ v hv _ => ?_
            refine hv.observe_or_bind (fun e v hv _ => hv.raises e) fun _ v hv _ => ?_
            exact hv.emit fun v hv => hv.leaves hmoved
          have hsafe (parent : ManagedDirectory) (metadata : Metadata) (d' : Disk Bytes)
              (hsets : d₁.Sets (areaPath journal.transaction_id .rollback ++ parent.parts)
                (some (.directory metadata)) d') :
              Quarantining journal origin (before.map (·.1.path)) d' :=
            hbefore.set_areaDirectory parent hsets
          refine run_bind (run_ensurePrivateParents_or operation.path hv fun parent _ metadata d' hsets =>
            (hsafe parent metadata d' hsets).live) fun u d₂ hu hpost => ?_
          cases hdirectory : operation.path.directory with
          | none =>
            rw [hdirectory] at hpost
            subst hpost
            exact hmove hu hbefore hfile
          | some parent =>
            rw [hdirectory] at hpost
            refine hmove hu (hsafe parent _ d₂ hpost) ?_
            have hsets : d₁.Sets ((Place.areaDirectory .rollback parent).path journal.transaction_id)
              (some (privateDirectory journal.runtime_uid journal.runtime_gid)) d₂ := hpost
            have hsame := look_sets hsets (.final operation.path)
            rw [if_neg (by simp)] at hsame
            exact hsame.trans hfile
  refine hloop.mono (fun _ h => h) (fun _ v _ hleaves => ?_) fun _ _ _ h => h
  obtain ⟨d', hd', hpost⟩ := hleaves
  exact hd'.leaves hpost.live

/-- Putting a staged file into its place keeps the old file in the rollback area. -/
theorem Live.install {path : TransactionPath} {content : Bytes} {metadata : Metadata}
    (h : Live journal origin d)
    (hstaged : journal.look d (.areaFile .stage path) = some (.file content metadata 1))
    (hclear : journal.look d (.final path) = none)
    (hmove : d.replace (areaPath journal.transaction_id .stage ++ path.parts) path.parts =
      some d') : Live journal origin d' := by
  have hne : Place.areaFile .stage path ≠ .final path := by simp
  have hlook (other : Place) : journal.look d' other = _ := look_replace hne hmove other
  have hevidence : Evidence journal origin d' := by
    refine h.evidence.of_replace hne hmove (fun hinside => by cases hinside) (fun other => ?_)
      fun parent => ⟨by simp, by simp⟩
    by_cases heq : other = path
    · subst heq
      rw [hlook, hlook, if_neg (by simp), if_neg (by simp), if_pos rfl, hstaged]
      rcases h.evidence.files other with ⟨hquarantined, hcurrent⟩ | ⟨hquarantined, -⟩
      · rw [hclear] at hcurrent
        exact .inr ⟨hquarantined.trans hcurrent, .file content metadata⟩
      · exact .inr ⟨hquarantined, .file content metadata⟩
    · rw [hlook, hlook, if_neg (by simp), if_neg (by simp), if_neg (by simpa using heq),
        if_neg (by simp)]
      exact h.evidence.files other
  refine h.step hevidence ?_ ?_
  · rw [hlook, if_neg (by simp), if_neg (by simp)]
  · rw [hlook, if_neg (by simp), if_neg (by simp)]

/-- The staged files are moved into their places one after the other. -/
theorem run_install {phase : RestorePhase} (hstate : w.state = d) (hlive : Live journal origin d) :
    Run (Live journal origin)
      (install machine host (areaPath journal.transaction_id .stage) (journal.inPhase phase)) w
      (Leaves host (Live journal origin) (Safely (Live journal origin)) (Live journal origin))
      (Safely (Live journal origin)) :=
  run_forM (fun _ d' => Live journal origin d') (.safely hstate hlive) hlive
    fun before (operation, index) after v d₁ heq hv hlive₁ => by
      dsimp only
      refine hv.observe_or_bind (fun e v hv _ => hv.raises e) fun _ v hv _ => ?_
      have hsafe (parent : ManagedDirectory) (metadata : Metadata) (d' : Disk Bytes)
          (hsets : d₁.Sets parent.parts (some (.directory metadata)) d') :
          Live journal origin d' := by
        have hsets' : d₁.Sets ((Place.directory parent).path journal.transaction_id)
            (some (.directory metadata)) d' := hsets
        exact hlive₁.sets hsets' (hlive₁.evidence.set_directory hsets') (by simp) (by simp)
      have hparents (parent : ManagedDirectory) (_ : parent ∈ operation.path.directory) :
          d₁.node parent.parts = none ∨ ∃ metadata, d₁.node parent.parts = some (.directory metadata) := by
        rcases hlive₁.evidence.directories parent with hdirectory | ⟨-, hnone⟩
        · exact .inr hdirectory
        · exact .inl hnone
      refine run_bind (run_ensureTargetParents operation.path hv hparents
        fun parent _ metadata d' hsets => hsafe parent metadata d' hsets) fun u d₂ hu hpost => ?_
      have hlive₂ : Live journal origin d₂ := by
        cases hdirectory : operation.path.directory with
        | none =>
          rw [hdirectory] at hpost
          rwa [hpost]
        | some parent =>
          rw [hdirectory] at hpost
          exact hsafe parent _ d₂ hpost
      refine hu.observe_or_bind (fun e v hv _ => hv.raises e) fun checked u hu hchecked => ?_
      obtain ⟨found, hfound, hclear⟩ := bind_eq_ok.mp hchecked
      have hstaged := plain_of_assertRegularFile hfound
      have hclear₂ : journal.look d₂ (.final operation.path) = none := by
        cases checked
        rw [demand_eq_ok, Disk.isPresent_eq, Bool.not_eq_true', Option.isSome_eq_false_iff,
          Option.isNone_iff_eq_none] at hclear
        exact hclear
      refine hu.change_or_bind (fun v hv _ => hv.raises _)
        (fun d₃ hd₃ => hlive₂.install hstaged hclear₂ hd₃) fun u d₃ hu hd₃ => ?_
      refine hu.observe_or_bind (fun e v hv _ => hv.raises e) fun _ u hu _ => ?_
      refine hu.observe_or_bind (fun e v hv _ => hv.raises e) fun _ u hu _ => ?_
      exact hu.emit fun u hu => hu.leaves (hlive₂.install hstaged hclear₂ hd₃)

end AtlasOS.Restore
