import AtlasOS.Restore.Places

/-!
# Rolling a transaction back

From whatever a crash has left before the commit, a rollback puts every old
file and directory back and then removes its evidence. Every disk on the way
can be rolled back again.
-/

namespace AtlasOS.Restore

open Crash (World Process Run)

variable {Bytes : Type} {machine : Machine Bytes} {host : Host Bytes}
  {journal : RestoreJournal machine.py} {origin d₀ d d' d'' : Disk Bytes}
  {S : Disk Bytes → Prop} {E : Error → World Call (Disk Bytes) → Prop}
  {w : World Call (Disk Bytes)} {operation : RestoreOperation}

/-! ## Checks that pass -/

theorem isSymlink_eq_false {path : Parts} (h : ∀ target, d.node path ≠ some (.symlink target)) :
    d.isSymlink path = false := by
  unfold Disk.isSymlink
  split
  · next target hnode => exact (h target hnode).elim
  · rfl

theorem safeDescendant_ok {root : Parts} {path : TransactionPath} (hroot : d.isSymlink root = false)
    (hparent : ∀ parent ∈ path.directory,
      d.isSymlink (root ++ ManagedDirectory.parts parent) = false) :
    safeDescendant root path.parts d = .ok () := by
  unfold safeDescendant
  rw [TransactionPath.dropLast_parts, hroot]
  cases hdirectory : path.directory with
  | none => simp
  | some parent =>
    have := hparent parent hdirectory
    simpa [ManagedDirectory.parts] using this

namespace Evidence

/-- No path of the target leads through a link. -/
theorem safeTargetPath_ok (h : Evidence journal origin d) (path : TransactionPath) :
    safeTargetPath path.parts d = .ok () := by
  refine safeDescendant_ok (isSymlink_eq_false fun target hnode => ?_) fun parent _ =>
    isSymlink_eq_false fun target hnode => ?_
  · obtain ⟨metadata, hroot⟩ := d.node_root
    rw [hroot] at hnode
    cases hnode
  · have hlook : journal.look d (.directory parent) = some (.symlink target) := hnode
    rcases h.directories parent with ⟨metadata, hdirectory⟩ | ⟨-, hnone⟩
    · rw [hlook] at hdirectory
      cases hdirectory
    · rw [hlook] at hnone
      cases hnone

/-- No path of an area leads through a link. -/
theorem safeArea_ok (h : Evidence journal origin d) (area : Area) (path : TransactionPath) :
    safeDescendant (areaPath journal.transaction_id area) path.parts d = .ok () := by
  refine safeDescendant_ok (isSymlink_eq_false fun target hnode => ?_) fun parent _ =>
    isSymlink_eq_false fun target hnode => ?_
  · have hlook : journal.look d (.area area) = some (.symlink target) := hnode
    cases h.confined.fits rfl hlook
  · have hlook : journal.look d (.areaDirectory area parent) = some (.symlink target) := hnode
    obtain ⟨metadata, hfits⟩ := h.confined.fits rfl hlook
    cases hfits

end Evidence

theorem assertRegularFile_ok {path : Parts} {label : String} {content : Bytes}
    {metadata : Metadata} (h : d.node path = some (.file content metadata 1)) :
    assertRegularFile path label d = .ok (content, metadata) := by
  simp [assertRegularFile, h]

/-- A file whose state was recorded is verified against it. -/
theorem verifyFileState_ok {storage : Storage Bytes} {path : Parts} {state : FileState}
    {label : String} (h : Records storage (d.node path) state) :
    verifyFileState storage path state label d = .ok () := by
  rcases h with ⟨hnode, rfl⟩ | ⟨content, metadata, hnode, rfl⟩
  · simp [verifyFileState, hnode]
  · simp [verifyFileState, assertRegularFile_ok hnode]

theorem existsAt_of_file {path : Parts} {content : Bytes} {metadata : Metadata} {nlink : ℕ}
    (h : d.node path = some (.file content metadata nlink)) : d.existsAt path = true := by
  simp [Disk.existsAt, h]

/-! ## One operation -/

/-- Only the places of one file and the directories may have changed. -/
def Local (journal : RestoreJournal machine.py) (path : TransactionPath) (d d' : Disk Bytes) :
    Prop :=
  ∀ place, place ≠ .final path → place ≠ .areaFile .rollback path →
    (∀ parent, place ≠ .directory parent) → journal.look d' place = journal.look d place

theorem Local.refl (path : TransactionPath) (d : Disk Bytes) : Local journal path d d :=
  fun _ _ _ _ => rfl

theorem Local.trans {path : TransactionPath} (h : Local journal path d d')
    (h' : Local journal path d' d'') : Local journal path d d'' := by
  intro place hfinal hrollback hdirectory
  rw [h' place hfinal hrollback hdirectory, h place hfinal hrollback hdirectory]

theorem Local.of_final {path : TransactionPath} {node : Option (Node Bytes)}
    (h : d.Sets ((Place.final path).path journal.transaction_id) node d') :
    Local journal path d d' := by
  intro place hfinal _ _
  rw [look_sets h, if_neg hfinal]

theorem Local.of_directory {path : TransactionPath} {parent : ManagedDirectory}
    {node : Option (Node Bytes)}
    (h : d.Sets ((Place.directory parent).path journal.transaction_id) node d') :
    Local journal path d d' := by
  intro place _ _ hdirectory
  rw [look_sets h, if_neg (hdirectory parent)]

/-- The namespace is as it was, but for the files of the rollback area. -/
def Undisturbed (journal : RestoreJournal machine.py) (d d' : Disk Bytes) : Prop :=
  ∀ place : Place, place.isInside = true → (∀ path, place ≠ .areaFile .rollback path) →
    journal.look d' place = journal.look d place

theorem Undisturbed.refl (d : Disk Bytes) : Undisturbed journal d d := fun _ _ _ => rfl

theorem Undisturbed.trans (h : Undisturbed journal d d') (h' : Undisturbed journal d' d'') :
    Undisturbed journal d d'' := by
  intro place hinside hrollback
  rw [h' place hinside hrollback, h place hinside hrollback]

/-- A change outside of the namespace does not disturb it. -/
theorem Undisturbed.of_sets {place : Place} {node : Option (Node Bytes)}
    (hsets : d.Sets (place.path journal.transaction_id) node d') (hplace : place.isInside = false) :
    Undisturbed journal d d' := by
  intro other hinside _
  rw [look_sets hsets, if_neg]
  rintro rfl
  rw [hplace] at hinside
  cases hinside

theorem Local.undisturbed {path : TransactionPath} (h : Local journal path d d') :
    Undisturbed journal d d' := by
  intro place hinside hrollback
  refine h place ?_ (hrollback path) fun parent => ?_
  · rintro rfl
    cases hinside
  · rintro rfl
    cases hinside

/-- A disk that a rollback passes through, with the namespace it started from. -/
structure Rolling (journal : RestoreJournal machine.py) (origin d₀ d : Disk Bytes) : Prop where
  evidence : Evidence journal origin d
  undisturbed : Undisturbed journal d₀ d

theorem Rolling.step (h : Rolling journal origin d₀ d) (hevidence : Evidence journal origin d')
    (hundisturbed : Undisturbed journal d d') : Rolling journal origin d₀ d' :=
  ⟨hevidence, h.undisturbed.trans hundisturbed⟩

/-- The old file is at its place again, or there was none. -/
def Settled (journal : RestoreJournal machine.py) (origin d : Disk Bytes)
    (path : TransactionPath) : Prop :=
  journal.look d (.areaFile .rollback path) = none ∧
    journal.look d (.final path) = origin.node path.parts

theorem Local.settled {path other : TransactionPath} (h : Local journal path d d')
    (hne : other ≠ path) (hsettled : Settled journal origin d other) :
    Settled journal origin d' other := by
  refine ⟨?_, ?_⟩
  · rw [h _ (by simp) (by simpa using hne) (by simp)]
    exact hsettled.1
  · rw [h _ (by simpa using hne) (by simp) (by simp)]
    exact hsettled.2

/-- What the rollback of one operation brings about. -/
def RolledBack (journal : RestoreJournal machine.py) (origin d₀ d : Disk Bytes)
    (path : TransactionPath) (d' : Disk Bytes) : Prop :=
  Rolling journal origin d₀ d' ∧ Local journal path d d' ∧ Settled journal origin d' path

/-- Unlinking what replaced an old file. -/
theorem run_clear {path : TransactionPath} {label : String}
    (hS : ∀ d', Rolling journal origin d₀ d' → S d') (h : At host S E w d)
    (hroll : Rolling journal origin d₀ d)
    (hold : journal.look d (.areaFile .rollback path) = origin.node path.parts)
    {n : Node Bytes} (hpresent : journal.look d (.final path) = some n) (hplain : IsPlainFile n) :
    Run S (unlinkRegular host path.parts label) w
      (Leaves host S E fun d' => Rolling journal origin d₀ d' ∧
        d.Sets ((Place.final path).path journal.transaction_id) none d') E := by
  obtain ⟨content, metadata, rfl⟩ := hplain
  have hnode : d.node path.parts = some (.file content metadata 1) := hpresent
  refine h.observe_bind (assertRegularFile_ok hnode) fun v hv => ?_
  have hfile : d.isDirectory path.parts = false := by
    simp [Disk.isDirectory, hnode, Node.isDirectory]
  obtain ⟨d', hd'⟩ := Disk.unlink_of hfile (by simp [hnode])
  have hsets : d.Sets ((Place.final path).path journal.transaction_id) none d' :=
    Disk.sets_of_unlink hd'
  have hroll' := hroll.step (hroll.evidence.set_final hsets (.inr ⟨hold, .none⟩))
    (.of_sets hsets rfl)
  exact hv.change hd' (hS _ hroll') fun hv => hv.leaves ⟨hroll', hsets⟩

/-- Moving an old file back to its place, whose directory is there. -/
theorem run_moveBack {path : TransactionPath} {content : Bytes} {metadata : Metadata}
    (hS : ∀ d', Rolling journal origin d₀ d' → S d') (h : At host S E w d)
    (hroll : Rolling journal origin d₀ d)
    (hold : journal.look d (.areaFile .rollback path) = some (.file content metadata 1))
    (horigin : origin.node path.parts = some (.file content metadata 1))
    (hclear : journal.look d (.final path) = none)
    (hparent : d.isDirectory path.parts.dropLast = true) :
    Run S (do
        change host (.replace (areaPath journal.transaction_id .rollback ++ path.parts) path.parts)
          (·.replace (areaPath journal.transaction_id .rollback ++ path.parts) path.parts)
        chmod host path.parts metadata.mode
        chown host path.parts metadata.uid metadata.gid
        fsyncFile host path.parts
        fsyncDirectory host path.parts.dropLast) w
      (Leaves host S E (RolledBack journal origin d₀ d path)) E := by
  have hne : Place.areaFile .rollback path ≠ .final path := by simp
  have hsource : d.node (areaPath journal.transaction_id .rollback ++ path.parts) =
      some (.file content metadata 1) := hold
  have htarget : d.node path.parts = none := hclear
  have hpaths : areaPath journal.transaction_id .rollback ++ path.parts ≠ path.parts :=
    fun heq => hne (Place.path_injective journal.checks.1 heq)
  obtain ⟨d₁, hd₁⟩ := Disk.replace_of hpaths
    (by simp [Disk.isDirectory, hsource, Node.isDirectory]) (by simp [hsource]) hparent
    (by simp [Disk.isDirectory, htarget])
  have hlook₁ (other : Place) : journal.look d₁ other = _ := look_replace hne hd₁ other
  have hlocal₁ : Local journal path d d₁ := by
    intro place hfinal hrollback _
    rw [hlook₁, if_neg hfinal, if_neg hrollback]
  have hsettled₁ : Settled journal origin d₁ path := by
    refine ⟨?_, ?_⟩
    · rw [hlook₁, if_neg hne, if_pos rfl]
    · rw [hlook₁, if_pos rfl, hold, horigin]
  have hevidence₁ : Evidence journal origin d₁ := by
    refine hroll.evidence.of_replace hne hd₁ (fun hinside => by cases hinside) (fun other => ?_)
      fun parent => ⟨by simp, by simp⟩
    by_cases heq : other = path
    · subst heq
      exact .inl hsettled₁
    · rw [hlocal₁ _ (by simp) (by simpa using heq) (by simp),
        hlocal₁ _ (by simpa using heq) (by simp) (by simp)]
      exact hroll.evidence.files other
  have hroll₁ := hroll.step hevidence₁ hlocal₁.undisturbed
  -- The file has its old metadata already, so that setting them changes nothing.
  have hsame {d₁ d₂ : Disk Bytes} {node : Node Bytes} (hroll₁ : Rolling journal origin d₀ d₁)
      (hsettled₁ : Settled journal origin d₁ path) (hnode : node = .file content metadata 1)
      (hsets : d₁.Sets path.parts (some node) d₂) :
      Rolling journal origin d₀ d₂ ∧ Local journal path d₁ d₂ ∧ Settled journal origin d₂ path := by
    have hsets' : d₁.Sets ((Place.final path).path journal.transaction_id) (some node) d₂ := hsets
    have hlocal : Local journal path d₁ d₂ := .of_final hsets'
    have hcurrent : some node = origin.node path.parts := by rw [hnode, horigin]
    refine ⟨hroll₁.step (hroll₁.evidence.set_final hsets' (.inl ⟨hsettled₁.1, hcurrent⟩))
      hlocal.undisturbed, hlocal, ?_, ?_⟩
    · rw [look_sets hsets', if_neg (by simp), hsettled₁.1]
    · rw [look_sets hsets', if_pos rfl, hcurrent]
  have hnode₁ : d₁.node path.parts = some (.file content metadata 1) :=
    hsettled₁.2.trans horigin
  refine h.change_bind hd₁ (hS _ hroll₁) fun v hv => ?_
  refine hv.setMetadata_bind hnode₁ (by simp) (fun d₂ hsets => hS _ (hsame hroll₁ hsettled₁ rfl
    hsets).1) fun v d₂ hv hsets₂ => ?_
  obtain ⟨hroll₂, hlocal₂, hsettled₂⟩ := hsame hroll₁ hsettled₁ rfl hsets₂
  refine hv.setMetadata_bind (hsettled₂.2.trans horigin) (by simp) (fun d₃ hsets => hS _
    (hsame hroll₂ hsettled₂ rfl hsets).1) fun v d₃ hv hsets₃ => ?_
  obtain ⟨hroll₃, hlocal₃, hsettled₃⟩ := hsame hroll₂ hsettled₂ rfl hsets₃
  have hnode₃ : d₃.node path.parts = some (.file content metadata 1) :=
    hsettled₃.2.trans horigin
  have hexists : demand (d₃.existsAt path.parts) osError = .ok () := by
    rw [existsAt_of_file hnode₃, demand_true]
  have hpresent₃ : d₃.node path.parts ≠ none := by simp [hnode₃]
  have hparent₃ : d₃.isDirectory path.parts.dropLast = true :=
    (Disk.parent_of_node hpresent₃).resolve_left (by simp [TransactionPath.parts])
  refine hv.observe_bind hexists fun v hv => ?_
  exact hv.observe (fsyncDirectory_ok hparent₃) fun v hv =>
    hv.leaves ⟨hroll₃, (hlocal₁.trans hlocal₂).trans hlocal₃, hsettled₃⟩

/-- The directory of a managed file is there, with whatever metadata. -/
theorem run_ensureParents {path : TransactionPath} {uid gid : ℕ}
    (hS : ∀ d', Rolling journal origin d₀ d' → S d') (h : At host S E w d)
    (hroll : Rolling journal origin d₀ d) :
    Run S (ensureTargetParents host machine.target uid gid [] path.parts.dropLast) w
      (Leaves host S E fun d' => Rolling journal origin d₀ d' ∧ Local journal path d d' ∧
        d'.isDirectory path.parts.dropLast = true ∧
        ∀ place, (∀ parent, place ≠ .directory parent) →
          journal.look d' place = journal.look d place) E := by
  have hsafe (parent : ManagedDirectory) (metadata : Metadata) (d' : Disk Bytes)
      (hsets : d.Sets parent.parts (some (.directory metadata)) d') :
      Rolling journal origin d₀ d' := by
    have hsets' : d.Sets ((Place.directory parent).path journal.transaction_id)
        (some (.directory metadata)) d' := hsets
    exact hroll.step (hroll.evidence.set_directory hsets') (.of_sets hsets' rfl)
  refine (run_ensureTargetParents path h (fun parent _ => ?_) fun parent _ metadata d' hsets =>
    hS _ (hsafe parent metadata d' hsets)).mono (fun _ h => h) (fun _ v _ hleaves => ?_)
      fun _ _ _ h => h
  · rcases hroll.evidence.directories parent with hdirectory | ⟨-, hnone⟩
    · exact .inr hdirectory
    · exact .inl hnone
  obtain ⟨d', hd', hpost⟩ := hleaves
  refine hd'.leaves ?_
  rw [TransactionPath.dropLast_parts]
  cases hdirectory : path.directory with
  | none =>
    rw [hdirectory] at hpost
    subst hpost
    exact ⟨hroll, .refl _ _, Disk.isDirectory_iff.mpr d'.node_root, fun _ _ => rfl⟩
  | some parent =>
    rw [hdirectory] at hpost
    have hsets : d.Sets ((Place.directory parent).path journal.transaction_id)
        (some (privateDirectory uid gid)) d' := hpost
    refine ⟨hsafe parent _ d' hpost, .of_directory hsets, ?_, fun place hplace => ?_⟩
    · exact Disk.isDirectory_of_node hsets.self
    · rw [look_sets hsets, if_neg (hplace parent)]

/-- The rollback of one operation puts its old file back. -/
theorem run_rollbackOperation (hcaptured : Captured journal origin)
    (hmem : operation ∈ journal.operations) (hS : ∀ d', Rolling journal origin d₀ d' → S d')
    (h : At host S E w d) (hroll : Rolling journal origin d₀ d) :
    Run S (rollbackOperation machine host (areaPath journal.transaction_id .rollback) operation) w
      (Leaves host S E (RolledBack journal origin d₀ d operation.path)) E := by
  have hevidence := hroll.evidence
  have hchecks : (do
      safeTargetPath operation.path.parts d
      safeDescendant (areaPath journal.transaction_id .rollback) operation.path.parts d) =
        .ok () := by
    rw [hevidence.safeTargetPath_ok, ok_bind, hevidence.safeArea_ok]
  have hrecords := hcaptured.files operation hmem
  have hfile := hevidence.files operation.path
  unfold rollbackOperation
  refine h.observe_bind hchecks fun v hv => ?_
  rcases hrecords with ⟨hnone, horiginal⟩ | ⟨content, metadata, hsome, horiginal⟩
  · -- There was no such file: whatever is there is removed.
    rw [hnone] at hfile
    have hold : journal.look d (.areaFile .rollback operation.path) =
        origin.node operation.path.parts := by
      rw [hnone]
      rcases hfile with h | h
      · exact h.1
      · exact h.1
    have hreplaceable : Replaceable (journal.look d (.final operation.path)) := by
      rcases hfile with h | h
      · rw [h.2]
        exact .none
      · exact h.2
    rw [horiginal]
    cases hcurrent : journal.look d (.final operation.path) with
    | none =>
      have hnode : d.node operation.path.parts = none := hcurrent
      refine hv.observe_bind (b := false) (by simp [hnode]) fun v hv => ?_
      exact hv.skip ⟨hroll, .refl _ _, hold.trans hnone, hcurrent.trans hnone.symm⟩
    | some n =>
      have hnode : d.node operation.path.parts = some n := hcurrent
      refine hv.observe_bind (b := true) (by simp [hnode]) fun v hv => ?_
      refine run_bind (run_clear hS hv hroll hold hcurrent (hreplaceable n hcurrent))
        fun v d' hv hpost => ?_
      obtain ⟨hroll', hsets⟩ := hpost
      have hnotroot : operation.path.parts ≠ [] := by simp [TransactionPath.parts]
      have hparent : d'.isDirectory operation.path.parts.dropLast = true := by
        have hother : d'.isDirectory operation.path.parts.dropLast =
            d.isDirectory operation.path.parts.dropLast :=
          hsets.isDirectory_other (dropLast_ne_self hnotroot)
        rw [hother]
        exact (Disk.parent_of_node (by simp [hnode])).resolve_left hnotroot
      refine hv.observe (fsyncDirectory_ok hparent) fun v hv =>
        hv.leaves ⟨hroll', .of_final hsets, ?_, ?_⟩
      · rw [look_sets hsets, if_neg (by simp), hold, hnone]
      · rw [look_sets hsets, if_pos rfl, hnone]
  · rw [horiginal]
    rcases hfile with ⟨hquarantined, hcurrent⟩ | ⟨hquarantined, hcurrent⟩
    · -- The old file is still in its place.
      have hnode : d.node (areaPath journal.transaction_id .rollback ++
          operation.path.parts) = none := hquarantined
      refine hv.observe_bind (b := false) (by simp [hnode]) fun v hv => ?_
      have hrecorded : Records machine.storage (d.node operation.path.parts)
          (some ⟨machine.storage.sha256 content, machine.storage.size content, metadata,
            machine.storage.sha256_isHexDigest content⟩) :=
        .inr ⟨content, metadata, hcurrent.trans hsome, rfl⟩
      exact hv.observe (verifyFileState_ok hrecorded) fun v hv =>
        hv.leaves ⟨hroll, .refl _ _, hquarantined, hcurrent⟩
    · -- The old file is in the rollback area.
      have hold := hquarantined.trans hsome
      have hnode : d.node (areaPath journal.transaction_id .rollback ++
          operation.path.parts) = some (.file content metadata 1) := hold
      refine hv.observe_bind (b := true) (by simp [hnode]) fun v hv => ?_
      refine hv.observe_bind (assertRegularFile_ok hnode) fun v hv => ?_
      have hfinish {v : World Call (Disk Bytes)} {d₁ : Disk Bytes} (hv : At host S E v d₁)
          (hroll₁ : Rolling journal origin d₀ d₁) (hlocal₁ : Local journal operation.path d d₁)
          (hold₁ : journal.look d₁ (.areaFile .rollback operation.path) =
            some (.file content metadata 1))
          (hclear₁ : journal.look d₁ (.final operation.path) = none) :
          Run S (do
              ensureTargetParents host machine.target metadata.uid metadata.gid []
                operation.path.parts.dropLast
              change host
                (.replace (areaPath journal.transaction_id .rollback ++ operation.path.parts)
                  operation.path.parts)
                (·.replace (areaPath journal.transaction_id .rollback ++ operation.path.parts)
                  operation.path.parts)
              chmod host operation.path.parts metadata.mode
              chown host operation.path.parts metadata.uid metadata.gid
              fsyncFile host operation.path.parts
              fsyncDirectory host operation.path.parts.dropLast) v
            (Leaves host S E (RolledBack journal origin d₀ d operation.path)) E := by
        refine run_bind (run_ensureParents hS hv hroll₁)
          fun v d₂ hv hpost => ?_
        obtain ⟨hroll₂, hlocal₂, hparent, hsame⟩ := hpost
        have hmove := run_moveBack hS hv hroll₂ ((hsame _ (by simp)).trans hold₁) hsome
          ((hsame _ (by simp)).trans hclear₁) hparent
        refine hmove.mono (fun _ h => h) (fun _ v _ hleaves => ?_) fun _ _ _ h => h
        obtain ⟨d₃, hd₃, hroll₃, hlocal₃, hsettled⟩ := hleaves
        exact hd₃.leaves ⟨hroll₃, (hlocal₁.trans hlocal₂).trans hlocal₃, hsettled⟩
      cases hfinal : journal.look d (.final operation.path) with
      | none =>
        have hnone : d.node operation.path.parts = none := hfinal
        refine hv.observe_bind (b := false) (by simp [hnone]) fun v hv => ?_
        exact hfinish hv hroll (.refl _ _) hold hfinal
      | some n =>
        have hpresent : d.node operation.path.parts = some n := hfinal
        refine hv.observe_bind (b := true) (by simp [hpresent]) fun v hv => ?_
        refine run_bind (run_clear hS hv hroll hquarantined hfinal (hcurrent n hfinal))
          fun v d₁ hv hpost => ?_
        obtain ⟨hroll₁, hsets⟩ := hpost
        refine hfinish hv hroll₁ (.of_final hsets) ?_ ?_
        · rw [look_sets hsets, if_neg (by simp), hold]
        · rw [look_sets hsets, if_pos rfl]

/-! ## The directories -/

theorem safeDirectory_ok (parent : ManagedDirectory) : safeTargetPath parent.parts d = .ok () := by
  have hroot : d.isSymlink [] = false := by
    obtain ⟨metadata, hroot⟩ := d.node_root
    exact isSymlink_eq_false fun target hnode => by
      rw [hroot] at hnode
      cases hnode
  simp [safeTargetPath, safeDescendant, hroot, ManagedDirectory.parts]

/-- All old files are at their places. -/
def AllSettled (journal : RestoreJournal machine.py) (origin d : Disk Bytes) : Prop :=
  ∀ path, Settled journal origin d path

theorem AllSettled.of_directory {parent : ManagedDirectory} {node : Option (Node Bytes)}
    (h : AllSettled journal origin d)
    (hsets : d.Sets ((Place.directory parent).path journal.transaction_id) node d') :
    AllSettled journal origin d' := by
  intro path
  refine ⟨?_, ?_⟩
  · rw [look_sets hsets, if_neg (by simp)]
    exact (h path).1
  · rw [look_sets hsets, if_neg (by simp)]
    exact (h path).2

/-- A directory that was not there before holds nothing once the old files are back. -/
theorem new_directory_empty {parent : ManagedDirectory} (hevidence : Evidence journal origin d)
    (hsettled : AllSettled journal origin d) (horigin : origin.node parent.parts = none)
    (name : String) : d.node (parent.parts ++ [name]) = none := by
  have habsent : origin.node (parent.parts ++ [name]) = none :=
    Disk.node_child_eq_none (by simp [Disk.isDirectory, horigin])
  by_cases hmanaged : ∃ path : TransactionPath, parent.parts ++ [name] = path.parts
  · obtain ⟨path, hpath⟩ := hmanaged
    have hfinal : d.node path.parts = origin.node path.parts := (hsettled path).2
    rw [hpath] at habsent ⊢
    rw [hfinal, habsent]
  · have hunmanaged : Unmanaged (parent.parts ++ [name]) := by
      refine ⟨?_, fun path hpath => hmanaged ⟨path, hpath⟩, fun other hother => ?_⟩
      · rintro ⟨rest, hrest⟩
        refine parent.head_parts ?_
        simp [ManagedDirectory.parts, NAMESPACE] at hrest ⊢
        exact hrest.1.symm
      · have hlength := congrArg List.length hother
        simp [ManagedDirectory.parts] at hlength
    rw [hevidence.framed _ hunmanaged, habsent]

/-- One directory gets its old metadata, or is removed when it is new. -/
theorem run_restoreDirectory {state : DirectoryState} (hcaptured : Captured journal origin)
    (hmem : state ∈ journal.directories) (huniform : ∀ e e' v, E e v → E e' v)
    (hS : ∀ d', Rolling journal origin d₀ d' → S d') (h : At host S E w d)
    (hroll : Rolling journal origin d₀ d) (hsettled : AllSettled journal origin d) :
    Run S (restoreDirectory host state) w
      (Leaves host S E fun d' => Rolling journal origin d₀ d' ∧
        d.Sets ((Place.directory state.path).path journal.transaction_id)
          (origin.node state.path.parts) d') E := by
  have horigin := hcaptured.directories state hmem
  unfold restoreDirectory
  refine h.observe_bind (safeDirectory_ok state.path) fun v hv => ?_
  cases hmetadata : state.metadata with
  | some metadata =>
    rw [hmetadata] at horigin
    have hdirectory : ∃ old, d.node state.path.parts = some (.directory old) := by
      rcases hroll.evidence.directories state.path with hdirectory | ⟨hnone, -⟩
      · exact hdirectory
      · rw [horigin] at hnone
        cases hnone
    obtain ⟨old, hold⟩ := hdirectory
    have hstep {m : Metadata} {d₂ : Disk Bytes}
        (hsets : d.Sets ((Place.directory state.path).path journal.transaction_id)
          (some (.directory m)) d₂) : Rolling journal origin d₀ d₂ :=
      hroll.step (hroll.evidence.set_directory hsets) (.of_sets hsets rfl)
    have hat : d.directoryAt state.path.parts = some old := Disk.directoryAt_eq_some.mpr hold
    refine hv.observe_bind (b := ()) (by rw [hat]; rfl) fun v hv => ?_
    refine hv.setMetadata_bind hold (by simp) (fun d₂ hsets => hS _ (hstep hsets))
      fun v d₂ hv hsets₂ => ?_
    refine hv.setMetadata_bind hsets₂.self (by simp [Node.withMetadata])
      (fun d₃ hsets => hS _ (hstep (hsets₂.again hsets))) fun v d₃ hv hsets₃ => ?_
    have hsets : d.Sets ((Place.directory state.path).path journal.transaction_id)
        (some (.directory metadata)) d₃ := hsets₂.again hsets₃
    have hself : d₃.node state.path.parts = some (.directory metadata) := hsets.self
    have hat₃ : d₃.directoryAt state.path.parts = some metadata :=
      Disk.directoryAt_eq_some.mpr hself
    refine hv.observe_bind (fsyncDirectory_ok (Disk.isDirectory_of_node hself)) fun v hv => ?_
    refine hv.observe_bind (fsyncDirectory_ok (Disk.isDirectory_iff.mpr d₃.node_root))
      fun v hv => ?_
    refine hv.observe (a := ()) (by rw [hat₃]; simp) fun v hv => hv.leaves ⟨hstep hsets, ?_⟩
    rw [horigin]
    exact hsets
  | none =>
    rw [hmetadata] at horigin
    rcases hroll.evidence.directories state.path with ⟨m, hdirectory⟩ | ⟨-, habsent⟩
    · have hnode : d.node state.path.parts = some (.directory m) := hdirectory
      refine hv.observe_bind (b := true) (by simp [Disk.existsAt, hnode]) fun v hv => ?_
      have hnotroot : state.path.parts ≠ [] := by simp [ManagedDirectory.parts]
      obtain ⟨d₂, hd₂⟩ := Disk.rmdir_of hnotroot (Disk.isDirectory_of_node hnode)
        (new_directory_empty hroll.evidence hsettled horigin)
      have hsets : d.Sets ((Place.directory state.path).path journal.transaction_id) none d₂ :=
        (Disk.sets_of_rmdir hd₂).1
      have hroll₂ := hroll.step (hroll.evidence.remove_directory hsets horigin)
        (.of_sets hsets rfl)
      have hremove : Run S (change host (.rmdir state.path.parts) (·.rmdir state.path.parts)) v
          (fun _ v => At host S E v d₂) E := hv.change hd₂ (hS _ hroll₂) fun hv => hv
      refine (hremove.handle (R := E) fun e v _ he => Run.raise (huniform _ _ _ he)).bind
        fun _ v _ hv => ?_
      refine hv.observe (fsyncDirectory_ok (Disk.isDirectory_iff.mpr d₂.node_root)) fun v hv =>
        hv.leaves ⟨hroll₂, ?_⟩
      rw [horigin]
      exact hsets
    · have hnode : d.node state.path.parts = none := habsent
      refine hv.observe_bind (b := false) (by simp [Disk.existsAt, hnode]) fun v hv => ?_
      refine hv.skip ⟨hroll, .same ?_⟩
      rw [horigin]
      exact hnode

/-- The directories get their old metadata, and those that are new are removed. -/
theorem run_restoreDirectoryAbsence (hcaptured : Captured journal origin)
    (huniform : ∀ e e' v, E e v → E e' v) (hS : ∀ d', Rolling journal origin d₀ d' → S d')
    (h : At host S E w d) (hroll : Rolling journal origin d₀ d)
    (hsettled : AllSettled journal origin d) :
    Run S (restoreDirectoryAbsence host journal.directories) w
      (Leaves host S E fun d' => Rolling journal origin d₀ d' ∧ AllSettled journal origin d' ∧
        ∀ parent : ManagedDirectory,
          journal.look d' (.directory parent) = origin.node parent.parts) E := by
  have hloop : Run S (restoreDirectoryAbsence host journal.directories) w _ E := run_forM
    (fun before d' => Rolling journal origin d₀ d' ∧ AllSettled journal origin d' ∧
      ∀ state ∈ before, journal.look d' (.directory state.path) = origin.node state.path.parts)
    h ⟨hroll, hsettled, by simp⟩ fun before state after v d₁ heq hv hbefore => by
      obtain ⟨hroll₁, hsettled₁, hstates⟩ := hbefore
      have hmem : state ∈ journal.directories := by
        rw [← List.mem_reverse, heq]
        simp
      refine (run_restoreDirectory hcaptured hmem huniform hS hv hroll₁ hsettled₁).mono
        (fun _ h => h) (fun _ v _ hleaves => ?_) fun _ _ _ h => h
      obtain ⟨d₂, hd₂, hroll₂, hsets⟩ := hleaves
      refine hd₂.leaves ⟨hroll₂, hsettled₁.of_directory hsets, fun other hother => ?_⟩
      rw [look_sets hsets]
      by_cases hsame : other.path = state.path
      · rw [if_pos (by rw [hsame]), hsame]
      · rw [if_neg (by simpa using hsame)]
        rcases List.mem_append.mp hother with hother | hother
        · exact hstates other hother
        · cases List.mem_singleton.mp hother
          exact (hsame rfl).elim
  refine hloop.mono (fun _ h => h) (fun _ v _ hleaves => ?_) fun _ _ _ h => h
  obtain ⟨d', hd', hroll', hsettled', hstates⟩ := hleaves
  refine hd'.leaves ⟨hroll', hsettled', fun parent => ?_⟩
  have hmem : parent ∈ journal.directories.map (·.path) := by
    rw [journal.checks.2.2.2.2.2.1]
    cases parent <;> simp
  obtain ⟨state, hstate, rfl⟩ := List.mem_map.mp hmem
  exact hstates state (List.mem_reverse.mpr hstate)

end AtlasOS.Restore
