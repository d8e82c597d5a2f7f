import AtlasOS.Restore.Transaction

/-!
# Rules for scripts

The rules of processes, stated for the calls of the engine: the state is named,
every call may fail as the host decides, and a failure is excused by what the
proof says about errors.
-/

namespace AtlasOS.Restore

open Crash (World Process Run)

variable {Bytes α β : Type} {host : Host Bytes} {S : Disk Bytes → Prop}
  {E : Error → World Call (Disk Bytes) → Prop} {w v : World Call (Disk Bytes)}
  {d d' : Disk Bytes} {Q : α → World Call (Disk Bytes) → Prop}

/-- Whatever the host lets fail from here on, in a state of `S`, is an error that `E` allows. -/
structure Excuses (host : Host Bytes) (S : Disk Bytes → Prop)
    (E : Error → World Call (Disk Bytes) → Prop) (w : World Call (Disk Bytes)) : Prop where
  /-- The calls of the file system. -/
  calls : ∀ u call, w.Extends u → S u.state → host.fails u call = true →
    E osError (u.record ⟨call, true, u.state⟩)
  /-- The failure hook. -/
  hooks : ∀ u event index e, w.Extends u → S u.state → host.hook u event index = some e →
    E e (u.record ⟨.hook event index, true, u.state⟩)

theorem Excuses.extend (h : Excuses host S E w) (hv : w.Extends v) : Excuses host S E v where
  calls u call hu := h.calls u call (hv.trans hu)
  hooks u event index e hu := h.hooks u event index e (hv.trans hu)

/-- A process has reached the disk `d`, in a state of `S`, with its failures excused. -/
structure At (host : Host Bytes) (S : Disk Bytes → Prop)
    (E : Error → World Call (Disk Bytes) → Prop) (w : World Call (Disk Bytes))
    (d : Disk Bytes) : Prop where
  /-- The disk is what the calls so far have left. -/
  state : w.state = d
  /-- The disk is one of `S`. -/
  safe : S d
  /-- What fails from here on is excused. -/
  excuses : Excuses host S E w

namespace At

theorem record (h : At host S E w d) (event : Crash.Event Call (Disk Bytes)) (hd : event.state = d')
    (hS : S d') : At host S E (w.record event) d' :=
  ⟨by rw [World.state_record, hd], hS, h.excuses.extend (w.extends_record event)⟩

/-- What follows an observation starts on the same disk. -/
theorem observe {f : Disk Bytes → Except Error α} {a : α} (h : At host S E w d) (hf : f d = .ok a)
    (hQ : ∀ v, At host S E v d → Q a v) : Run S (observe host f) w Q E := by
  have hd := h.state
  refine Run.perform (fun e he => ?_) (fun e _ he => ?_) fun a' s _ hs => ?_
  · unfold Host.fault at he
    split at he
    · next hfails =>
      cases he
      exact ⟨hd ▸ h.safe, h.excuses.calls w _ (.refl w) (hd ▸ h.safe) hfails⟩
    · cases he
  · rw [hd, hf] at he
    cases he
  · rw [hd, hf] at hs
    cases hs
    exact ⟨h.safe, hQ _ (h.record _ rfl h.safe)⟩

theorem observe_bind {f : Disk Bytes → Except Error β} {b : β} {next : β → Script Bytes α}
    (h : At host S E w d) (hf : f d = .ok b)
    (hnext : ∀ v, At host S E v d → Run S (next b) v Q E) :
    Run S (Restore.observe host f >>= next) w Q E :=
  (h.observe (Q := fun a v => a = b ∧ At host S E v d) hf fun _ hv => ⟨rfl, hv⟩).bind
    fun _ v _ hv => hv.1 ▸ hnext v hv.2

/-- An observation that may refuse. -/
theorem observe_or {f : Disk Bytes → Except Error α} (h : At host S E w d)
    (hE : ∀ e v, At host S E v d → f d = .error e → E e v)
    (hQ : ∀ a v, At host S E v d → f d = .ok a → Q a v) : Run S (Restore.observe host f) w Q E := by
  have hd := h.state
  refine Run.perform (fun e he => ?_) (fun e _ he => ?_) fun a s _ hs => ?_
  · unfold Host.fault at he
    split at he
    · next hfails =>
      cases he
      exact ⟨hd ▸ h.safe, h.excuses.calls w _ (.refl w) (hd ▸ h.safe) hfails⟩
    · cases he
  · rw [hd] at he ⊢
    cases hf : f d with
    | error e' =>
      rw [hf] at he
      cases he
      exact ⟨h.safe, hE _ _ (h.record _ rfl h.safe) hf⟩
    | ok a => rw [hf] at he; cases he
  · rw [hd] at hs
    cases hf : f d with
    | error e' => rw [hf] at hs; cases hs
    | ok a' =>
      rw [hf] at hs
      cases hs
      exact ⟨h.safe, hQ _ _ (h.record _ rfl h.safe) hf⟩

theorem observe_or_bind {f : Disk Bytes → Except Error β} {next : β → Script Bytes α}
    (h : At host S E w d) (hE : ∀ e v, At host S E v d → f d = .error e → E e v)
    (hnext : ∀ b v, At host S E v d → f d = .ok b → Run S (next b) v Q E) :
    Run S (Restore.observe host f >>= next) w Q E :=
  (h.observe_or (Q := fun b v => At host S E v d ∧ f d = .ok b) hE fun _ _ hv hf => ⟨hv, hf⟩).bind
    fun b v _ hv => hnext b v hv.1 hv.2

/-- What follows a change starts on the changed disk. -/
theorem change {call : Call} {f : Disk Bytes → Option (Disk Bytes)}
    {Q : Unit → World Call (Disk Bytes) → Prop} (h : At host S E w d) (hf : f d = some d')
    (hS : S d') (hQ : At host S E (w.record ⟨call, false, d'⟩) d' →
      Q () (w.record ⟨call, false, d'⟩)) :
    Run S (Restore.change host call f) w Q E := by
  have hd := h.state
  refine Run.perform (fun e he => ?_) (fun e _ he => ?_) fun a s _ hs => ?_
  · unfold Host.fault at he
    split at he
    · next hfails =>
      cases he
      exact ⟨hd ▸ h.safe, h.excuses.calls w _ (.refl w) (hd ▸ h.safe) hfails⟩
    · cases he
  · rw [hd, hf] at he
    cases he
  · rw [hd, hf] at hs
    cases hs
    exact ⟨hS, hQ (h.record _ rfl hS)⟩

theorem change_bind {call : Call} {f : Disk Bytes → Option (Disk Bytes)}
    {next : Unit → Script Bytes α} (h : At host S E w d) (hf : f d = some d') (hS : S d')
    (hnext : ∀ v, At host S E v d' → Run S (next ()) v Q E) :
    Run S (Restore.change host call f >>= next) w Q E :=
  (h.change (Q := fun _ v => At host S E v d') hf hS fun hv => hv).bind
    fun _ v _ hv => hnext v hv

/-- A change that may be refused. -/
theorem change_or {call : Call} {f : Disk Bytes → Option (Disk Bytes)}
    {Q : Unit → World Call (Disk Bytes) → Prop} (h : At host S E w d)
    (hE : ∀ v, At host S E v d → f d = none → E osError v) (hS : ∀ d', f d = some d' → S d')
    (hQ : ∀ v d', At host S E v d' → f d = some d' → Q () v) :
    Run S (Restore.change host call f) w Q E := by
  cases hf : f d with
  | some d' => exact h.change hf (hS d' hf) fun hv => hQ _ d' hv hf
  | none =>
    have hd := h.state
    refine Run.perform (fun e he => ?_) (fun e _ he => ?_) fun a s _ hs => ?_
    · unfold Host.fault at he
      split at he
      · next hfails =>
        cases he
        exact ⟨hd ▸ h.safe, h.excuses.calls w _ (.refl w) (hd ▸ h.safe) hfails⟩
      · cases he
    · rw [hd, hf] at he
      cases he
      rw [hd]
      exact ⟨h.safe, hE _ (h.record _ rfl h.safe) hf⟩
    · rw [hd, hf] at hs
      cases hs

theorem change_or_bind {call : Call} {f : Disk Bytes → Option (Disk Bytes)}
    {next : Unit → Script Bytes α} (h : At host S E w d)
    (hE : ∀ v, At host S E v d → f d = none → E osError v) (hS : ∀ d', f d = some d' → S d')
    (hnext : ∀ v d', At host S E v d' → f d = some d' → Run S (next ()) v Q E) :
    Run S (Restore.change host call f >>= next) w Q E :=
  (h.change_or (Q := fun _ v => ∃ d', At host S E v d' ∧ f d = some d') hE hS
    fun _ d' hv hf => ⟨d', hv, hf⟩).bind fun _ v _ ⟨d', hv, hf⟩ => hnext v d' hv hf

/-- The failure hook changes nothing. -/
theorem emit {event : String} {index : Option ℕ} {Q : Unit → World Call (Disk Bytes) → Prop}
    (h : At host S E w d) (hQ : ∀ v, At host S E v d → Q () v) :
    Run S (emit host event index) w Q E := by
  have hd := h.state
  refine Run.perform (fun e he => ?_) (fun e _ he => ?_) fun a s _ hs => ?_
  · exact ⟨hd ▸ h.safe, h.excuses.hooks w _ _ _ (.refl w) (hd ▸ h.safe) he⟩
  · cases he
  · cases hs
    rw [hd]
    exact ⟨h.safe, hQ _ (h.record _ rfl h.safe)⟩

theorem emit_bind {event : String} {index : Option ℕ} {next : Unit → Script Bytes α}
    (h : At host S E w d) (hnext : ∀ v, At host S E v d → Run S (next ()) v Q E) :
    Run S (Restore.emit host event index >>= next) w Q E :=
  (h.emit (Q := fun _ v => At host S E v d) fun _ hv => hv).bind fun _ v _ hv => hnext v hv

/-- A later world that the process reached in the same way. -/
theorem of_extends (h : At host S E w d) (hv : w.Extends v) (hd : v.state = d') (hS : S d') :
    At host S E v d' :=
  ⟨hd, hS, h.excuses.extend hv⟩

end At

/-- The disk that a script leaves, as the conclusion of its run. -/
def Leaves (host : Host Bytes) (S : Disk Bytes → Prop)
    (E : Error → World Call (Disk Bytes) → Prop) (post : Disk Bytes → Prop) :
    Unit → World Call (Disk Bytes) → Prop :=
  fun _ v => ∃ d, At host S E v d ∧ post d

/-- A script followed by another one. -/
theorem run_bind {m : Script Bytes Unit} {next : Unit → Script Bytes α}
    {post : Disk Bytes → Prop} (h : Run S m w (Leaves host S E post) E)
    (hnext : ∀ v d, At host S E v d → post d → Run S (next ()) v Q E) :
    Run S (m >>= next) w Q E :=
  h.bind fun _ v _ ⟨d, hd, hpost⟩ => hnext v d hd hpost

theorem At.leaves {post : Disk Bytes → Prop} (h : At host S E w d) (hpost : post d) :
    Leaves host S E post () w :=
  ⟨d, h, hpost⟩

/-- A script that does nothing. -/
theorem At.skip {post : Disk Bytes → Prop} (h : At host S E w d) (hpost : post d) :
    Run S (pure () : Script Bytes Unit) w (Leaves host S E post) E :=
  Run.done (h.leaves hpost)

/-- A loop: `P` says of the disk what holds after the items already visited. -/
theorem run_forM {items : List β} {body : β → Script Bytes Unit} (P : List β → Disk Bytes → Prop)
    (h : At host S E w d) (hstart : P [] d)
    (hstep : ∀ before b after v d', items = before ++ b :: after → At host S E v d' →
      P before d' → Run S (body b) v (Leaves host S E (P (before ++ [b]))) E) :
    Run S (items.forM body) w (Leaves host S E (P items)) E :=
  Run.forM (J := fun before v => ∃ d', At host S E v d' ∧ P before d') ⟨d, h, hstart⟩
    fun before b after v heq _ ⟨d', hd', hpost⟩ => hstep before b after v d' heq hd' hpost

/-! ## Directories -/

/-- A private directory of an owner. -/
def privateDirectory (uid gid : ℕ) : Node Bytes := .directory ⟨PRIVATE_DIRECTORY_MODE, uid, gid⟩

theorem dropLast_ne_self {path : Parts} (h : path ≠ []) : path.dropLast ≠ path := by
  intro heq
  have hlength := congrArg List.length heq
  rw [List.length_dropLast] at hlength
  have := List.length_pos_iff.mpr h
  omega

theorem fsyncDirectory_ok {path : Parts} (h : d.isDirectory path = true) :
    demand (d.isDir path) osError = .ok () := by
  rw [Disk.isDir_of_isDirectory h, demand_true]

theorem assertPrivateDirectory_ok (target : Target) {path : Parts} {uid gid : ℕ}
    {owner : Option (ℕ × ℕ)} (h : d.node path = some (privateDirectory uid gid))
    (howner : owner = none ∨ owner = some (uid, gid)) :
    assertPrivateDirectory target path owner d = .ok () := by
  have hat : d.directoryAt path = some ⟨PRIVATE_DIRECTORY_MODE, uid, gid⟩ :=
    Disk.directoryAt_eq_some.mpr h
  unfold assertPrivateDirectory
  rw [demand_eq_ok, hat]
  rcases howner with rfl | rfl
  · simp
  · simp

/-- The metadata of an entry is changed, and nothing else. -/
theorem At.setMetadata_bind {call : Call} {path : Parts} {node : Node Bytes}
    {f : Metadata → Metadata} {next : Unit → Script Bytes α} (h : At host S E w d)
    (hnode : d.node path = some node) (hkind : ∀ target, node ≠ .symlink target)
    (hS : ∀ d', d.Sets path (some (node.withMetadata f)) d' → S d')
    (hnext : ∀ v d', At host S E v d' → d.Sets path (some (node.withMetadata f)) d' →
      Run S (next ()) v Q E) :
    Run S (Restore.change host call (·.setMetadata path f) >>= next) w Q E := by
  obtain ⟨d', hd'⟩ := Disk.setMetadata_of hnode hkind f
  obtain ⟨node', hnode', hsets⟩ := Disk.sets_of_setMetadata hd'
  rw [hnode] at hnode'
  cases hnode'
  exact h.change_bind hd' (hS d' hsets) fun v hv => hnext v d' hv hsets

/-- A private directory is there afterwards, and nothing else has changed. -/
theorem run_createPrivateDirectory {target : Target} {path : Parts} {uid gid : ℕ}
    (h : At host S E w d) (hparent : d.isDirectory path.dropLast = true)
    (hnode : d.node path = none ∨ d.node path = some (privateDirectory uid gid))
    (hS : ∀ metadata d', d.Sets path (some (.directory metadata)) d' → S d') :
    Run S (createPrivateDirectory host target path uid gid) w
      (Leaves host S E (d.Sets path (some (privateDirectory uid gid)))) E := by
  unfold createPrivateDirectory
  rcases hnode with habsent | hpresent
  · have hroot : path ≠ [] := by
      rintro rfl
      obtain ⟨metadata, hroot⟩ := d.node_root
      rw [habsent] at hroot
      cases hroot
    refine h.observe_bind (b := false) (by simp [habsent]) fun v hv => ?_
    obtain ⟨d₁, hd₁⟩ := Disk.add_of_absent hparent habsent
      (.directory (host.fresh PRIVATE_DIRECTORY_MODE))
    have hsets₁ := (Disk.sets_of_add hd₁).2
    refine hv.change_bind hd₁ (hS _ _ hsets₁) fun v hv => ?_
    refine hv.setMetadata_bind hsets₁.self (by simp)
      (fun d₂ hsets₂ => hS _ _ (hsets₁.again hsets₂)) fun v d₂ hv hsets₂ => ?_
    refine hv.setMetadata_bind hsets₂.self (by simp [Node.withMetadata])
      (fun d₃ hsets₃ => hS _ _ ((hsets₁.again hsets₂).again hsets₃)) fun v d₃ hv hsets₃ => ?_
    have hsets := (hsets₁.again hsets₂).again hsets₃
    refine hv.observe (fsyncDirectory_ok ?_) fun v hv => hv.leaves hsets
    rwa [hsets.isDirectory_other (dropLast_ne_self hroot)]
  · have hprivate := assertPrivateDirectory_ok target hpresent (.inr rfl)
    refine h.observe_bind (b := true) (by simp [hpresent, hprivate]) fun v hv => ?_
    exact hv.skip (.same hpresent)

@[simp] theorem TransactionPath.dropLast_parts (path : TransactionPath) :
    path.parts.dropLast = path.directory.toList.map StrEnum.value := by
  rw [TransactionPath.parts, List.dropLast_concat]

/-- The directory of a path below a root is there afterwards, when the path has one. -/
theorem run_ensurePrivateParents {target : Target} {root : Parts} {uid gid : ℕ}
    (path : TransactionPath) (h : At host S E w d) (hroot : d.isDirectory root = true)
    (hnode : ∀ directory ∈ path.directory,
      d.node (root ++ ManagedDirectory.parts directory) = none ∨
        d.node (root ++ ManagedDirectory.parts directory) = some (privateDirectory uid gid))
    (hS : ∀ directory ∈ path.directory, ∀ metadata d',
      d.Sets (root ++ ManagedDirectory.parts directory) (some (.directory metadata)) d' → S d') :
    Run S (ensurePrivateParents host target uid gid root path.parts.dropLast) w
      (Leaves host S E fun d' =>
        match path.directory with
        | none => d' = d
        | some directory => d.Sets (root ++ ManagedDirectory.parts directory)
            (some (privateDirectory uid gid)) d') E := by
  rw [TransactionPath.dropLast_parts]
  cases hdirectory : path.directory with
  | none => exact h.skip rfl
  | some directory =>
    have hparent : d.isDirectory (root ++ directory.parts).dropLast = true := by
      rwa [ManagedDirectory.parts, List.dropLast_concat]
    exact run_bind (run_createPrivateDirectory h hparent (hnode directory hdirectory)
      (hS directory hdirectory)) fun v d' hv hsets => hv.skip hsets

/-- The directory of a target path is there afterwards, with the given owner. -/
theorem run_ensureTargetParents {target : Target} {uid gid : ℕ} (path : TransactionPath)
    (h : At host S E w d)
    (hnode : ∀ directory ∈ path.directory, d.node (ManagedDirectory.parts directory) = none ∨
      ∃ metadata, d.node (ManagedDirectory.parts directory) = some (.directory metadata))
    (hS : ∀ directory ∈ path.directory, ∀ metadata d',
      d.Sets (ManagedDirectory.parts directory) (some (.directory metadata)) d' → S d') :
    Run S (ensureTargetParents host target uid gid [] path.parts.dropLast) w
      (Leaves host S E fun d' =>
        match path.directory with
        | none => d' = d
        | some directory => d.Sets (ManagedDirectory.parts directory)
            (some (privateDirectory uid gid)) d') E := by
  rw [TransactionPath.dropLast_parts]
  cases hdirectory : path.directory with
  | none => exact h.skip rfl
  | some directory =>
    have hS := hS directory hdirectory
    have hroot : d.isDirectory [] = true := Disk.isDirectory_iff.mpr d.node_root
    -- Once the directory is there, its metadata are set in two calls.
    have hfinish {w : World Call (Disk Bytes)} {d₁ : Disk Bytes} {metadata : Metadata}
        (h : At host S E w d₁)
        (hsets₁ : d.Sets (ManagedDirectory.parts directory) (some (.directory metadata)) d₁) :
        Run S (do
            chmod host (ManagedDirectory.parts directory) PRIVATE_DIRECTORY_MODE
            chown host (ManagedDirectory.parts directory) uid gid
            fsyncDirectory host (ManagedDirectory.parts directory)
            fsyncDirectory host []
            pure () : Script Bytes Unit) w
          (Leaves host S E (d.Sets (ManagedDirectory.parts directory)
            (some (privateDirectory uid gid)))) E := by
      refine h.setMetadata_bind hsets₁.self (by simp)
        (fun d₂ hsets₂ => hS _ _ (hsets₁.again hsets₂)) fun v d₂ hv hsets₂ => ?_
      refine hv.setMetadata_bind hsets₂.self (by simp [Node.withMetadata])
        (fun d₃ hsets₃ => hS _ _ ((hsets₁.again hsets₂).again hsets₃)) fun v d₃ hv hsets₃ => ?_
      have hsets := (hsets₁.again hsets₂).again hsets₃
      refine hv.observe_bind (fsyncDirectory_ok (Disk.isDirectory_of_node hsets.self))
        fun v hv => ?_
      refine hv.observe_bind (fsyncDirectory_ok ?_) fun v hv => hv.skip hsets
      rwa [hsets.isDirectory_other (by simp [ManagedDirectory.parts])]
    rcases hnode directory hdirectory with habsent | ⟨metadata, hpresent⟩
    · refine h.observe_bind (b := false)
        (by simp [ManagedDirectory.parts] at habsent; simp [habsent]) fun v hv => ?_
      refine run_bind (run_createPrivateDirectory hv (by simpa using hroot) (.inl habsent) hS)
        fun v d₁ hv hsets₁ => hfinish hv hsets₁
    · have hat := Disk.directoryAt_eq_some.mpr hpresent
      refine h.observe_bind (b := true)
        (by simp [ManagedDirectory.parts] at hpresent hat; simp [hpresent, hat]) fun v hv => ?_
      exact hfinish hv (.same hpresent)

/-! ## Files and trees -/

/-- A file that is written goes through drafts of its content only. -/
theorem run_writeFile {storage : Storage Bytes} {path : Parts} {content old : Bytes}
    {metadata : Metadata} {nlink : ℕ} (h : At host S E w d)
    (hnode : d.node path = some (.file old metadata nlink))
    (hS : ∀ draft d', d.Sets path (some (.file draft metadata nlink)) d' → S d') :
    Run S (writeFile host storage path content) w
      (Leaves host S E (d.Sets path (some (.file content metadata nlink)))) E := by
  have hloop : Run S (writeFile host storage path content) w _ E := run_forM
    (fun before => d.Sets path (some (.file (before.getLast?.getD old) metadata nlink))) h
    (.same hnode) fun before draft after v d' _ hv hsets => by
      obtain ⟨d'', hd''⟩ := Disk.write_of_file hsets.self draft
      obtain ⟨_, _, _, hnode', hsets'⟩ := Disk.sets_of_write hd''
      rw [hsets.self] at hnode'
      cases hnode'
      refine hv.change hd'' (hS _ _ (hsets.again hsets')) fun hv => hv.leaves ?_
      rw [List.getLast?_concat]
      exact hsets.again hsets'
  rw [List.getLast?_concat] at hloop
  exact hloop

/-- What `_remove_tree` accepts: directories, with regular files below the top. -/
def Removable (d : Disk Bytes) (path : Parts) : Prop :=
  ∀ entry node, path <+: entry → d.node entry = some node →
    (∃ metadata, node = .directory metadata) ∨
      entry ≠ path ∧ ∃ content metadata nlink, node = .file content metadata nlink

/-- The removal of a child leads from what is gone already to a removable tree. -/
theorem Removable.child {path : Parts} {name : String} {metadata : Metadata}
    (h : Removable d path) (hnode : d.node (path ++ [name]) = some (.directory metadata))
    (hsame : ∀ entry, path ++ [name] <+: entry → d'.node entry = d.node entry) :
    Removable d' (path ++ [name]) := by
  intro entry node hbelow₀ hentry
  rw [hsame entry hbelow₀] at hentry
  rcases h entry node ((List.prefix_append _ _).trans hbelow₀) hentry with hdirectory | ⟨-, hfile⟩
  · exact .inl hdirectory
  · refine .inr ⟨?_, hfile⟩
    rintro rfl
    rw [hnode] at hentry
    obtain ⟨_, _, _, rfl⟩ := hfile
    cases hentry

/-- A tree of directories and regular files is removed, and nothing else. -/
theorem run_removeTree {depth : ℕ} {path : Parts} (h : At host S E w d) (hroot : path ≠ [])
    (hkind : Removable d path)
    (hdepth : ∀ entry, path <+: entry → d.node entry ≠ none → entry.length < path.length + depth)
    (hpositive : 0 < depth) (hS : ∀ d', d.Pruned path d' → S d') :
    Run S (removeTree host depth path) w (Leaves host S E (d.Removed path)) E := by
  induction depth generalizing path w d with
  | zero => omega
  | succ depth ih =>
    unfold removeTree
    cases hnode : d.node path with
    | none =>
      refine h.observe_bind (b := none) (by simp [listTree, hnode]) fun v hv => hv.skip ?_
      exact .of_absent hnode
    | some node =>
      obtain ⟨metadata, rfl⟩ : ∃ metadata, node = .directory metadata := by
        rcases hkind path node List.prefix_rfl hnode with hdirectory | hfile
        · exact hdirectory
        · exact (hfile.1 rfl).elim
      let names := host.scandir (d.children path)
      have hperm : names.Perm (d.children path) := host.scandir_perm _
      have hnodup : names.Nodup := hperm.nodup_iff.mpr (d.nodup_children path)
      refine h.observe_bind (b := some names) (by simp [listTree, hnode, names]) fun v hv => ?_
      -- After some of the names, exactly what is below these is gone.
      have hstep (before : List String) (name : String) (after : List String)
          (v : World Call (Disk Bytes)) (d' : Disk Bytes) (heq : names = before ++ name :: after)
          (hv : At host S E v d') (hpost : d.RemovedBelow path before d') :
          Run S (do
              let directory ← observe host (classifyEntry (path ++ [name]))
              if directory then removeTree host depth (path ++ [name])
              else change host (.unlink (path ++ [name])) (·.unlink (path ++ [name]))) v
            (Leaves host S E (d.RemovedBelow path (before ++ [name]))) E := by
        have hmem : name ∈ names := by rw [heq]; simp
        have hnew : name ∉ before := by
          rw [heq] at hnodup
          exact fun hin => List.disjoint_of_nodup_append hnodup hin (by simp)
        have hchild : d.node (path ++ [name]) ≠ none :=
          Disk.mem_children.mp (hperm.mem_iff.mp hmem)
        have hbelow (entry : Parts) (hbelow₀ : path ++ [name] <+: entry) :
            d'.node entry = d.node entry := hpost.other hnew hbelow₀
        have hself : d'.node (path ++ [name]) = d.node (path ++ [name]) :=
          hbelow _ List.prefix_rfl
        obtain ⟨node, hchildnode⟩ := Option.ne_none_iff_exists'.mp hchild
        rcases hkind _ node (List.prefix_append _ _) hchildnode with
          ⟨metadata', rfl⟩ | ⟨-, content, metadata', nlink, rfl⟩
        · refine hv.observe_bind (b := true)
            (by simp [classifyEntry, hself, hchildnode]) fun v hv => ?_
          have hdepth' (entry : Parts) (hbelow₀ : path ++ [name] <+: entry)
              (hne : d'.node entry ≠ none) :
              entry.length < (path ++ [name]).length + depth := by
            rw [hbelow entry hbelow₀] at hne
            have := hdepth entry ((List.prefix_append _ _).trans hbelow₀) hne
            simp only [List.length_append, List.length_singleton]
            omega
          have hpositive' : 0 < depth := by
            have := hdepth' (path ++ [name]) List.prefix_rfl (by rw [hself]; exact hchild)
            omega
          have hrun := ih hv (by simp) (hkind.child hchildnode hbelow) hdepth' hpositive'
            fun d'' hd'' => hS _ (hpost.pruned.trans hd'' (List.prefix_append _ _))
          refine hrun.mono (fun _ h => h) (fun _ v _ hleaves => ?_) fun _ _ _ h => h
          obtain ⟨d'', hd'', hremoved⟩ := hleaves
          exact hd''.leaves (hpost.step hremoved)
        · refine hv.observe_bind (b := false)
            (by simp [classifyEntry, hself, hchildnode]) fun v hv => ?_
          have hfile : d'.isDirectory (path ++ [name]) = false := by
            simp [Disk.isDirectory, hself, hchildnode, Node.isDirectory]
          obtain ⟨d'', hd''⟩ := Disk.unlink_of hfile (by rw [hself]; exact hchild)
          have hsets := Disk.sets_of_unlink hd''
          exact hv.change hd'' (hS _ (hpost.pruned.trans hsets.pruned (List.prefix_append _ _)))
            fun hv => hv.leaves (hpost.step (hsets.removed hfile))
      refine run_bind (run_forM (d.RemovedBelow path) hv .nil hstep) fun v d' hv hpost => ?_
      have hself : d'.node path = some (.directory metadata) := by rw [hpost.self, hnode]
      have hempty (name : String) : d'.node (path ++ [name]) = none :=
        hpost.child_eq_none fun name hname => hperm.mem_iff.mpr (Disk.mem_children.mpr hname)
      obtain ⟨d'', hd''⟩ := Disk.rmdir_of hroot (Disk.isDirectory_of_node hself) hempty
      have hremoved : d.Removed path d'' := hpost.finish (Disk.sets_of_rmdir hd'').1 hempty
      refine hv.change_bind hd'' (hS _ hremoved.pruned) fun v hv => ?_
      refine hv.observe (fsyncDirectory_ok ?_) fun v hv => hv.leaves hremoved
      have hpresent : d.node path ≠ none := by simp [hnode]
      rw [hremoved.isDirectory_dropLast hroot]
      exact (Disk.parent_of_node hpresent).resolve_left hroot

end AtlasOS.Restore
