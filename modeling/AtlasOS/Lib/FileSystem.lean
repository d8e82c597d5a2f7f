import Mathlib.Data.List.Basic
import Mathlib.Data.List.Induction
import Mathlib.Tactic.Common
import Std.Data.ExtTreeMap

/-!
# A tree of files

A disk maps the parts of a path, taken relative to one directory, to what is
found there. Every entry lies in a directory. The calls of the operating system
that change a tree are partial functions, and each is characterised by the
lookups that it changes.
-/

namespace AtlasOS

/-- The parts of a relative path, `PurePath.parts`. -/
abbrev Parts := List String

instance neZero_modes : @NeZero ℕ Zero.ofOfNat0 0o1000 := ⟨Nat.succ_ne_zero 511⟩

/-- The permission bits and the owner of an entry. -/
structure Metadata where
  /-- The permission bits, `st_mode & 0o777`. -/
  mode : Fin 0o1000
  /-- The owner. -/
  uid : ℕ
  /-- The group. -/
  gid : ℕ
  deriving DecidableEq

/-- What following a symbolic link leads to. -/
inductive LinkTarget where
  | file
  | directory
  | other
  deriving DecidableEq

/-- An entry of a directory, as `lstat` sees it. -/
inductive Node (Bytes : Type) where
  /-- A regular file with its number of hard links. -/
  | file (content : Bytes) (metadata : Metadata) (nlink : ℕ)
  /-- A directory. -/
  | directory (metadata : Metadata)
  /-- A symbolic link, dangling or to something outside of the tree. -/
  | symlink (target : Option LinkTarget)
  /-- A device, a pipe or a socket. -/
  | special (metadata : Metadata)
  deriving DecidableEq

variable {Bytes : Type}

namespace Node

/-- Whether the entry itself is a directory. -/
def isDirectory : Node Bytes → Bool
  | .directory _ => true
  | _ => false

theorem isDirectory_iff {node : Node Bytes} :
    node.isDirectory = true ↔ ∃ metadata, node = .directory metadata := by
  cases node <;> simp [isDirectory]

/-- The entry with other permission bits or another owner; a link has none of its own. -/
def withMetadata (f : Metadata → Metadata) : Node Bytes → Node Bytes
  | .file content metadata nlink => .file content (f metadata) nlink
  | .directory metadata => .directory (f metadata)
  | .symlink target => .symlink target
  | .special metadata => .special (f metadata)

@[simp] theorem isDirectory_withMetadata (f : Metadata → Metadata) (node : Node Bytes) :
    (node.withMetadata f).isDirectory = node.isDirectory := by
  cases node <;> rfl

end Node

/-- A tree of files: its entries, each of which lies in a directory. -/
structure Disk (Bytes : Type) where
  /-- The entries under their paths. -/
  entries : Std.ExtTreeMap Parts (Node Bytes) compare
  /-- The path of the tree itself is a directory. -/
  root : ∃ metadata, entries[([] : Parts)]? = some (.directory metadata)
  /-- An entry lies in a directory. -/
  closed : ∀ (path : Parts) (name : String), entries[path ++ [name]]? ≠ none →
    ∃ metadata, entries[path]? = some (.directory metadata)

namespace Disk

variable {d d' : Disk Bytes} {path : Parts} {name : String}

/-- The entry at a path, not following a link. -/
def node (d : Disk Bytes) (path : Parts) : Option (Node Bytes) := d.entries[path]?

theorem node_root (d : Disk Bytes) : ∃ metadata, d.node [] = some (.directory metadata) := d.root

theorem parent_directory (h : d.node (path ++ [name]) ≠ none) :
    ∃ metadata, d.node path = some (.directory metadata) :=
  d.closed path name h

/-- Whether there is a directory at the path. -/
def isDirectory (d : Disk Bytes) (path : Parts) : Bool := (d.node path).any Node.isDirectory

theorem isDirectory_iff :
    d.isDirectory path = true ↔ ∃ metadata, d.node path = some (.directory metadata) := by
  cases h : d.node path <;> simp [isDirectory, h, Node.isDirectory_iff]

theorem isDirectory_of_node {metadata : Metadata} (h : d.node path = some (.directory metadata)) :
    d.isDirectory path = true :=
  isDirectory_iff.mpr ⟨metadata, h⟩

/-- Nothing lies below what is not a directory. -/
theorem node_child_eq_none (h : d.isDirectory path = false) : d.node (path ++ [name]) = none := by
  by_contra hne
  rw [isDirectory_iff.mpr (d.parent_directory hne)] at h
  cases h

/-- Nothing lies anywhere below what is not a directory. -/
theorem node_below_eq_none (h : d.isDirectory path = false) {rest : Parts} (hrest : rest ≠ []) :
    d.node (path ++ rest) = none := by
  induction rest using List.reverseRecOn with
  | nil => exact (hrest rfl).elim
  | append_singleton rest last ih =>
    rw [← List.append_assoc]
    apply node_child_eq_none
    by_cases hnil : rest = []
    · rw [hnil, List.append_nil, h]
    · simp [isDirectory, ih hnil]

/-- The name that a path adds to a directory, when it lies in it. -/
def childOf (path entry : Parts) : Option String :=
  if entry.dropLast = path then entry.getLast? else none

theorem childOf_eq_some {entry : Parts} :
    childOf path entry = some name ↔ entry = path ++ [name] := by
  unfold childOf
  split
  · next h =>
    rw [List.getLast?_eq_some_iff]
    constructor
    · rintro ⟨front, rfl⟩
      rw [List.dropLast_concat] at h
      rw [h]
    · rintro rfl
      exact ⟨path, rfl⟩
  · next h =>
    simp only [reduceCtorEq, false_iff]
    rintro rfl
    exact h List.dropLast_concat

/-- The names in a directory. -/
def children (d : Disk Bytes) (path : Parts) : List String := d.entries.keys.filterMap (childOf path)

theorem mem_children : name ∈ d.children path ↔ d.node (path ++ [name]) ≠ none := by
  simp only [children, List.mem_filterMap, childOf_eq_some, exists_eq_right,
    Std.ExtTreeMap.mem_keys, node, Std.ExtTreeMap.mem_iff_isSome_getElem?,
    Option.isSome_iff_ne_none]

theorem nodup_children (d : Disk Bytes) (path : Parts) : (d.children path).Nodup := by
  have hkeys : d.entries.keys.Nodup := by
    refine (Std.ExtTreeMap.distinct_keys (t := d.entries)).imp ?_
    intro a b hne heq
    exact hne (by simp [heq])
  refine List.Pairwise.filterMap _ ?_ hkeys
  intro a b hne name ha name' hb heq
  rw [childOf_eq_some] at ha hb
  exact hne (by rw [ha, hb, heq])

theorem children_eq_nil : d.children path = [] ↔ ∀ name, d.node (path ++ [name]) = none := by
  rw [List.eq_nil_iff_forall_not_mem]
  simp only [mem_children, not_not]

/-- The paths below a path, with their entries. -/
def below (d : Disk Bytes) (path : Parts) : List (Parts × Node Bytes) :=
  d.entries.toList.filter fun entry => path.isPrefixOf entry.1 && entry.1 != path

theorem mem_below {entry : Parts} {node : Node Bytes} :
    (entry, node) ∈ d.below path ↔
      d.node entry = some node ∧ path <+: entry ∧ entry ≠ path := by
  simp [below, Disk.node, Std.ExtTreeMap.mem_toList_iff_getElem?_eq_some]

/-- The disks agree everywhere but at one path, where the second has the given entry. -/
def Sets (d : Disk Bytes) (path : Parts) (node : Option (Node Bytes)) (d' : Disk Bytes) : Prop :=
  ∀ entry, d'.node entry = if entry = path then node else d.node entry

theorem Sets.self {node : Option (Node Bytes)} (h : d.Sets path node d') : d'.node path = node := by
  rw [h path, if_pos rfl]

theorem Sets.other {node : Option (Node Bytes)} (h : d.Sets path node d') {entry : Parts}
    (hne : entry ≠ path) : d'.node entry = d.node entry := by
  rw [h entry, if_neg hne]

/-- Two changes of one entry. -/
theorem Sets.again {d'' : Disk Bytes} {node node' : Option (Node Bytes)}
    (h : d.Sets path node d') (h' : d'.Sets path node' d'') : d.Sets path node' d'' := by
  intro entry
  rw [h' entry, h entry]
  split <;> rfl

/-- An entry that is as it should be already. -/
theorem Sets.same {node : Option (Node Bytes)} (h : d.node path = node) : d.Sets path node d := by
  intro entry
  split
  · next heq => rw [heq, h]
  · rfl

theorem Sets.isDirectory_other {node : Option (Node Bytes)} (h : d.Sets path node d')
    {entry : Parts} (hne : entry ≠ path) : d'.isDirectory entry = d.isDirectory entry := by
  rw [isDirectory, h.other hne, isDirectory]

/-- The second disk is the first one with some of what lies at or below a path removed. -/
def Pruned (d : Disk Bytes) (path : Parts) (d' : Disk Bytes) : Prop :=
  ∀ entry, d'.node entry = d.node entry ∨ path <+: entry ∧ d'.node entry = none

theorem Pruned.refl (d : Disk Bytes) (path : Parts) : d.Pruned path d := fun _ => .inl rfl

/-- Pruning a subtree further prunes the tree. -/
theorem Pruned.trans {d'' : Disk Bytes} {below : Parts} (h : d.Pruned path d')
    (h' : d'.Pruned below d'') (hbelow : path <+: below) : d.Pruned path d'' := by
  intro entry
  rcases h' entry with heq | ⟨hbelow₀, hnone⟩
  · rw [heq]
    exact h entry
  · exact .inr ⟨hbelow.trans hbelow₀, hnone⟩

theorem Sets.pruned (h : d.Sets path none d') : d.Pruned path d' := by
  intro entry
  rw [h entry]
  split
  · next heq => exact .inr ⟨heq ▸ List.prefix_rfl, rfl⟩
  · exact .inl rfl

/-- The second disk is the first one without what lies at or below a path. -/
def Removed (d : Disk Bytes) (path : Parts) (d' : Disk Bytes) : Prop :=
  ∀ entry, d'.node entry = if path <+: entry then none else d.node entry

theorem Removed.pruned (h : d.Removed path d') : d.Pruned path d' := by
  intro entry
  rw [h entry]
  split
  · next hbelow₀ => exact .inr ⟨hbelow₀, rfl⟩
  · exact .inl rfl

theorem Removed.of_absent (h : d.node path = none) : d.Removed path d := by
  intro entry
  split
  · next hbelow₀ =>
    obtain ⟨rest, rfl⟩ := hbelow₀
    by_cases hrest : rest = []
    · rw [hrest, List.append_nil, h]
    · exact node_below_eq_none (by simp [isDirectory, h]) hrest
  · rfl

/-- Removing what is no directory removes all there is below it. -/
theorem Sets.removed (h : d.Sets path none d') (hkind : d.isDirectory path = false) :
    d.Removed path d' := by
  intro entry
  rw [h entry]
  by_cases heq : entry = path
  · rw [if_pos heq, if_pos (heq ▸ List.prefix_rfl)]
  · rw [if_neg heq]
    split
    · next hbelow₀ =>
      obtain ⟨rest, rfl⟩ := hbelow₀
      have hrest : rest ≠ [] := by rintro rfl; simp at heq
      exact node_below_eq_none hkind hrest
    · rfl

/-- The directory of what was removed is as it was. -/
theorem Removed.isDirectory_dropLast (h : d.Removed path d') (hroot : path ≠ []) :
    d'.isDirectory path.dropLast = d.isDirectory path.dropLast := by
  have hnot : ¬ path <+: path.dropLast := by
    intro hbelow₀
    have hlength := hbelow₀.length_le
    have := List.length_pos_iff.mpr hroot
    rw [List.length_dropLast] at hlength
    omega
  rw [isDirectory, h, if_neg hnot, isDirectory]

/-- The second disk is the first one without what lies at or below some names in a directory. -/
def RemovedBelow (d : Disk Bytes) (path : Parts) (names : List String) (d' : Disk Bytes) : Prop :=
  ∀ entry, d'.node entry = if ∃ name ∈ names, path ++ [name] <+: entry then none else d.node entry

/-- What lies below a path lies at or below one of its children. -/
theorem exists_child_prefix {path entry : Parts} (h : path <+: entry) (hne : entry ≠ path) :
    ∃ name, path ++ [name] <+: entry := by
  obtain ⟨rest, rfl⟩ := h
  cases rest with
  | nil => simp at hne
  | cons name rest => exact ⟨name, rest, by simp⟩

/-- Two children of a path have nothing below them in common. -/
theorem child_unique {path entry : Parts} {first second : String}
    (hfirst : path ++ [first] <+: entry) (hsecond : path ++ [second] <+: entry) :
    first = second := by
  have hlength : (path ++ [first]).length ≤ (path ++ [second]).length := by simp
  have hbelow₀ := List.prefix_of_prefix_length_le hfirst hsecond hlength
  have heq := hbelow₀.eq_of_length (by simp)
  simpa using heq

namespace RemovedBelow

variable {d'' : Disk Bytes} {names : List String}

theorem nil : d.RemovedBelow path [] d := fun entry => by simp

theorem pruned (h : d.RemovedBelow path names d') : d.Pruned path d' := by
  intro entry
  rw [h entry]
  split
  · next hin =>
    obtain ⟨name, -, hname⟩ := hin
    exact .inr ⟨(List.prefix_append _ _).trans hname, rfl⟩
  · exact .inl rfl

theorem self (h : d.RemovedBelow path names d') : d'.node path = d.node path := by
  rw [h path, if_neg]
  rintro ⟨name, -, hbelow₀⟩
  have hlength := hbelow₀.length_le
  rw [List.length_append, List.length_singleton] at hlength
  omega

/-- What lies below another name is still there. -/
theorem other (h : d.RemovedBelow path names d') (hnew : name ∉ names) {entry : Parts}
    (hbelow₀ : path ++ [name] <+: entry) : d'.node entry = d.node entry := by
  rw [h, if_neg]
  rintro ⟨other, hother, hotherprefix⟩
  exact hnew (child_unique hbelow₀ hotherprefix ▸ hother)

/-- What is removed next joins what is gone already. -/
theorem step (h : d.RemovedBelow path names d') (h' : d'.Removed (path ++ [name]) d'') :
    d.RemovedBelow path (names ++ [name]) d'' := by
  intro entry
  rw [h' entry]
  by_cases hname : path ++ [name] <+: entry
  · rw [if_pos hname, if_pos ⟨name, by simp, hname⟩]
  · rw [if_neg hname, h entry]
    congr 1
    simp [hname]

/-- When all names are gone, the directory is empty. -/
theorem child_eq_none (h : d.RemovedBelow path names d')
    (hall : ∀ name, d.node (path ++ [name]) ≠ none → name ∈ names) :
    d'.node (path ++ [name]) = none := by
  rw [h]
  split
  · rfl
  · next hnot =>
    by_contra hne
    exact hnot ⟨name, hall name hne, List.prefix_rfl⟩

/-- Once the empty directory is removed too, the whole tree is gone. -/
theorem finish (h : d.RemovedBelow path names d') (hsets : d'.Sets path none d'')
    (hempty : ∀ name, d'.node (path ++ [name]) = none) : d.Removed path d'' := by
  intro entry
  rw [hsets entry]
  by_cases heq : entry = path
  · rw [if_pos heq, if_pos (heq ▸ List.prefix_rfl)]
  · rw [if_neg heq]
    by_cases hbelow₀ : path <+: entry
    · rw [if_pos hbelow₀]
      obtain ⟨name, rest, rfl⟩ := exists_child_prefix hbelow₀ heq
      by_cases hrest : rest = []
      · rw [hrest, List.append_nil, hempty]
      · exact node_below_eq_none (by simp [isDirectory, hempty]) hrest
    · rw [if_neg hbelow₀, h, if_neg]
      rintro ⟨name, -, hname⟩
      exact hbelow₀ ((List.prefix_append _ _).trans hname)

end RemovedBelow

/-- Put an entry into a directory, or replace an entry by one of its kind. -/
def put (d : Disk Bytes) (path : Parts) (node : Node Bytes)
    (hparent : path = [] ∨ d.isDirectory path.dropLast = true)
    (hkind : d.isDirectory path = true → node.isDirectory = true) : Disk Bytes where
  entries := d.entries.insert path node
  root := by
    rw [Std.ExtTreeMap.getElem?_insert]
    simp only [Std.LawfulEqCmp.compare_eq_iff_eq]
    split
    · next h =>
      subst h
      have := Node.isDirectory_iff.mp (hkind (isDirectory_iff.mpr d.root))
      obtain ⟨metadata, rfl⟩ := this
      exact ⟨metadata, rfl⟩
    · exact d.root
  closed := by
    intro parent name h
    have hdirectory : d.isDirectory parent = true := by
      rw [Std.ExtTreeMap.getElem?_insert] at h
      simp only [Std.LawfulEqCmp.compare_eq_iff_eq] at h
      split at h
      · next heq =>
        subst heq
        rcases hparent with hnil | hparent
        · simp at hnil
        · rwa [List.dropLast_concat] at hparent
      · exact isDirectory_iff.mpr (d.closed parent name h)
    rw [Std.ExtTreeMap.getElem?_insert]
    simp only [Std.LawfulEqCmp.compare_eq_iff_eq]
    split
    · next heq =>
      subst heq
      obtain ⟨metadata, hnode⟩ := Node.isDirectory_iff.mp (hkind hdirectory)
      exact ⟨metadata, by rw [hnode]⟩
    · exact isDirectory_iff.mp hdirectory

theorem sets_put {node : Node Bytes} (hparent : path = [] ∨ d.isDirectory path.dropLast = true)
    (hkind : d.isDirectory path = true → node.isDirectory = true) :
    d.Sets path (some node) (d.put path node hparent hkind) := by
  intro entry
  simp only [Disk.node, put, Std.ExtTreeMap.getElem?_insert, Std.LawfulEqCmp.compare_eq_iff_eq,
    eq_comm (a := path)]

/-- Remove an entry below which nothing lies. -/
def remove (d : Disk Bytes) (path : Parts) (hroot : path ≠ [])
    (hempty : d.children path = []) : Disk Bytes where
  entries := d.entries.erase path
  root := by
    rw [Std.ExtTreeMap.getElem?_erase]
    simp only [Std.LawfulEqCmp.compare_eq_iff_eq, hroot, if_false]
    exact d.root
  closed := by
    intro parent name h
    rw [Std.ExtTreeMap.getElem?_erase] at h ⊢
    simp only [Std.LawfulEqCmp.compare_eq_iff_eq] at h ⊢
    split at h
    · exact (h rfl).elim
    · have hne : path ≠ parent := by
        rintro rfl
        exact h (children_eq_nil.mp hempty name)
      rw [if_neg hne]
      exact d.closed parent name h

theorem sets_remove (hroot : path ≠ []) (hempty : d.children path = []) :
    d.Sets path none (d.remove path hroot hempty) := by
  intro entry
  simp only [Disk.node, remove, Std.ExtTreeMap.getElem?_erase, Std.LawfulEqCmp.compare_eq_iff_eq,
    eq_comm (a := path)]

/-- Remove what is no directory. -/
def removeLeaf (d : Disk Bytes) (path : Parts) (h : d.isDirectory path = false) : Disk Bytes :=
  d.remove path
    (by
      rintro rfl
      rw [isDirectory_iff.mpr d.root] at h
      cases h)
    (children_eq_nil.mpr fun _ => node_child_eq_none h)

theorem sets_removeLeaf (h : d.isDirectory path = false) :
    d.Sets path none (d.removeLeaf path h) :=
  sets_remove _ _

/-- What exists is the tree itself or lies in a directory. -/
theorem parent_of_node (h : d.node path ≠ none) :
    path = [] ∨ d.isDirectory path.dropLast = true := by
  rcases List.eq_nil_or_concat path with hnil | ⟨front, last, rfl⟩
  · exact .inl hnil
  · rw [List.concat_eq_append] at h ⊢
    rw [List.dropLast_concat]
    exact .inr (isDirectory_iff.mpr (d.parent_directory h))

/-- `put`, where the tree stays one. -/
def place (d : Disk Bytes) (path : Parts) (node : Node Bytes) : Option (Disk Bytes) :=
  if h : (path = [] ∨ d.isDirectory path.dropLast = true) ∧
      (d.isDirectory path = true → node.isDirectory = true) then
    some (d.put path node h.1 h.2)
  else none

theorem place_of {node : Node Bytes} (hparent : path = [] ∨ d.isDirectory path.dropLast = true)
    (hkind : d.isDirectory path = true → node.isDirectory = true) :
    ∃ d', d.place path node = some d' :=
  ⟨_, dif_pos ⟨hparent, hkind⟩⟩

theorem sets_of_place {node : Node Bytes} (h : d.place path node = some d') :
    d.Sets path (some node) d' := by
  unfold place at h
  split at h
  · cases h
    exact sets_put _ _
  · cases h

/-- A new entry in a directory, as `mkdir` and `open` with `O_CREAT | O_EXCL` make it. -/
def add (d : Disk Bytes) (path : Parts) (node : Node Bytes) : Option (Disk Bytes) :=
  if d.node path = none then d.place path node else none

theorem add_of_absent (hparent : d.isDirectory path.dropLast = true) (habsent : d.node path = none)
    (node : Node Bytes) : ∃ d', d.add path node = some d' := by
  rw [add, if_pos habsent]
  exact place_of (.inr hparent) fun h => by simp [isDirectory, habsent] at h

theorem sets_of_add {node : Node Bytes} (h : d.add path node = some d') :
    d.node path = none ∧ d.Sets path (some node) d' := by
  unfold add at h
  split at h
  · next habsent => exact ⟨habsent, sets_of_place h⟩
  · cases h

/-- Other content for a regular file, as a write to it gives. -/
def write (d : Disk Bytes) (path : Parts) (content : Bytes) : Option (Disk Bytes) :=
  match d.node path with
  | some (.file _ metadata nlink) => d.place path (.file content metadata nlink)
  | _ => none

theorem write_of_file {old : Bytes} {metadata : Metadata} {nlink : ℕ}
    (h : d.node path = some (.file old metadata nlink)) (content : Bytes) :
    ∃ d', d.write path content = some d' := by
  simp only [write, h]
  exact place_of (parent_of_node (by simp [h])) fun hd => by
    simp [isDirectory, h, Node.isDirectory] at hd

theorem sets_of_write {content : Bytes} (h : d.write path content = some d') :
    ∃ old metadata nlink, d.node path = some (.file old metadata nlink) ∧
      d.Sets path (some (.file content metadata nlink)) d' := by
  unfold write at h
  split at h
  · next old metadata nlink hnode => exact ⟨old, metadata, nlink, hnode, sets_of_place h⟩
  · cases h

/-- Other permission bits or another owner, as `chmod` and `chown` give. They
follow a link to what lies outside of the tree. -/
def setMetadata (d : Disk Bytes) (path : Parts) (f : Metadata → Metadata) :
    Option (Disk Bytes) :=
  match d.node path with
  | some (.symlink (some _)) => some d
  | some (.symlink none) | none => none
  | some node => d.place path (node.withMetadata f)

theorem setMetadata_of {node : Node Bytes} (h : d.node path = some node)
    (hkind : ∀ target, node ≠ .symlink target) (f : Metadata → Metadata) :
    ∃ d', d.setMetadata path f = some d' := by
  have hplace : ∃ d', d.place path (node.withMetadata f) = some d' :=
    place_of (parent_of_node (by simp [h])) fun hd => by
      simpa [isDirectory, h] using hd
  cases node with
  | symlink target => exact (hkind target rfl).elim
  | file content metadata nlink => simpa only [setMetadata, h] using hplace
  | directory metadata => simpa only [setMetadata, h] using hplace
  | special metadata => simpa only [setMetadata, h] using hplace

theorem sets_of_setMetadata {f : Metadata → Metadata} (h : d.setMetadata path f = some d') :
    ∃ node, d.node path = some node ∧ d.Sets path (some (node.withMetadata f)) d' := by
  unfold setMetadata at h
  split at h
  · next target hnode =>
    cases h
    refine ⟨_, hnode, fun entry => ?_⟩
    split
    · next heq => rw [heq, hnode, Node.withMetadata]
    · rfl
  · cases h
  · cases h
  · next node _ _ hnode => exact ⟨node, hnode, sets_of_place h⟩

/-- `unlink`: remove an entry that is no directory. -/
def unlink (d : Disk Bytes) (path : Parts) : Option (Disk Bytes) :=
  if h : d.isDirectory path = false ∧ d.node path ≠ none then some (d.removeLeaf path h.1)
  else none

theorem unlink_of (hkind : d.isDirectory path = false) (hnode : d.node path ≠ none) :
    ∃ d', d.unlink path = some d' :=
  ⟨_, dif_pos ⟨hkind, hnode⟩⟩

theorem sets_of_unlink (h : d.unlink path = some d') : d.Sets path none d' := by
  unfold unlink at h
  split at h
  · cases h
    exact sets_removeLeaf _
  · cases h

/-- `rmdir`: remove an empty directory below the tree itself. -/
def rmdir (d : Disk Bytes) (path : Parts) : Option (Disk Bytes) :=
  if h : path ≠ [] ∧ d.isDirectory path = true ∧ d.children path = [] then
    some (d.remove path h.1 h.2.2)
  else none

theorem rmdir_of (hroot : path ≠ []) (hkind : d.isDirectory path = true)
    (hempty : ∀ name, d.node (path ++ [name]) = none) : ∃ d', d.rmdir path = some d' :=
  ⟨_, dif_pos ⟨hroot, hkind, children_eq_nil.mpr hempty⟩⟩

theorem sets_of_rmdir (h : d.rmdir path = some d') :
    d.Sets path none d' ∧ ∀ name, d.node (path ++ [name]) = none := by
  unfold rmdir at h
  split at h
  · next hcond =>
    cases h
    exact ⟨sets_remove _ _, children_eq_nil.mp hcond.2.2⟩
  · cases h

/-- `os.replace`: move an entry that is no directory over one that is none either. -/
def replace (d : Disk Bytes) (source target : Parts) : Option (Disk Bytes) :=
  match d.node source with
  | none => none
  | some node =>
      if source = target then some d
      else if h : d.isDirectory source = false ∧ d.isDirectory target = false then
        (d.removeLeaf source h.1).place target node
      else none

theorem replace_of {source target : Parts} (hne : source ≠ target)
    (hkind : d.isDirectory source = false) (hnode : d.node source ≠ none)
    (hparent : d.isDirectory target.dropLast = true) (htarget : d.isDirectory target = false) :
    ∃ d', d.replace source target = some d' := by
  obtain ⟨node, hnode⟩ := Option.ne_none_iff_exists'.mp hnode
  have hremoved := sets_removeLeaf hkind
  have hparent' : (d.removeLeaf source hkind).isDirectory target.dropLast = true := by
    have hother : target.dropLast ≠ source := by
      rintro heq
      rw [heq, hkind] at hparent
      cases hparent
    rwa [isDirectory, hremoved.other hother]
  have htarget' : (d.removeLeaf source hkind).isDirectory target = false := by
    rwa [isDirectory, hremoved.other (Ne.symm hne)]
  simp only [replace, hnode, if_neg hne, dif_pos (And.intro hkind htarget)]
  exact place_of (.inr hparent') fun h => by rw [htarget'] at h; cases h

theorem node_of_replace {source target : Parts} (hne : source ≠ target)
    (h : d.replace source target = some d') (entry : Parts) :
    d'.node entry =
      if entry = target then d.node source else if entry = source then none else d.node entry := by
  unfold replace at h
  split at h
  · cases h
  · next node hnode =>
    rw [if_neg hne] at h
    split at h
    · rw [sets_of_place h entry, sets_removeLeaf _ entry, hnode]
    · cases h

/-! ## Reading a tree -/

/-- `path.is_symlink()` -/
def isSymlink (d : Disk Bytes) (path : Parts) : Bool :=
  match d.node path with
  | some (.symlink _) => true
  | _ => false

/-- `path.exists()`, which follows a link. -/
def existsAt (d : Disk Bytes) (path : Parts) : Bool :=
  match d.node path with
  | none | some (.symlink none) => false
  | _ => true

/-- `path.is_dir()`, which follows a link. -/
def isDir (d : Disk Bytes) (path : Parts) : Bool :=
  match d.node path with
  | some (.directory _) | some (.symlink (some .directory)) => true
  | _ => false

theorem isDir_of_isDirectory (h : d.isDirectory path = true) : d.isDir path = true := by
  obtain ⟨metadata, hnode⟩ := isDirectory_iff.mp h
  simp [isDir, hnode]

/-- The metadata of a directory that is no link. -/
def directoryAt (d : Disk Bytes) (path : Parts) : Option Metadata :=
  match d.node path with
  | some (.directory metadata) => some metadata
  | _ => none

theorem directoryAt_eq_some {metadata : Metadata} :
    d.directoryAt path = some metadata ↔ d.node path = some (.directory metadata) := by
  unfold directoryAt
  rcases d.node path with _ | ⟨_ | _ | _ | _⟩ <;> simp

/-- `path.exists() or path.is_symlink()` -/
def isPresent (d : Disk Bytes) (path : Parts) : Bool := d.existsAt path || d.isSymlink path

@[simp] theorem isPresent_eq : d.isPresent path = (d.node path).isSome := by
  unfold isPresent existsAt isSymlink
  rcases d.node path with _ | ⟨_ | _ | (_ | _) | _⟩ <;> rfl

end Disk

end AtlasOS
