import AtlasOS.Lib.JsonText
import AtlasOS.Restore.Journal

/-!
# Recorded states as they were read

The states and operations of a restore journal with their numbers as they were
read, which may be booleans. The engine reads the values that the numbers equal;
here they are written as they are held.
-/

namespace AtlasOS.Restore

/-! ## Readers -/

theorem sameKeys_iff {fields : Fields} {names : List String} :
    sameKeys fields names = true ↔ ∀ key, key ∈ fields.keys ↔ key ∈ names := by
  simp only [sameKeys, Bool.and_eq_true, List.all_eq_true, decide_eq_true_eq]
  exact ⟨fun h key => ⟨h.1 key, h.2 key⟩, fun h => ⟨fun key => (h key).mp, fun key => (h key).mpr⟩⟩

/-- With the names of an object known, other names are compared with them. -/
theorem sameKeys_eq {fields : Fields} {names : List String}
    (h : ∀ key, key ∈ fields.keys ↔ key ∈ names) (names' : List String) :
    sameKeys fields names' = (names.all (· ∈ names') && names'.all (· ∈ names)) := by
  rw [Bool.eq_iff_iff, sameKeys_iff, Bool.and_eq_true, List.all_eq_true, List.all_eq_true]
  simp only [decide_eq_true_eq, h]
  exact ⟨fun h => ⟨fun key => (h key).mp, fun key => (h key).mpr⟩,
    fun h key => ⟨h.1 key, h.2 key⟩⟩

theorem readObject_eq_ok {value : Json} {error : Error} {fields : Fields} :
    readObject value error = .ok fields ↔ value = .obj fields := by
  cases value <;> simp [readObject]

theorem obtainOr_eq_ok {α : Type} {value : Option α} {error : Error} {a : α} :
    obtainOr value error = .ok a ↔ value = some a := by
  cases value <;> simp [obtainOr]

theorem ofPython_eq_ok {α : Type} {m : Except PyError α} {a : α} :
    ofPython m = .ok a ↔ m = .ok a := by
  cases m <;> simp [ofPython]

theorem convertError_eq_ok {α : Type} {error : Error} {m : Except Error α} {a : α} :
    convertError error m = .ok a ↔ m = .ok a := by
  unfold convertError
  split <;> simp

theorem convert_eq_ok {α : Type} {error : PyError} {m : Except PyError α} {a : α} :
    convert error m = .ok a ↔ m = .ok a := by
  unfold convert
  split <;> simp

/-- A member of an enumeration is read from its text only. -/
theorem readEnum_eq_ok {α : Type} [StrEnum α] {value : Json} {a : α}
    (h : readEnum α value = .ok a) : value = .str (StrEnum.value a) := by
  simp only [readEnum, expect_eq_ok, Option.bind_eq_some_iff, asStr_eq_some] at h
  obtain ⟨text, rfl, hvalue⟩ := h
  rw [StrEnum.eq_value_of_ofValue hvalue]

theorem ArtifactMetadata.build_eq_ok {sha256 size : Json} {artifact : ArtifactMetadata}
    (h : ArtifactMetadata.build sha256 size = .ok artifact) :
    sha256 = .str artifact.sha256 ∧ size = .int artifact.size := by
  unfold ArtifactMetadata.build at h
  split at h
  · split at h
    · split at h
      · cases h
        exact ⟨rfl, rfl⟩
      · cases h
    · cases h
  · cases h

theorem validateRelativePath_eq_ok {α : Type} {find : String → Option α} {value : Json} {a : α} :
    DirectoryState.validateRelativePath find value = .ok a ↔
      ∃ text, value = .str text ∧ text ≠ "" ∧ find text = some a := by
  simp only [DirectoryState.validateRelativePath, bind_eq_ok, obtainOr_eq_ok, asStr_eq_some,
    exists_unit, demand_eq_ok, decide_eq_true_eq]

/-- The value of a field of an object. -/
def field (value : Json) (key : String) : Json :=
  match value with
  | .obj fields => Fields.get fields key
  | _ => .null

/-- The items of a list. -/
def items (value : Json) : List Json :=
  match value with
  | .arr items => items
  | _ => []

/-- Whether an object has a field with the value `null`. -/
def hasNull (value : Json) (key : String) : Bool :=
  match value with
  | .obj fields => decide (key ∈ Fields.keys fields) && decide (Fields.get fields key = .null)
  | _ => false

section Lists

variable {α ε : Type} {encode : α → Json} {decode : Json → Except ε α} {values : List α}
  {items : List Json}

/-- A list is read from what is the same as its encoding when each item is. -/
theorem mapM_of_same (hread : ∀ item a, Json.Same item (encode a) → decode item = .ok a)
    (h : List.Forall₂ Json.Same items (values.map encode)) : items.mapM decode = .ok values := by
  rw [mapM_eq_ok_iff]
  rw [List.forall₂_map_right_iff] at h
  exact h.imp fun item a hsame => hread item a hsame

/-- What a list was read from is the same as its encoding when each item is. -/
theorem forall_same_of_mapM {exact_item : Json → Prop}
    (hread : ∀ item a, decode item = .ok a → (Json.Same item (encode a) ↔ exact_item item))
    (h : items.mapM decode = .ok values) :
    List.Forall₂ Json.Same items (values.map encode) ↔ ∀ item ∈ items, exact_item item := by
  rw [mapM_eq_ok_iff] at h
  rw [List.forall₂_map_right_iff]
  induction h with
  | nil => simp
  | cons hitem _ ih => simp [hread _ _ hitem, ih]

end Lists

/-! ## Numbers -/

/-- An integer as Python has it, which may be a boolean. -/
inductive PyInt where
  | int (i : Int)
  | bool (b : Bool)
  deriving DecidableEq

namespace PyInt

/-- The integer that the value equals. -/
def value : PyInt → Int
  | .int i => i
  | .bool b => b.toNat

/-- The value in JSON. -/
def toJson : PyInt → Json
  | .int i => .int i
  | .bool b => .bool b

/-- The value when `isinstance(value, int)` holds. -/
def ofJson? : Json → Option PyInt
  | .int i => some (.int i)
  | .bool b => some (.bool b)
  | _ => none

@[simp] theorem ofJson_toJson (n : PyInt) : ofJson? n.toJson = some n := by
  cases n <;> rfl

@[simp] theorem same_toJson {value : Json} {n : PyInt} :
    Json.Same value n.toJson ↔ value = n.toJson := by
  cases n with
  | int i => exact Json.same_int
  | bool b => exact Json.same_bool

theorem toJson_of_ofJson {value : Json} {n : PyInt} (h : ofJson? value = some n) :
    n.toJson = value := by
  cases value with
  | int i =>
    cases h
    rfl
  | bool b =>
    cases h
    rfl
  | null => cases h
  | float f => cases h
  | str s => cases h
  | arr items => cases h
  | obj fields => cases h

theorem bind_obtainOr_asInteger {α : Type} (value : Json) (error : Error)
    (rest : Int → Except Error α) :
    (obtainOr (asInteger? value) error >>= rest) =
      obtainOr (ofJson? value) error >>= fun n => rest n.value := by
  cases value <;> rfl

end PyInt

theorem map_bind {ε α β γ : Type} (f : β → γ) (m : Except ε α) (rest : α → Except ε β) :
    (m >>= rest).map f = m >>= fun a => (rest a).map f := by
  cases m <;> rfl

theorem bind_map {ε α β γ : Type} (f : α → β) (m : Except ε α) (rest : β → Except ε γ) :
    m.map f >>= rest = m >>= fun a => rest (f a) := by
  cases m <;> rfl

theorem map_convertError {α β : Type} (f : α → β) (error : Error) (m : Except Error α) :
    (convertError error m).map f = convertError error (m.map f) := by
  cases m with
  | ok a => rfl
  | error found =>
    cases found with
    | builtin raised => cases raised <;> rfl
    | _ => rfl

/-- Permission bits and an owner, as they were read. -/
structure HeldMetadata where
  mode : PyInt
  uid : PyInt
  gid : PyInt
  mode_range : 0 ≤ mode.value ∧ mode.value < 0o1000
  owner_range : 0 ≤ uid.value ∧ 0 ≤ gid.value
  deriving DecidableEq

namespace HeldMetadata

/-- The metadata that the numbers stand for. -/
def plain (m : HeldMetadata) : Metadata :=
  ⟨⟨m.mode.value.toNat, by have h := m.mode_range; omega⟩, m.uid.value.toNat, m.gid.value.toNat⟩

/-- The metadata, when the numbers are in range. -/
def read (mode uid gid : PyInt) : Option HeldMetadata :=
  if h : 0 ≤ mode.value ∧ mode.value < 0o1000 then
    if h' : 0 ≤ uid.value ∧ 0 ≤ gid.value then some ⟨mode, uid, gid, h, h'⟩ else none
  else none

theorem map_plain_read (mode uid gid : PyInt) :
    (read mode uid gid).map plain = readMetadata mode.value uid.value gid.value := by
  simp only [read, readMetadata]
  split_ifs <;> rfl

@[simp] theorem read_self (m : HeldMetadata) : read m.mode m.uid m.gid = some m := by
  simp only [read, dif_pos m.mode_range, dif_pos m.owner_range]

theorem read_eq_some {mode uid gid : PyInt} {m : HeldMetadata} (h : read mode uid gid = some m) :
    m.mode = mode ∧ m.uid = uid ∧ m.gid = gid := by
  simp only [read] at h
  split_ifs at h
  cases h
  exact ⟨rfl, rfl, rfl⟩

end HeldMetadata

/-! ## Recorded states -/

/-- What was found of an existing file, with its numbers as they were read. -/
structure HeldFile where
  sha256 : String
  size : PyInt
  metadata : HeldMetadata
  checksum : isHexDigest sha256 = true
  size_range : 0 ≤ size.value

instance : DecidableEq HeldFile := fun a b =>
  decidable_of_iff (a.sha256 = b.sha256 ∧ a.size = b.size ∧ a.metadata = b.metadata)
    (by cases a; cases b; simp)

/-- The file that the numbers stand for. -/
def HeldFile.plain (file : HeldFile) : FileMetadata :=
  ⟨file.sha256, file.size.value.toNat, file.metadata.plain, file.checksum⟩

/-- The state of a file, with its numbers as they were read. -/
abbrev HeldFileState := Option HeldFile

namespace HeldFileState

/-- `FileState.to_dict` -/
def toDict : HeldFileState → Json
  | none => .obj [("exists", .bool false)]
  | some file =>
      .obj [("exists", .bool true), ("sha256", .str file.sha256), ("size", file.size.toJson),
        ("mode", file.metadata.mode.toJson), ("uid", file.metadata.uid.toJson),
        ("gid", file.metadata.gid.toJson)]

/-- `FileState.from_dict`, with `__post_init__`. -/
def fromDict (value : Json) : Except Error HeldFileState := do
  let fields ← readObject value (.journal "file state must be an object")
  let invalid := Error.journal "file state fields are invalid"
  match fields.get "exists" with
  | .bool true =>
      demand (sameKeys fields ["exists", "sha256", "size", "mode", "uid", "gid"]) invalid
      let incomplete := Error.journal "existing file state metadata is invalid"
      let sha256 ← obtainOr (asStr? (fields.get "sha256")) incomplete
      if checksum : isHexDigest sha256 = true then
        let size ← obtainOr (PyInt.ofJson? (fields.get "size")) incomplete
        let mode ← obtainOr (PyInt.ofJson? (fields.get "mode")) incomplete
        let uid ← obtainOr (PyInt.ofJson? (fields.get "uid")) incomplete
        let gid ← obtainOr (PyInt.ofJson? (fields.get "gid")) incomplete
        let outside := Error.journal "existing file state values are invalid"
        if size_range : 0 ≤ size.value then
          let metadata ← obtainOr (HeldMetadata.read mode uid gid) outside
          return some ⟨sha256, size, metadata, checksum, size_range⟩
        else .error outside
      else .error incomplete
  | .bool false =>
      demand (sameKeys fields ["exists"]) invalid
      return none
  | _ => .error invalid

/-- Both readers agree on what the numbers stand for. -/
theorem map_plain_fromDict (value : Json) :
    (fromDict value).map (Option.map HeldFile.plain) = FileState.fromDict value := by
  cases value with
  | obj fields =>
    simp only [fromDict, FileState.fromDict, readObject_obj, ok_bind]
    cases hexists : Fields.get fields "exists" with
    | bool b =>
      cases b with
      | true =>
        simp only [map_bind, PyInt.bind_obtainOr_asInteger]
        refine bind_congr fun _ => bind_congr fun sha256 => ?_
        split
        · simp only [map_bind]
          refine bind_congr fun size => bind_congr fun mode => bind_congr fun uid =>
            bind_congr fun gid => ?_
          by_cases hsize : 0 ≤ size.value
          · simp only [dif_pos hsize, decide_eq_true hsize, demand_true, ok_bind,
              ← HeldMetadata.map_plain_read]
            cases HeldMetadata.read mode uid gid <;> rfl
          · simp only [dif_neg hsize, decide_eq_false hsize]
            rfl
        · rfl
      | false => cases sameKeys fields ["exists"] <;> rfl
    | null => rfl
    | int i => rfl
    | float f => rfl
    | str s => rfl
    | arr items => rfl
    | obj fields' => rfl
  | null => rfl
  | bool b => rfl
  | int i => rfl
  | float f => rfl
  | str s => rfl
  | arr items => rfl

/-- A state is read from what is the same as its JSON value. -/
theorem fromDict_of_same {state : HeldFileState} {value : Json}
    (h : Json.Same value (toDict state)) : fromDict value = .ok state := by
  cases state with
  | none =>
    obtain ⟨fields, rfl, hkeys, hvalues⟩ := Json.same_obj_iff.mp h
    have hnames : sameKeys fields ["exists"] = true := sameKeys_iff.mpr hkeys
    simp [Fields.keys] at hvalues
    simp [fromDict, hvalues, hnames]
  | some file =>
    obtain ⟨fields, rfl, hkeys, hvalues⟩ := Json.same_obj_iff.mp h
    have hnames : sameKeys fields ["exists", "sha256", "size", "mode", "uid", "gid"] = true :=
      sameKeys_iff.mpr hkeys
    simp [Fields.keys] at hvalues
    simp [fromDict, hvalues, hnames, file.checksum, file.size_range]

/-- What a state was read from is the same as its JSON value. -/
theorem same_of_fromDict {value : Json} {state : HeldFileState} (h : fromDict value = .ok state) :
    Json.Same value (toDict state) := by
  simp only [fromDict, bind_eq_ok, readObject_eq_ok] at h
  obtain ⟨fields, rfl, h⟩ := h
  split at h
  · next hexists =>
    simp only [bind_eq_ok, exists_unit, demand_eq_ok, obtainOr_eq_ok, asStr_eq_some] at h
    obtain ⟨hnames, sha256, hsha, h⟩ := h
    split at h
    · simp only [bind_eq_ok, obtainOr_eq_ok] at h
      obtain ⟨size, hsize, mode, hmode, uid, huid, gid, hgid, h⟩ := h
      split at h
      · simp only [bind_eq_ok, obtainOr_eq_ok] at h
        obtain ⟨metadata, hmetadata, h⟩ := h
        cases h
        obtain ⟨rfl, rfl, rfl⟩ := HeldMetadata.read_eq_some hmetadata
        refine Json.same_obj.mpr ⟨sameKeys_iff.mp hnames, ?_⟩
        simp [Fields.keys, hexists, hsha, PyInt.toJson_of_ofJson hsize,
          PyInt.toJson_of_ofJson hmode, PyInt.toJson_of_ofJson huid, PyInt.toJson_of_ofJson hgid,
          Json.Same.refl]
      · cases h
    · cases h
  · next hexists =>
    simp only [bind_eq_ok, exists_unit, demand_eq_ok] at h
    obtain ⟨hnames, h⟩ := h
    cases h
    refine Json.same_obj.mpr ⟨sameKeys_iff.mp hnames, ?_⟩
    simp [Fields.keys, hexists]
  · cases h

end HeldFileState

/-- The state of a directory, with its numbers as they were read. -/
structure HeldDirectory where
  path : ManagedDirectory
  metadata : Option HeldMetadata
  deriving DecidableEq

namespace HeldDirectory

/-- The state that the numbers stand for. -/
def plain (state : HeldDirectory) : DirectoryState := ⟨state.path, state.metadata.map (·.plain)⟩

/-- `DirectoryState.to_dict` -/
def toDict (state : HeldDirectory) : Json :=
  .obj ([("path", .str (StrEnum.value state.path)), ("exists", .bool state.metadata.isSome)] ++
    match state.metadata with
      | none => []
      | some metadata =>
          [("mode", metadata.mode.toJson), ("uid", metadata.uid.toJson),
            ("gid", metadata.gid.toJson)])

/-- `DirectoryState.from_dict`, with `__post_init__`. -/
def fromDict (value : Json) : Except Error HeldDirectory := do
  let fields ← readObject value (.journal "directory state must be an object")
  let invalid := Error.journal "directory state fields are invalid"
  match fields.get "exists" with
  | .bool true =>
      demand (sameKeys fields ["path", "exists", "mode", "uid", "gid"]) invalid
      let path ← DirectoryState.validateRelativePath StrEnum.ofValue? (fields.get "path")
      let incomplete := Error.journal "directory state metadata is invalid"
      let mode ← obtainOr (PyInt.ofJson? (fields.get "mode")) incomplete
      let uid ← obtainOr (PyInt.ofJson? (fields.get "uid")) incomplete
      let gid ← obtainOr (PyInt.ofJson? (fields.get "gid")) incomplete
      let metadata ← obtainOr (HeldMetadata.read mode uid gid)
        (.journal "directory state values are invalid")
      return ⟨path, some metadata⟩
  | .bool false =>
      demand (sameKeys fields ["path", "exists"]) invalid
      let path ← DirectoryState.validateRelativePath StrEnum.ofValue? (fields.get "path")
      return ⟨path, none⟩
  | _ => .error invalid

/-- Both readers agree on what the numbers stand for. -/
theorem map_plain_fromDict (value : Json) :
    (fromDict value).map plain = DirectoryState.fromDict value := by
  cases value with
  | obj fields =>
    simp only [fromDict, DirectoryState.fromDict, readObject_obj, ok_bind]
    cases hexists : Fields.get fields "exists" with
    | bool b =>
      cases b with
      | true =>
        simp only [map_bind, PyInt.bind_obtainOr_asInteger]
        refine bind_congr fun _ => bind_congr fun path => bind_congr fun mode =>
          bind_congr fun uid => bind_congr fun gid => ?_
        rw [← HeldMetadata.map_plain_read]
        cases HeldMetadata.read mode uid gid <;> rfl
      | false =>
        simp only [map_bind]
        rfl
    | null => rfl
    | int i => rfl
    | float f => rfl
    | str s => rfl
    | arr items => rfl
    | obj fields' => rfl
  | null => rfl
  | bool b => rfl
  | int i => rfl
  | float f => rfl
  | str s => rfl
  | arr items => rfl

/-- A state is read from what is the same as its JSON value. -/
theorem fromDict_of_same {state : HeldDirectory} {value : Json}
    (h : Json.Same value state.toDict) : fromDict value = .ok state := by
  obtain ⟨path, metadata⟩ := state
  have hpath : StrEnum.value path ≠ "" := by cases path <;> decide
  cases metadata with
  | none =>
    obtain ⟨fields, rfl, hkeys, hvalues⟩ := Json.same_obj_iff.mp h
    have hnames : sameKeys fields ["path", "exists"] = true := sameKeys_iff.mpr hkeys
    simp [Fields.keys] at hvalues
    simp [fromDict, hvalues, hnames, DirectoryState.validateRelativePath, hpath]
  | some metadata =>
    obtain ⟨fields, rfl, hkeys, hvalues⟩ := Json.same_obj_iff.mp h
    have hnames : sameKeys fields ["path", "exists", "mode", "uid", "gid"] = true :=
      sameKeys_iff.mpr hkeys
    simp [Fields.keys] at hvalues
    simp [fromDict, hvalues, hnames, DirectoryState.validateRelativePath, hpath]

/-- What a state was read from is the same as its JSON value. -/
theorem same_of_fromDict {value : Json} {state : HeldDirectory} (h : fromDict value = .ok state) :
    Json.Same value state.toDict := by
  simp only [fromDict, bind_eq_ok, readObject_eq_ok] at h
  obtain ⟨fields, rfl, h⟩ := h
  split at h
  · next hexists =>
    simp only [bind_eq_ok, exists_unit, demand_eq_ok, obtainOr_eq_ok,
      validateRelativePath_eq_ok] at h
    obtain ⟨hnames, path, ⟨text, htext, -, hpath⟩, mode, hmode, uid, huid, gid, hgid, metadata,
      hmetadata, h⟩ := h
    cases h
    obtain ⟨rfl, rfl, rfl⟩ := HeldMetadata.read_eq_some hmetadata
    have hvalue := StrEnum.eq_value_of_ofValue hpath
    refine Json.same_obj.mpr ⟨sameKeys_iff.mp hnames, ?_⟩
    simp [Fields.keys, hexists, htext, hvalue, PyInt.toJson_of_ofJson hmode,
      PyInt.toJson_of_ofJson huid, PyInt.toJson_of_ofJson hgid, Json.Same.refl]
  · next hexists =>
    simp only [bind_eq_ok, exists_unit, demand_eq_ok, validateRelativePath_eq_ok] at h
    obtain ⟨hnames, path, ⟨text, htext, -, hpath⟩, h⟩ := h
    cases h
    have hvalue := StrEnum.eq_value_of_ofValue hpath
    refine Json.same_obj.mpr ⟨sameKeys_iff.mp hnames, ?_⟩
    simp [Fields.keys, hexists, htext, hvalue]
  · cases h

end HeldDirectory

/-! ## Operations -/

/-- An operation, with its numbers as they were read. -/
structure HeldOperation where
  path : TransactionPath
  action : RestoreAction
  artifact : Option ArtifactMetadata
  original : HeldFileState
  agrees : action = .install ↔ artifact.isSome = true

instance : DecidableEq HeldOperation := fun a b =>
  decidable_of_iff (a.path = b.path ∧ a.action = b.action ∧ a.artifact = b.artifact ∧
      a.original = b.original)
    (by cases a; cases b; simp)

namespace HeldOperation

/-- The operation that the numbers stand for. -/
def plain (operation : HeldOperation) : RestoreOperation :=
  ⟨operation.path, operation.action, operation.artifact, operation.original.map HeldFile.plain,
    operation.agrees⟩

/-- `RestoreOperation.to_dict` -/
def toDict (operation : HeldOperation) : Json :=
  .obj ([("path", .str operation.path.value), ("action", .str (StrEnum.value operation.action)),
      ("original", HeldFileState.toDict operation.original)] ++
    match operation.artifact with
      | none => []
      | some artifact =>
          [("artifact", .obj [("sha256", .str artifact.sha256), ("size", .int artifact.size)])])

/-- The operation with the given values, `__post_init__`. -/
def build (path : TransactionPath) (action : RestoreAction) (artifact : Option ArtifactMetadata)
    (original : HeldFileState) : Except Error HeldOperation :=
  if h : action = .install ↔ artifact.isSome = true then
    .ok ⟨path, action, artifact, original, h⟩
  else .error (.journal "install action and artifact metadata disagree")

/-- `RestoreOperation.from_dict` -/
def fromDict (value : Json) : Except Error HeldOperation := do
  let fields ← readObject value (.journal "restore operation must be an object")
  demand (sameKeys fields ["path", "action", "original"] ||
      sameKeys fields ["path", "action", "original", "artifact"])
    (.journal "restore operation fields are invalid")
  convertError (.journal "restore operation values are invalid") do
    let action ← ofPython (readEnum RestoreAction (fields.get "action"))
    let artifact ← RestoreOperation.readArtifact (fields.get "artifact")
    let original ← HeldFileState.fromDict (fields.get "original")
    let path ← DirectoryState.validateRelativePath findPath (fields.get "path")
    build path action artifact original

theorem map_plain_build (path : TransactionPath) (action : RestoreAction)
    (artifact : Option ArtifactMetadata) (original : HeldFileState) :
    (build path action artifact original).map plain =
      RestoreOperation.build path action artifact (original.map HeldFile.plain) := by
  simp only [build, RestoreOperation.build]
  split_ifs <;> rfl

/-- Both readers agree on what the numbers stand for. -/
theorem map_plain_fromDict (value : Json) :
    (fromDict value).map plain = RestoreOperation.fromDict value := by
  simp only [fromDict, RestoreOperation.fromDict, map_bind, map_convertError, map_plain_build,
    ← HeldFileState.map_plain_fromDict, bind_map]

/-- An operation is read from what is the same as its JSON value. -/
theorem fromDict_of_same {operation : HeldOperation} {value : Json}
    (h : Json.Same value operation.toDict) : fromDict value = .ok operation := by
  obtain ⟨path, action, artifact, original, hagrees⟩ := operation
  have hself : build path action artifact original =
      .ok ⟨path, action, artifact, original, hagrees⟩ := dif_pos hagrees
  have hpath := path.value_ne_empty
  obtain ⟨fields, rfl, hkeys, hvalues⟩ := Json.same_obj_iff.mp h
  cases artifact with
  | none =>
    have hnames : sameKeys fields ["path", "action", "original"] = true := sameKeys_iff.mpr hkeys
    have habsent : Fields.get fields "artifact" = .null :=
      Fields.get_of_not_mem (by simp [sameKeys_iff.mp hnames])
    simp [Fields.keys] at hvalues
    have horiginal := HeldFileState.fromDict_of_same hvalues.2.2
    simp [fromDict, hvalues, hnames, DirectoryState.validateRelativePath, hpath, habsent,
      findPath_value, horiginal, RestoreOperation.readArtifact, hself]
  | some artifact =>
    have hnames : sameKeys fields ["path", "action", "original", "artifact"] = true :=
      sameKeys_iff.mpr hkeys
    simp [Fields.keys] at hvalues
    have horiginal := HeldFileState.fromDict_of_same hvalues.2.2.1
    obtain ⟨inner, hinner, hinner_keys, hinner_values⟩ := Json.same_obj_iff.mp hvalues.2.2.2
    have hinner_names : sameKeys inner ["sha256", "size"] = true := sameKeys_iff.mpr hinner_keys
    simp [Fields.keys] at hinner_values
    simp [fromDict, hvalues, hnames, DirectoryState.validateRelativePath, hpath, hinner,
      findPath_value, horiginal, RestoreOperation.readArtifact, hself, hinner_names, hinner_values]

theorem build_eq_ok {path : TransactionPath} {action : RestoreAction}
    {artifact : Option ArtifactMetadata} {original : HeldFileState} {operation : HeldOperation}
    (h : build path action artifact original = .ok operation) :
    operation.path = path ∧ operation.action = action ∧ operation.artifact = artifact ∧
      operation.original = original := by
  simp only [build] at h
  split_ifs at h
  cases h
  exact ⟨rfl, rfl, rfl, rfl⟩

theorem same_of_readArtifact {value : Json} {artifact : ArtifactMetadata}
    (h : RestoreOperation.readArtifact value = .ok (some artifact)) :
    Json.Same value (.obj [("sha256", .str artifact.sha256), ("size", .int artifact.size)]) := by
  simp only [RestoreOperation.readArtifact] at h
  split at h
  · cases h
  simp only [bind_eq_ok, readObject_eq_ok, exists_unit, demand_eq_ok, ofPython_eq_ok,
    pure_eq_ok, Except.ok.injEq, Option.some.injEq] at h
  obtain ⟨fields, rfl, hnames, found, hbuild, rfl⟩ := h
  obtain ⟨hsha, hsize⟩ := ArtifactMetadata.build_eq_ok hbuild
  refine Json.same_obj.mpr ⟨sameKeys_iff.mp hnames, ?_⟩
  simp [Fields.keys, hsha, hsize]

theorem readArtifact_eq_none {value : Json} (h : RestoreOperation.readArtifact value = .ok none) :
    value = .null := by
  simp only [RestoreOperation.readArtifact] at h
  split at h
  · assumption
  · simp [bind_eq_ok] at h

/-- What an operation was read from is the same as its JSON value unless it has an artifact that
is `null`. -/
theorem same_iff_of_fromDict {value : Json} {operation : HeldOperation}
    (h : fromDict value = .ok operation) :
    Json.Same value operation.toDict ↔ hasNull value "artifact" = false := by
  simp only [fromDict, bind_eq_ok, readObject_eq_ok, exists_unit, demand_eq_ok,
    convertError_eq_ok, ofPython_eq_ok, validateRelativePath_eq_ok] at h
  obtain ⟨fields, rfl, hnames, action, haction, artifact, hartifact, original, horiginal, path,
    ⟨text, htext, -, hpath⟩, hbuild⟩ := h
  obtain ⟨rfl, rfl, rfl, rfl⟩ := build_eq_ok hbuild
  have hpath_text : operation.path.value = text := by simpa using List.find?_some hpath
  subst hpath_text
  have haction_text := readEnum_eq_ok haction
  have hstate := HeldFileState.same_of_fromDict horiginal
  obtain ⟨path, action, artifact, original, hagrees⟩ := operation
  cases artifact with
  | none =>
    have hnull := readArtifact_eq_none hartifact
    rw [toDict, Json.same_obj]
    constructor
    · rintro ⟨hkeys, -⟩
      have habsent : "artifact" ∉ fields.keys := by
        rw [hkeys]
        simp [Fields.keys]
      simp [hasNull, habsent]
    · intro hclosed
      have habsent : "artifact" ∉ fields.keys := by simpa [hasNull, hnull] using hclosed
      have hthree : sameKeys fields ["path", "action", "original"] = true := by
        rcases Bool.or_eq_true _ _ ▸ hnames with hthree | hfour
        · exact hthree
        · exact absurd ((sameKeys_iff.mp hfour "artifact").mpr (by simp)) habsent
      refine ⟨sameKeys_iff.mp hthree, ?_⟩
      simp [Fields.keys, htext, haction_text, hstate]
  | some artifact =>
    have hsame := same_of_readArtifact hartifact
    obtain ⟨inner, hinner, -⟩ := Json.same_obj_iff.mp hsame
    have hpresent : "artifact" ∈ fields.keys := by
      by_contra habsent
      rw [Fields.get_of_not_mem habsent] at hinner
      cases hinner
    have hfour : sameKeys fields ["path", "action", "original", "artifact"] = true := by
      rcases Bool.or_eq_true _ _ ▸ hnames with hthree | hfour
      · have hmem := (sameKeys_iff.mp hthree "artifact").mp hpresent
        simp at hmem
      · exact hfour
    refine iff_of_true ?_ (by simp [hasNull, hinner])
    rw [toDict, Json.same_obj]
    refine ⟨sameKeys_iff.mp hfour, ?_⟩
    simp [Fields.keys, htext, haction_text, hstate, hsame]

end HeldOperation

end AtlasOS.Restore
