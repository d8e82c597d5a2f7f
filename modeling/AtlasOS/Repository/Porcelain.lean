import AtlasOS.Lib.Path
import AtlasOS.Lib.Utf8
import AtlasOS.Lib.Json

/-!
# The status of a repository

`git status --porcelain=v1 -z` writes one field for each entry, and a second one for
the former path of a renamed or copied file. Each field ends with a NUL. The entries
are what is read; the inspector goes through the fields twice, once for lists of paths
and once for records.
-/

namespace AtlasOS.Repository

/-- The exceptions of reading the status. -/
inductive InspectionError where
  /-- `Malformed Git status record: {record!r}` -/
  | malformedRecord (record : List Char)
  /-- `Malformed Git rename or copy status record` -/
  | malformedRename
  /-- `UnicodeDecodeError`, which is not handled. -/
  | unicodeDecodeError
  deriving DecidableEq

/-- The letters and the path of a field that has a blank after two letters and a path. -/
def recordParts : List Char → Option (Char × Char × List Char)
  | x :: y :: ' ' :: c :: path => some (x, y, c :: path)
  | _ => none

/-- Whether the letters announce a former path. -/
def renamed (x y : Char) : Bool := x ∈ ['R', 'C'] || y ∈ ['R', 'C']

/-! ## The inspector -/

/-- What `_parse_status` returns. -/
structure StatusLists where
  modified_files : List (List Char)
  staged_files : List (List Char)
  untracked_files : List (List Char)
  deriving DecidableEq

namespace StatusLists

/-- The lists with the path of one more record. -/
def add (lists : StatusLists) (x y : Char) (path : List Char) : StatusLists :=
  if x = '?' ∧ y = '?' then { lists with untracked_files := lists.untracked_files ++ [path] }
  else
    { lists with
      staged_files :=
        if x ∈ [' ', '?'] then lists.staged_files else lists.staged_files ++ [path]
      modified_files :=
        if y ∈ [' ', '?'] then lists.modified_files else lists.modified_files ++ [path] }

/-- All paths of the lists. -/
def paths (lists : StatusLists) : List (List Char) :=
  lists.modified_files ++ lists.staged_files ++ lists.untracked_files

end StatusLists

namespace GitInspector

/-- The loop of `_parse_status`, from one of its fields on. -/
def parseStatusFrom (lists : StatusLists) :
    List (List Char) → Except InspectionError StatusLists
  | [] => .ok lists
  | [] :: fields => parseStatusFrom lists fields
  | record :: fields =>
      match recordParts record, fields with
      | none, _ => .error (.malformedRecord record)
      | some (x, y, path), fields =>
          if renamed x y then
            match fields with
            | [] | [] :: _ => .error .malformedRename
            | _ :: fields => parseStatusFrom (lists.add x y path) fields
          else parseStatusFrom (lists.add x y path) fields

/-- `_parse_status` -/
def parseStatus (output : String) : Except InspectionError StatusLists :=
  parseStatusFrom ⟨[], [], []⟩ (output.toList.splitOn '\x00')

/-- One of the records of `_status_records`. -/
structure StatusRecord where
  index_status : Char
  worktree_status : Char
  path : Path
  rename_source : Option Path
  deriving DecidableEq

/-- The path that `Path` makes of a field. -/
def fieldPath (field : List Char) : Path := Path.ofString (String.ofList field)

/-- The loop of `_status_records`, from one of its fields on. -/
def statusRecordsFrom : List (List Char) → Except InspectionError (List StatusRecord)
  | [] => .ok []
  | [] :: fields => statusRecordsFrom fields
  | record :: fields =>
      match recordParts record, fields with
      | none, _ => .error (.malformedRecord record)
      | some (x, y, path), fields =>
          if renamed x y then
            match fields with
            | [] | [] :: _ => .error .malformedRename
            | source :: fields => do
                let records ← statusRecordsFrom fields
                return ⟨x, y, fieldPath path, some (fieldPath source)⟩ :: records
          else do
            let records ← statusRecordsFrom fields
            return ⟨x, y, fieldPath path, none⟩ :: records

/-- `_status_records` of an output -/
def statusRecords (output : String) : Except InspectionError (List StatusRecord) :=
  statusRecordsFrom (output.toList.splitOn '\x00')

/-- The line ends of a text that a process wrote, as `subprocess` changes them. -/
def universalNewlines : List Char → List Char
  | [] => []
  | '\r' :: '\n' :: text => '\n' :: universalNewlines text
  | '\r' :: text => '\n' :: universalNewlines text
  | c :: text => c :: universalNewlines text

/-- The `stdout` of `_run_git` when the command succeeds. -/
def gitOutput (bytes : List UInt8) : Except InspectionError String :=
  match decodeUtf8 bytes with
  | some text => .ok (String.ofList (universalNewlines text.toList))
  | none => .error .unicodeDecodeError

theorem universalNewlines_eq_self {text : List Char} (h : '\r' ∉ text) :
    universalNewlines text = text := by
  induction text using universalNewlines.induct with
  | case1 => rfl
  | case2 text ih => simp at h
  | case3 text hnext ih => simp at h
  | case4 c text hc hr ih =>
    rw [List.mem_cons, not_or] at h
    have hne : c ≠ '\r' := Ne.symm h.1
    rw [universalNewlines.eq_def]
    split
    · next heq => simp at heq
    · next heq => exact absurd (List.cons.inj heq).1 hne
    · next heq => exact absurd (List.cons.inj heq).1 hne
    · next heq =>
      obtain ⟨rfl, rfl⟩ := List.cons.inj heq
      rw [ih h.2]

end GitInspector

/-! ## Entries -/

/-- An entry of the status. -/
structure Entry where
  index_status : Char
  worktree_status : Char
  path : List Char
  /-- The former path of a renamed or copied file. -/
  source : Option (List Char)

namespace Entry

/-- The fields that are written for an entry. -/
def fields (e : Entry) : List (List Char) :=
  (e.index_status :: e.worktree_status :: ' ' :: e.path) :: e.source.toList

/-- The record that the inspector keeps. -/
def record (e : Entry) : GitInspector.StatusRecord :=
  ⟨e.index_status, e.worktree_status, GitInspector.fieldPath e.path,
    e.source.map GitInspector.fieldPath⟩

/-- Whether a letter tells that the path has changed, or both that it is untracked. -/
def marked (e : Entry) : Bool :=
  (e.index_status = '?' ∧ e.worktree_status = '?') ∨ e.index_status ∉ [' ', '?'] ∨
    e.worktree_status ∉ [' ', '?']

/-- The path, and the former path. -/
def names (e : Entry) : List (List Char) := e.path :: e.source.toList

end Entry

/-- The entries that are read from fields. -/
def readEntries : List (List Char) → Except InspectionError (List Entry)
  | [] => .ok []
  | [] :: fields => readEntries fields
  | record :: fields =>
      match recordParts record, fields with
      | none, _ => .error (.malformedRecord record)
      | some (x, y, path), fields =>
          if renamed x y then
            match fields with
            | [] | [] :: _ => .error .malformedRename
            | source :: fields => (readEntries fields).map (⟨x, y, path, some source⟩ :: ·)
          else (readEntries fields).map (⟨x, y, path, none⟩ :: ·)

end AtlasOS.Repository
