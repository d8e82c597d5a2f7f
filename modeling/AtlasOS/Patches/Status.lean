import AtlasOS.Lib.Dict
import AtlasOS.Repository.StatusReaders

/-!
# The status map of the patch applier

`_status` reads the status of a checkout into a map from paths to what is known of them.
It takes every field of the status for an entry, also the one with the former path of
a renamed file.
-/

namespace AtlasOS.Patches

open Repository

/-- The exceptions of the applier. -/
inductive PatchError where
  /-- `PatchApplicationError` -/
  | patchApplicationError (code : String)
  /-- `UnicodeDecodeError` -/
  | unicodeDecodeError
  /-- `subprocess.CalledProcessError` -/
  | calledProcessError
  | other (error : PyError)
  deriving DecidableEq

/-- What Git and the file system answer about a checkout. -/
structure Checkout where
  /-- The output of `git status`, when it succeeds. -/
  status : Option (List UInt8)
  /-- The bytes of a regular file. -/
  content : String → Option (List UInt8)
  /-- The output of `git diff --cached --binary -- path`, when it succeeds. -/
  staged : String → Option (List UInt8)

variable (sha256 : List UInt8 → String)

/-- The digest of a file, or that it is missing. -/
def fileDigest (tree : Checkout) (path : String) : String :=
  match tree.content path with
  | some bytes => sha256 bytes
  | none => "missing"

/-- `record[3:]` -/
def recordPath (record : List Char) : String := String.ofList (record.drop 3)

/-- The value for a record, whose path has the given staged difference. -/
def recordValue (tree : Checkout) (record : List Char) (staged : List UInt8) : String :=
  String.ofList (record.take 3) ++ ":" ++
    sha256 (utf8 (fileDigest sha256 tree (recordPath record)) ++ staged)

/-- The loop of `_status`, from one of its records on. -/
def statusFrom (tree : Checkout) (status : Dict String) :
    List (List Char) → Except PatchError (Dict String)
  | [] => .ok status
  | [] :: records => statusFrom tree status records
  | record :: records =>
      match tree.staged (recordPath record) with
      | none => .error .calledProcessError
      | some staged =>
          statusFrom tree (status.set (recordPath record) (recordValue sha256 tree record staged))
            records

/-- `_status` -/
def status (tree : Checkout) : Except PatchError (Dict String) :=
  match tree.status with
  | none => .error .calledProcessError
  | some bytes =>
      match decodeUtf8 bytes with
      | none => .error .unicodeDecodeError
      | some output => statusFrom sha256 tree ∅ (output.toList.splitOn '\x00')

/-- The paths whose value differs between two status maps. -/
def delta (baseline after : Dict String) : List String :=
  ((baseline.items ++ after.items).map Prod.fst).dedup.filter fun path =>
    baseline.get path ≠ after.get path

/-- `all(after.get(path) == status for path, status in baseline.items())` -/
def baselinePreserved (baseline after : Dict String) : Bool :=
  baseline.items.all fun item => after.get item.1 = some item.2

theorem mem_delta {baseline after : Dict String} {path : String} :
    path ∈ delta baseline after ↔ baseline.get path ≠ after.get path := by
  simp only [delta, List.mem_filter, List.mem_dedup, List.map_append, List.mem_append,
    decide_eq_true_eq, and_iff_right_iff_imp]
  intro hne
  have hmem {d : Dict String} {value : String} (h : d.get path = some value) :
      path ∈ d.items.map Prod.fst := List.mem_map.mpr ⟨_, Dict.mem_items.mpr h, rfl⟩
  cases hbaseline : baseline.get path with
  | some value => exact .inl (hmem hbaseline)
  | none =>
    cases hafter : after.get path with
    | some value => exact .inr (hmem hafter)
    | none => exact absurd (hbaseline.trans hafter.symm) hne

theorem baselinePreserved_iff {baseline after : Dict String} :
    baselinePreserved baseline after = true ↔
      ∀ path value, baseline.get path = some value → after.get path = some value := by
  simp only [baselinePreserved, List.all_eq_true, decide_eq_true_eq, Prod.forall, Dict.mem_items]

/-! ## What the loop makes of records -/

variable {sha256} {tree : Checkout}

/-- The value of a record whose staged difference Git has answered. -/
def valueOf (sha256 : List UInt8 → String) (tree : Checkout) (record : List Char) : String :=
  recordValue sha256 tree record ((tree.staged (recordPath record)).getD [])

/-- Git answers for the path of each record. -/
def Accepted (tree : Checkout) (records : List (List Char)) : Prop :=
  ∀ record ∈ records, (tree.staged (recordPath record)).isSome = true

/-- The map holds the value of each record, a later one winning. -/
theorem statusFrom_eq_ok {records : List (List Char)} {d result : Dict String}
    (hne : [] ∉ records) :
    statusFrom sha256 tree d (records ++ [[]]) = .ok result ↔
      Accepted tree records ∧
        result = (records.map fun record => (recordPath record, valueOf sha256 tree record)).foldl
          (fun d item => d.set item.1 item.2) d := by
  induction records generalizing d with
  | nil =>
    have haccepted : Accepted tree [] := nofun
    simp only [List.nil_append, statusFrom, haccepted, true_and, List.map_nil, List.foldl_nil,
      Except.ok.injEq]
    exact eq_comm
  | cons record records ih =>
    rw [List.mem_cons, not_or] at hne
    obtain ⟨c, cs, rfl⟩ := List.exists_cons_of_ne_nil (Ne.symm hne.1)
    rw [List.cons_append, statusFrom.eq_def, Accepted, List.forall_mem_cons, List.map_cons,
      List.foldl_cons]
    cases hstaged : tree.staged (recordPath (c :: cs)) with
    | none => simp [hstaged]
    | some staged =>
      simp only [hstaged, ih hne.2, Option.isSome_some, true_and, valueOf, Option.getD_some, Accepted]

end AtlasOS.Patches
