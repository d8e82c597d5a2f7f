import AtlasOS.Patches.Status

/-!
# When the status map is exact

The map has the paths of the entries for its keys, and their statuses for its values,
unless the former path of a renamed file stands in the way: read as an entry, it puts a
key into the map that is no path of the checkout, or overwrites that of another entry.
-/

namespace AtlasOS.Patches

open Repository

variable {sha256 : List UInt8 → String} {tree : Checkout} {entries : List Entry}

/-- The field of an entry that holds its letters and its path. -/
def entryRecord (e : Entry) : List Char := e.index_status :: e.worktree_status :: ' ' :: e.path

@[simp] theorem recordPath_entryRecord (e : Entry) :
    recordPath (entryRecord e) = String.ofList e.path := rfl

theorem mem_fields {e : Entry} {field : List Char} :
    field ∈ e.fields ↔ field = entryRecord e ∨ field ∈ e.source := by
  rw [Entry.fields, List.mem_cons, Option.mem_toList, entryRecord, Option.mem_def]

theorem nil_not_mem_fields (h : ∀ e ∈ entries, Printed e) :
    [] ∉ entries.flatMap Entry.fields := by
  intro hmem
  obtain ⟨e, he, hfield⟩ := List.mem_flatMap.mp hmem
  rcases mem_fields.mp hfield with hrecord | hsource
  · cases hrecord
  · exact ((h e he).source [] hsource).1 rfl

/-- What the checkout answers for a listing of entries. -/
structure Lists (tree : Checkout) (entries : List Entry) : Prop where
  printed : ∀ e ∈ entries, Printed e
  status : tree.status = some (utf8 (statusOutput entries))

/-- The map that `_status` makes of the fields for entries. -/
def fieldMap (sha256 : List UInt8 → String) (tree : Checkout) (fields : List (List Char)) :
    Dict String :=
  Dict.ofItems (fields.map fun field => (recordPath field, valueOf sha256 tree field))

/-- The map from the paths of entries to their statuses. -/
def entryMap (sha256 : List UInt8 → String) (tree : Checkout) (entries : List Entry) :
    Dict String :=
  fieldMap sha256 tree (entries.map entryRecord)

theorem status_eq_ok (h : Lists tree entries) {result : Dict String} :
    status sha256 tree = .ok result ↔
      Accepted tree (entries.flatMap Entry.fields) ∧
        result = fieldMap sha256 tree (entries.flatMap Entry.fields) := by
  simp only [status, h.status, decodeUtf8_utf8, splitOn_statusOutput h.printed,
    statusFrom_eq_ok (nil_not_mem_fields h.printed)]
  rfl

/-- The last of the fields whose text after three characters is a path. -/
def lastField (fields : List (List Char)) (path : String) : Option (List Char) :=
  fields.reverse.find? fun field => decide (recordPath field = path)

theorem get_fieldMap (fields : List (List Char)) (path : String) :
    (fieldMap sha256 tree fields).get path = (lastField fields path).map (valueOf sha256 tree) :=
  Dict.get_ofItems_map_value _ _ _ _

theorem recordPath_lastField {fields : List (List Char)} {path : String} {field : List Char}
    (h : lastField fields path = some field) : field ∈ fields ∧ recordPath field = path := by
  constructor
  · exact List.mem_reverse.mp (List.mem_of_find?_eq_some h)
  · exact of_decide_eq_true (List.find?_some h :)

theorem isSome_lastField {fields : List (List Char)} {path : String} :
    (lastField fields path).isSome = true ↔ ∃ field ∈ fields, recordPath field = path := by
  simp [lastField, List.find?_isSome]

/-- Two fields with the same path and the same value are the same. -/
theorem valueOf_inj {field field' : List Char} (hpath : recordPath field = recordPath field')
    (hvalue : valueOf sha256 tree field = valueOf sha256 tree field') : field = field' := by
  have hdrop : field.drop 3 = field'.drop 3 := by
    simpa [recordPath] using congrArg String.toList hpath
  have htake : field.take 3 = field'.take 3 := by
    simp only [valueOf, recordValue, hpath] at hvalue
    have hchars := congrArg String.toList hvalue
    simp only [String.toList_append, String.toList_ofList, List.append_cancel_right_eq] at hchars
    exact hchars
  rw [← List.take_append_drop 3 field, htake, hdrop, List.take_append_drop]

/-- The paths that are the keys of a map. -/
def KeysAre (map : Dict String) (paths : List (List Char)) : Prop :=
  ∀ path, (map.get path).isSome = true ↔ ∃ name ∈ paths, String.ofList name = path

theorem keysAre_fieldMap {fields paths : List (List Char)} :
    KeysAre (fieldMap sha256 tree fields) paths ↔
      ∀ path, (∃ field ∈ fields, recordPath field = path) ↔
        ∃ name ∈ paths, String.ofList name = path := by
  simp only [KeysAre, get_fieldMap, Option.isSome_map, isSome_lastField]

/-- A former path does not bring in a key of its own when, without its first three characters, it
is the path of an entry. -/
def SourcesListed (entries : List Entry) : Prop :=
  ∀ e ∈ entries, ∀ source ∈ e.source, ∃ other ∈ entries, other.path = source.drop 3

theorem keysAre_paths_iff :
    KeysAre (fieldMap sha256 tree (entries.flatMap Entry.fields)) (entries.map Entry.path) ↔
      SourcesListed entries := by
  rw [keysAre_fieldMap]
  constructor
  · intro h e he source hsource
    have hfield : source ∈ entries.flatMap Entry.fields :=
      List.mem_flatMap.mpr ⟨e, he, mem_fields.mpr (.inr hsource)⟩
    obtain ⟨name, hname, heq⟩ := (h (recordPath source)).mp ⟨source, hfield, rfl⟩
    obtain ⟨other, hother, rfl⟩ := List.mem_map.mp hname
    exact ⟨other, hother, by simpa [recordPath] using congrArg String.toList heq⟩
  · intro h path
    constructor
    · rintro ⟨field, hfield, rfl⟩
      obtain ⟨e, he, hmem⟩ := List.mem_flatMap.mp hfield
      rcases mem_fields.mp hmem with rfl | hsource
      · exact ⟨e.path, List.mem_map_of_mem he, rfl⟩
      · obtain ⟨other, hother, heq⟩ := h e he field hsource
        exact ⟨other.path, List.mem_map_of_mem hother, by rw [heq, recordPath]⟩
    · rintro ⟨name, hname, rfl⟩
      obtain ⟨e, he, rfl⟩ := List.mem_map.mp hname
      exact ⟨entryRecord e, List.mem_flatMap.mpr ⟨e, he, mem_fields.mpr (.inl rfl)⟩, rfl⟩

/-- Nor does it leave one out, when the former paths count as listed: it is listed itself, without
its first three characters, and it is a key of the map. -/
def NamesListed (entries : List Entry) : Prop :=
  ∀ e ∈ entries, ∀ source ∈ e.source,
    (∃ other ∈ entries, source.drop 3 ∈ other.names) ∧
      ∃ field ∈ entries.flatMap Entry.fields, field.drop 3 = source

theorem keysAre_names_iff :
    KeysAre (fieldMap sha256 tree (entries.flatMap Entry.fields)) (entries.flatMap Entry.names) ↔
      NamesListed entries := by
  have hkey {field name : List Char} (h : recordPath field = String.ofList name) :
      field.drop 3 = name := by simpa [recordPath] using congrArg String.toList h
  rw [keysAre_fieldMap]
  constructor
  · intro h e he source hsource
    have hfield : source ∈ entries.flatMap Entry.fields :=
      List.mem_flatMap.mpr ⟨e, he, mem_fields.mpr (.inr hsource)⟩
    have hname : source ∈ entries.flatMap Entry.names :=
      List.mem_flatMap.mpr ⟨e, he, List.mem_cons_of_mem _ (Option.mem_toList.mpr hsource)⟩
    obtain ⟨name, hmem, heq⟩ := (h (recordPath source)).mp ⟨source, hfield, rfl⟩
    obtain ⟨field, hmem', heq'⟩ := (h (String.ofList source)).mpr ⟨source, hname, rfl⟩
    obtain ⟨other, hother, hmem⟩ := List.mem_flatMap.mp hmem
    exact ⟨⟨other, hother, hkey heq.symm ▸ hmem⟩, field, hmem', hkey heq'⟩
  · intro h path
    constructor
    · rintro ⟨field, hfield, rfl⟩
      obtain ⟨e, he, hmem⟩ := List.mem_flatMap.mp hfield
      rcases mem_fields.mp hmem with rfl | hsource
      · exact ⟨e.path, List.mem_flatMap.mpr ⟨e, he, List.mem_cons_self⟩, rfl⟩
      · obtain ⟨⟨other, hother, hname⟩, -⟩ := h e he field hsource
        exact ⟨field.drop 3, List.mem_flatMap.mpr ⟨other, hother, hname⟩, rfl⟩
    · rintro ⟨name, hname, rfl⟩
      obtain ⟨e, he, hmem⟩ := List.mem_flatMap.mp hname
      rcases List.mem_cons.mp hmem with rfl | hsource
      · exact ⟨entryRecord e, List.mem_flatMap.mpr ⟨e, he, mem_fields.mpr (.inl rfl)⟩, rfl⟩
      · obtain ⟨-, field, hfield, hdrop⟩ := h e he name (Option.mem_toList.mp hsource)
        exact ⟨field, hfield, by rw [recordPath, hdrop]⟩

/-- The last field of each path is the record of the last entry with the path. -/
def SourcesHarmless (entries : List Entry) : Prop :=
  ∀ e ∈ entries, ∀ source ∈ e.source,
    lastField (entries.flatMap Entry.fields) (recordPath source) =
      lastField (entries.map entryRecord) (recordPath source)

/-- Where no former path has a key, the last field with it is an entry's. -/
theorem lastField_of_no_source {path : String}
    (h : ∀ e ∈ entries, ∀ source ∈ e.source, recordPath source ≠ path) :
    lastField (entries.flatMap Entry.fields) path = lastField (entries.map entryRecord) path := by
  induction entries using List.reverseRecOn with
  | nil => rfl
  | append_singleton entries e ih =>
    have hrest := ih fun other hother => h other (List.mem_append_left _ hother)
    have hsource := h e (List.mem_append_right _ (List.mem_singleton_self e))
    simp only [lastField] at hrest ⊢
    rw [List.flatMap_append, List.flatMap_singleton, List.map_append, List.map_singleton,
      List.reverse_append, List.reverse_append, List.find?_append, List.find?_append, hrest,
      Entry.fields, List.reverse_cons, List.find?_append]
    have hnone : e.source.toList.reverse.find? (fun field => decide (recordPath field = path)) = none := by
      rw [List.find?_eq_none]
      intro field hfield
      rw [List.mem_reverse, Option.mem_toList] at hfield
      simpa using hsource field hfield
    rw [hnone]
    rfl

theorem fieldMap_eq_entryMap_iff :
    fieldMap sha256 tree (entries.flatMap Entry.fields) = entryMap sha256 tree entries ↔
      SourcesHarmless entries := by
  constructor
  · intro h e he source hsource
    have hget := congrArg (·.get (recordPath source)) h
    simp only [entryMap, get_fieldMap] at hget
    cases hfields : lastField (entries.flatMap Entry.fields) (recordPath source) with
    | none =>
      rw [hfields, Option.map_none, eq_comm, Option.map_eq_none_iff] at hget
      rw [hget]
    | some field =>
      rw [hfields, Option.map_some, eq_comm, Option.map_eq_some_iff] at hget
      obtain ⟨field', hfield', hvalue⟩ := hget
      have hpath := (recordPath_lastField hfields).2
      have hpath' := (recordPath_lastField hfield').2
      rw [hfield', valueOf_inj (hpath'.trans hpath.symm) hvalue]
  · intro h
    apply Dict.ext
    intro path
    rw [entryMap, get_fieldMap, get_fieldMap]
    by_cases hsource : ∃ e ∈ entries, ∃ source ∈ e.source, recordPath source = path
    · obtain ⟨e, he, source, hsource, rfl⟩ := hsource
      rw [h e he source hsource]
    · push Not at hsource
      rw [lastField_of_no_source hsource]

/-- What an entry tells of its path: the letters, and the fingerprint of the file and its staged
difference. -/
def entryStatus (sha256 : List UInt8 → String) (tree : Checkout) (e : Entry) : String :=
  valueOf sha256 tree (entryRecord e)

/-- The status of a path, by the last entry that has it. -/
def pathStatus (sha256 : List UInt8 → String) (tree : Checkout) (entries : List Entry)
    (path : String) : Option String :=
  (entries.reverse.find? fun e => decide (String.ofList e.path = path)).map (entryStatus sha256 tree)

theorem get_entryMap (path : String) :
    (entryMap sha256 tree entries).get path = pathStatus sha256 tree entries path := by
  rw [entryMap, get_fieldMap, lastField, ← List.map_reverse, List.find?_map, Option.map_map]
  rfl

/-- Without former paths nothing stands in the way. -/
theorem sourcesHarmless_of_none (h : ∀ e ∈ entries, e.source = none) : SourcesHarmless entries := by
  intro e he source hsource
  rw [h e he] at hsource
  cases hsource

/-- A checkout with a status, no files and nothing staged; Git refuses an empty pathspec. -/
def bareCheckout (entries : List Entry) : Checkout where
  status := some (utf8 (statusOutput entries))
  content _ := none
  staged path := if path = "" then none else some []

theorem lists_bareCheckout (h : ∀ e ∈ entries, Printed e) : Lists (bareCheckout entries) entries :=
  ⟨h, rfl⟩

/-- A modified file. -/
def modifiedEntry : Entry := ⟨' ', 'M', "a.txt".toList, none⟩

theorem printed_modifiedEntry : Printed modifiedEntry := by
  constructor
  · decide
  · decide
  · decide
  · decide
  · decide
  · rintro source ⟨⟩
  · decide

/-- A renamed file. -/
def renamedEntry : Entry := ⟨'R', ' ', "new.txt".toList, some "old.txt".toList⟩

theorem printed_renamedEntry : Printed renamedEntry := by
  constructor
  · decide
  · decide
  · decide
  · decide
  · decide
  · rintro source ⟨⟩
    decide
  · decide

end AtlasOS.Patches
