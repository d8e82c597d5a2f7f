import AtlasOS.Repository.Porcelain
import AtlasOS.Worker.RunnerResults

/-!
# Three readers of the status

The two loops of the inspector and the one of the worker read the same entries. They
differ in what they keep of an entry and in what they refuse: the worker keeps the former
path too, and only takes an output that was read whole, that ends with a NUL, and whose
paths are in the supported scope.
-/

namespace AtlasOS.Repository

open GitInspector Worker

/-! ## The inspector reads entries -/

/-- The lists with an entry. -/
def StatusLists.enter (lists : StatusLists) (e : Entry) : StatusLists :=
  lists.add e.index_status e.worktree_status e.path

theorem parseStatusFrom_eq (lists : StatusLists) (fields : List (List Char)) :
    parseStatusFrom lists fields =
      (readEntries fields).map fun entries => entries.foldl StatusLists.enter lists := by
  induction fields using readEntries.induct generalizing lists with
  | case1 => rfl
  | case2 fields ih => exact ih lists
  | case3 record fields hne hparts =>
    rw [parseStatusFrom.eq_def, readEntries.eq_def]
    simp [hparts, Except.map]
  | case4 record hne x y path hparts hrenamed =>
    rw [parseStatusFrom.eq_def, readEntries.eq_def]
    simp [hparts, hrenamed, Except.map]
  | case5 record hne x y path hparts hrenamed fields =>
    rw [parseStatusFrom.eq_def, readEntries.eq_def]
    simp [hparts, hrenamed, Except.map]
  | case6 record hne x y path hparts hrenamed source fields hsource ih =>
    rw [parseStatusFrom.eq_def, readEntries.eq_def]
    simp only [hparts, hrenamed, if_true]
    rw [ih]
    cases readEntries fields <;> rfl
  | case7 record hne x y path fields hparts hrenamed ih =>
    rw [parseStatusFrom.eq_def, readEntries.eq_def]
    simp only [hparts, if_neg hrenamed]
    rw [ih]
    cases readEntries fields <;> rfl

theorem statusRecordsFrom_eq (fields : List (List Char)) :
    statusRecordsFrom fields = (readEntries fields).map (List.map Entry.record) := by
  induction fields using readEntries.induct with
  | case1 => rfl
  | case2 fields ih => exact ih
  | case3 record fields hne hparts =>
    rw [statusRecordsFrom.eq_def, readEntries.eq_def]
    simp [hparts, Except.map]
  | case4 record hne x y path hparts hrenamed =>
    rw [statusRecordsFrom.eq_def, readEntries.eq_def]
    simp [hparts, hrenamed, Except.map]
  | case5 record hne x y path hparts hrenamed fields =>
    rw [statusRecordsFrom.eq_def, readEntries.eq_def]
    simp [hparts, hrenamed, Except.map]
  | case6 record hne x y path hparts hrenamed source fields hsource ih =>
    rw [statusRecordsFrom.eq_def, readEntries.eq_def]
    simp only [hparts, hrenamed, if_true]
    rw [ih]
    cases readEntries fields <;> rfl
  | case7 record hne x y path fields hparts hrenamed ih =>
    rw [statusRecordsFrom.eq_def, readEntries.eq_def]
    simp only [hparts, if_neg hrenamed]
    rw [ih]
    cases readEntries fields <;> rfl

/-- A list of paths takes the path of a record, unless it is left out. -/
theorem mem_paths_add {lists : StatusLists} {x y : Char} {path name : List Char} :
    name ∈ (lists.add x y path).paths ↔
      name ∈ lists.paths ∨ (Entry.marked ⟨x, y, path, none⟩ = true ∧ name = path) := by
  unfold StatusLists.add StatusLists.paths Entry.marked
  split_ifs <;> simp_all <;> tauto

theorem mem_paths_foldl {lists : StatusLists} {entries : List Entry} {name : List Char} :
    name ∈ (entries.foldl StatusLists.enter lists).paths ↔
      name ∈ lists.paths ∨ ∃ e ∈ entries, e.marked = true ∧ name = e.path := by
  induction entries generalizing lists with
  | nil => simp
  | cons e entries ih =>
    have hmarked : Entry.marked ⟨e.index_status, e.worktree_status, e.path, none⟩ = e.marked := rfl
    rw [List.foldl_cons, ih, StatusLists.enter, mem_paths_add, hmarked]
    simp only [List.mem_cons, exists_eq_or_imp, or_assoc]

/-- The paths that `_parse_status` lists are those of the entries that tell a change. -/
theorem parseStatus_eq_ok {output : String} {lists : StatusLists}
    (h : parseStatus output = .ok lists) :
    ∃ entries, readEntries (output.toList.splitOn '\x00') = .ok entries ∧
      statusRecords output = .ok (entries.map Entry.record) ∧
      ∀ name, name ∈ lists.paths ↔ ∃ e ∈ entries, e.marked = true ∧ name = e.path := by
  rw [parseStatus, parseStatusFrom_eq] at h
  cases hread : readEntries (output.toList.splitOn '\x00') with
  | error error => simp [hread, Except.map] at h
  | ok entries =>
    rw [hread] at h
    cases h
    refine ⟨entries, rfl, ?_, fun name => ?_⟩
    · rw [statusRecords, statusRecordsFrom_eq, hread]
      rfl
    · rw [mem_paths_foldl]
      simp [StatusLists.paths]

/-- Both loops of the inspector refuse the same outputs, in the same way. -/
theorem parseStatus_eq_error {output : String} {error : InspectionError} :
    parseStatus output = .error error ↔ statusRecords output = .error error := by
  rw [parseStatus, parseStatusFrom_eq, statusRecords, statusRecordsFrom_eq]
  cases readEntries (output.toList.splitOn '\x00') <;> simp [Except.map]

/-! ## What Git prints -/

/-- The letters of an entry that is printed without ignored files. -/
def statusLetters : List Char := [' ', 'M', 'T', 'A', 'D', 'R', 'C', 'U', '?']

/-- An entry as it is printed: both letters are question marks or none is, one of them tells a
change, and the former path is there when a letter announces it. -/
structure Printed (e : Entry) : Prop where
  index_status : e.index_status ∈ statusLetters
  worktree_status : e.worktree_status ∈ statusLetters
  untracked : e.index_status = '?' ↔ e.worktree_status = '?'
  changed : ¬(e.index_status = ' ' ∧ e.worktree_status = ' ')
  path : e.path ≠ [] ∧ '\x00' ∉ e.path
  source : ∀ source ∈ e.source, source ≠ [] ∧ '\x00' ∉ source
  renamed : e.source.isSome = renamed e.index_status e.worktree_status

/-- The output of `git status --porcelain=v1 -z` for entries. -/
def statusOutput (entries : List Entry) : String :=
  String.ofList ((entries.flatMap Entry.fields).flatMap (· ++ ['\x00']))

theorem Printed.marked {e : Entry} (h : Printed e) : e.marked = true := by
  have huntracked := h.untracked
  have hchanged := h.changed
  simp only [Entry.marked, List.mem_cons, List.not_mem_nil, or_false, decide_eq_true_eq]
  tauto

/-- A printed entry is read back. -/
theorem readEntries_fields {e : Entry} (h : Printed e) (fields : List (List Char)) :
    readEntries (e.fields ++ fields) = (readEntries fields).map (e :: ·) := by
  obtain ⟨x, y, path, source⟩ := e
  obtain ⟨-, -, -, -, hpath, hsource, hrenamed⟩ := h
  obtain ⟨c, cs, rfl⟩ := List.exists_cons_of_ne_nil hpath.1
  cases source with
  | none =>
    have hnot : renamed x y = false := hrenamed.symm
    rw [readEntries.eq_def]
    simp [Entry.fields, recordParts, hnot]
  | some source =>
    have hyes : renamed x y = true := hrenamed.symm
    obtain ⟨d, ds, rfl⟩ := List.exists_cons_of_ne_nil (hsource source rfl).1
    rw [readEntries.eq_def]
    simp [Entry.fields, recordParts, hyes]

theorem readEntries_flatMap {entries : List Entry} (h : ∀ e ∈ entries, Printed e) :
    readEntries (entries.flatMap Entry.fields ++ [[]]) = .ok entries := by
  induction entries with
  | nil => rfl
  | cons e entries ih =>
    rw [List.forall_mem_cons] at h
    rw [List.flatMap_cons, List.append_assoc, readEntries_fields h.1, ih h.2]
    rfl

theorem splitOn_flatMap {fields : List (List Char)} (h : ∀ field ∈ fields, '\x00' ∉ field) :
    (fields.flatMap (· ++ ['\x00'])).splitOn '\x00' = fields ++ [[]] := by
  induction fields with
  | nil => rfl
  | cons field fields ih =>
    rw [List.forall_mem_cons] at h
    rw [List.flatMap_cons, List.append_assoc, List.singleton_append,
      List.splitOn_append_cons_self_of_not_mem h.1, ih h.2]
    rfl

theorem Printed.not_mem_fields {e : Entry} (h : Printed e) : ∀ field ∈ e.fields, '\x00' ∉ field := by
  have hletter {c : Char} (hc : c ∈ statusLetters) : '\x00' ≠ c := by
    rintro rfl
    revert hc
    decide
  intro field hfield
  rcases List.mem_cons.mp hfield with rfl | hfield
  · simp [hletter h.index_status, hletter h.worktree_status, h.path.2]
  · exact (h.source field (Option.mem_toList.mp hfield)).2

/-- The fields of an output are those of its entries. -/
theorem splitOn_statusOutput {entries : List Entry} (h : ∀ e ∈ entries, Printed e) :
    (statusOutput entries).toList.splitOn '\x00' = entries.flatMap Entry.fields ++ [[]] := by
  rw [statusOutput, String.toList_ofList, splitOn_flatMap]
  intro field hfield
  obtain ⟨e, he, hfield⟩ := List.mem_flatMap.mp hfield
  exact (h e he).not_mem_fields field hfield

theorem readEntries_statusOutput {entries : List Entry} (h : ∀ e ∈ entries, Printed e) :
    readEntries ((statusOutput entries).toList.splitOn '\x00') = .ok entries := by
  rw [splitOn_statusOutput h, readEntries_flatMap h]

/-! ## The worker -/

/-- The fields that are read as entries, and not as the former path of one. -/
def entryFields : List (List Char) → List (List Char)
  | [] => []
  | record :: fields =>
      match recordParts record, fields with
      | none, fields => record :: entryFields fields
      | some (x, y, _), fields =>
          if renamed x y then
            match fields with
            | [] => [record]
            | _ :: fields => record :: entryFields fields
          else record :: entryFields fields

/-- The worker compares bytes where the inspector compares characters; the two first characters
of an entry are one byte each. -/
def AsciiLetters (fields : List (List Char)) : Prop :=
  ∀ field ∈ entryFields fields, ∀ c ∈ field.take 2, c.utf8Size = 1

theorem mem_entryFields_head {record : List Char} {fields : List (List Char)} :
    record ∈ entryFields (record :: fields) := by
  rw [entryFields.eq_def]
  dsimp only
  split
  · exact List.mem_cons_self
  · split_ifs
    · split <;> exact List.mem_cons_self
    · exact List.mem_cons_self

/-- With such letters the worker takes a field apart as the inspector does. -/
theorem statusRecord_eq {record : List Char} (h : ∀ c ∈ record.take 2, c.utf8Size = 1) :
    statusRecord record =
      (recordParts record).map fun parts => (renamed parts.1 parts.2.1, parts.2.2) := by
  match record, h with
  | [], _ => rfl
  | [x], h => simp [statusRecord, recordParts]
  | [x, y], h => simp [statusRecord, recordParts, h x]
  | [x, y, z], h =>
    have hx : x.utf8Size = 1 := h x (by simp)
    simp [statusRecord, recordParts, hx]
  | x :: y :: z :: c :: path, h =>
    have hx : x.utf8Size = 1 := h x (by simp)
    have hy : y.utf8Size = 1 := h y (by simp)
    by_cases hz : z = ' '
    · subst hz
      simp [statusRecord, recordParts, hx, hy, renamed, isRename]
    · simp [statusRecord, recordParts, hx, hz]

/-- The last NUL ends no entry of its own. -/
theorem readEntries_append_nil (fields : List (List Char)) :
    readEntries (fields ++ [[]]) = readEntries fields := by
  induction fields using readEntries.induct with
  | case1 => rfl
  | case2 fields ih => exact ih
  | case3 record fields hne hparts =>
    rw [List.cons_append, readEntries.eq_def, readEntries.eq_def (record :: fields)]
    simp [hparts]
  | case4 record hne x y path hparts hrenamed =>
    rw [List.cons_append, readEntries.eq_def, readEntries.eq_def [record]]
    simp [hparts, hrenamed]
  | case5 record hne x y path hparts hrenamed fields =>
    rw [List.cons_append, readEntries.eq_def, readEntries.eq_def (record :: [] :: fields)]
    simp [hparts, hrenamed]
  | case6 record hne x y path hparts hrenamed source fields hsource ih =>
    rw [List.cons_append, readEntries.eq_def, readEntries.eq_def (record :: source :: fields)]
    simp only [hparts, hrenamed, if_true, List.cons_append, ih]
  | case7 record hne x y path fields hparts hrenamed ih =>
    rw [List.cons_append, readEntries.eq_def, readEntries.eq_def (record :: fields)]
    simp only [hparts, if_neg hrenamed, ih]

/-- Each entry that is read has a path, and a former path that is not empty. -/
theorem names_ne_nil {fields : List (List Char)} {entries : List Entry}
    (h : readEntries fields = .ok entries) : ∀ e ∈ entries, ∀ name ∈ e.names, name ≠ [] := by
  have hparts_ne {record path : List Char} {x y : Char}
      (hparts : recordParts record = some (x, y, path)) : path ≠ [] := by
    unfold recordParts at hparts
    split at hparts
    · cases hparts
      exact List.cons_ne_nil _ _
    · cases hparts
  induction fields using readEntries.induct generalizing entries with
  | case1 =>
    cases h
    simp
  | case2 fields ih => exact ih h
  | case3 record fields hne hparts =>
    rw [readEntries.eq_def] at h
    simp [hparts] at h
  | case4 record hne x y path hparts hrenamed =>
    rw [readEntries.eq_def] at h
    simp [hparts, hrenamed] at h
  | case5 record hne x y path hparts hrenamed fields =>
    rw [readEntries.eq_def] at h
    simp [hparts, hrenamed] at h
  | case6 record hne x y path hparts hrenamed source fields hsource ih =>
    rw [readEntries.eq_def] at h
    simp only [hparts, hrenamed, if_true] at h
    obtain ⟨later, hlater, rfl⟩ := map_eq_ok.mp h
    rw [List.forall_mem_cons]
    refine ⟨?_, ih hlater⟩
    simp only [Entry.names, Option.toList_some, List.forall_mem_cons]
    exact ⟨hparts_ne hparts, hsource, by simp⟩
  | case7 record hne x y path fields hparts hrenamed ih =>
    rw [readEntries.eq_def] at h
    simp only [hparts, if_neg hrenamed] at h
    obtain ⟨later, hlater, rfl⟩ := map_eq_ok.mp h
    rw [List.forall_mem_cons]
    refine ⟨?_, ih hlater⟩
    simp only [Entry.names, Option.toList_none, List.forall_mem_cons]
    exact ⟨hparts_ne hparts, by simp⟩

/-- The names of the worker are the paths and the former paths of the entries, which it reads
when no field is empty and each name is supported. -/
theorem statusNames_iff {fields names : List (List Char)} (hascii : AsciiLetters fields) :
    statusNames fields = .ok names ∧ (∀ name ∈ names, supportedName name = true) ↔
      ∃ entries, readEntries fields = .ok entries ∧ [] ∉ entryFields fields ∧
        names = entries.flatMap Entry.names ∧ ∀ name ∈ names, supportedName name = true := by
  induction fields using readEntries.induct generalizing names with
  | case1 =>
    constructor
    · rintro ⟨hnames, hsupported⟩
      cases hnames
      exact ⟨[], rfl, List.not_mem_nil, rfl, hsupported⟩
    · rintro ⟨entries, hread, -, rfl, hsupported⟩
      cases hread
      exact ⟨rfl, hsupported⟩
  | case2 fields ih =>
    have hstatus : statusNames ([] :: fields) = .error (.workspace "invalid repository status") := by
      rw [statusNames.eq_def]
      rfl
    have hmem : [] ∈ entryFields ([] :: fields) := mem_entryFields_head
    simp [hstatus, hmem]
  | case3 record fields hne hparts =>
    have hstatus := statusRecord_eq (hascii record mem_entryFields_head)
    rw [statusNames.eq_def, readEntries.eq_def]
    simp [hstatus, hparts]
  | case4 record hne x y path hparts hrenamed =>
    have hstatus := statusRecord_eq (hascii record mem_entryFields_head)
    rw [statusNames.eq_def, readEntries.eq_def]
    simp [hstatus, hparts, hrenamed]
  | case5 record hne x y path hparts hrenamed fields =>
    have hstatus := statusRecord_eq (hascii record mem_entryFields_head)
    rw [statusNames.eq_def, readEntries.eq_def]
    simp only [hstatus, hparts, hrenamed, Option.map_some, bind_eq_ok, if_true]
    constructor
    · rintro ⟨⟨later, -, hnames⟩, hsupported⟩
      cases hnames
      have hnil := hsupported [] (by simp)
      cases hnil
    · rintro ⟨entries, hread, -⟩
      cases hread
  | case6 record hne x y path hparts hrenamed source fields hsource ih =>
    have hstatus := statusRecord_eq (hascii record mem_entryFields_head)
    have hfields : entryFields (record :: source :: fields) = record :: entryFields fields := by
      rw [entryFields.eq_def]
      simp [hparts, hrenamed]
    have hlater : AsciiLetters fields := fun field hfield =>
      hascii field (hfields ▸ List.mem_cons_of_mem record hfield)
    rw [statusNames.eq_def, readEntries.eq_def, hfields]
    simp only [hstatus, hparts, hrenamed, Option.map_some, bind_eq_ok, if_true]
    constructor
    · rintro ⟨⟨later, hlaterNames, hnames⟩, hsupported⟩
      cases hnames
      simp only [List.forall_mem_cons] at hsupported
      obtain ⟨entries, hread, hnil, rfl, -⟩ := (ih hlater).mp ⟨hlaterNames, hsupported.2.2⟩
      refine ⟨_, by rw [hread]; rfl, ?_, rfl, by simpa [Entry.names] using hsupported⟩
      rw [List.mem_cons, not_or]
      exact ⟨Ne.symm hne, hnil⟩
    · rintro ⟨entries, hread, hnil, rfl, hsupported⟩
      obtain ⟨later, hreadLater, rfl⟩ := map_eq_ok.mp hread
      rw [List.mem_cons, not_or] at hnil
      simp only [List.flatMap_cons, Entry.names, Option.toList_some, List.cons_append,
        List.nil_append, List.forall_mem_cons] at hsupported
      have hrest := (ih hlater).mpr ⟨later, hreadLater, hnil.2, rfl, hsupported.2.2⟩
      exact ⟨⟨_, hrest.1, rfl⟩, by simpa [Entry.names] using hsupported⟩
  | case7 record hne x y path fields hparts hrenamed ih =>
    have hstatus := statusRecord_eq (hascii record mem_entryFields_head)
    have hfields : entryFields (record :: fields) = record :: entryFields fields := by
      rw [entryFields.eq_def]
      simp [hparts, hrenamed]
    have hlater : AsciiLetters fields := fun field hfield =>
      hascii field (hfields ▸ List.mem_cons_of_mem record hfield)
    rw [statusNames.eq_def, readEntries.eq_def, hfields]
    rw [Bool.not_eq_true] at hrenamed
    simp only [hstatus, hparts, hrenamed, Option.map_some, bind_eq_ok, Bool.false_eq_true, if_false]
    constructor
    · rintro ⟨⟨later, hlaterNames, hnames⟩, hsupported⟩
      cases hnames
      rw [List.forall_mem_cons] at hsupported
      obtain ⟨entries, hread, hnil, rfl, -⟩ := (ih hlater).mp ⟨hlaterNames, hsupported.2⟩
      refine ⟨_, by rw [hread]; rfl, ?_, rfl, by simpa [Entry.names] using hsupported⟩
      rw [List.mem_cons, not_or]
      exact ⟨Ne.symm hne, hnil⟩
    · rintro ⟨entries, hread, hnil, rfl, hsupported⟩
      obtain ⟨later, hreadLater, rfl⟩ := map_eq_ok.mp hread
      rw [List.mem_cons, not_or] at hnil
      simp only [List.flatMap_cons, Entry.names, Option.toList_none, List.cons_append,
        List.nil_append, List.forall_mem_cons] at hsupported
      have hrest := (ih hlater).mpr ⟨later, hreadLater, hnil.2, rfl, hsupported.2⟩
      exact ⟨⟨_, hrest.1, rfl⟩, by simpa [Entry.names] using hsupported⟩

/-- A path in the supported scope of the worker. -/
def Supported (path : Path) : Prop :=
  path.text.toList.head? ≠ some '/' ∧ ['.', '.'] ∉ pathParts path.text.toList ∧
    '\\' ∉ path.text.toList

theorem toList_fieldPath (name : List Char) :
    (fieldPath name).text.toList = normalizeChars name := by
  simp [fieldPath, Path.ofString, normalizePath]

/-- What the worker asks of a name is a condition on the path that it names. -/
theorem supportedName_iff {name : List Char} (hne : name ≠ []) :
    supportedName name = true ↔ Supported (fieldPath name) := by
  simp only [supportedName, Supported, toList_fieldPath, Bool.and_eq_true, Bool.not_eq_true',
    decide_eq_true_eq, List.contains_eq_mem, decide_eq_false_iff_not, ne_eq, hne,
    not_false_eq_true, true_and]
  by_cases habsolute : name.head? = some '/'
  · simp [habsolute, normalizeChars_absolute habsolute]
  · obtain ⟨hhead, hparts⟩ := normalizeChars_relative habsolute
    have hback : '\\' ∈ normalizeChars name ↔ '\\' ∈ name :=
      ⟨fun h => mem_of_mem_normalizeChars h (by decide) (by decide),
        fun h => mem_normalizeChars h (by decide) (by decide)⟩
    simp [habsolute, hhead, hparts, hback]

/-- What the worker makes of a status that was read whole. -/
def statusFiles (text : String) : Except RunnerError (List String) :=
  let records := text.toList.splitOn '\x00'
  if records.getLast? ≠ some [] then .error (.workspace "unterminated repository status")
  else do
    let names ← statusNames records.dropLast
    (if names.all supportedName then
      return ((names.map reported).dedup).insertionSort (· ≤ ·)
    else .error (.workspace "changed path escapes supported scope"))

/-- The output ends with a NUL, and no field that is read as an entry is empty. -/
structure Terminated (text : String) : Prop where
  last : (text.toList.splitOn '\x00').getLast? = some []
  entries : [] ∉ entryFields (text.toList.splitOn '\x00').dropLast

theorem readEntries_dropLast {fields : List (List Char)} (h : fields.getLast? = some []) :
    readEntries fields.dropLast = readEntries fields := by
  rw [← readEntries_append_nil, List.dropLast_append_getLast? [] h]

/-- The files of the worker are the paths and the former paths of the entries. -/
theorem statusFiles_iff {text : String} {files : List String}
    (hascii : AsciiLetters (text.toList.splitOn '\x00').dropLast) :
    statusFiles text = .ok files ↔
      ∃ entries, readEntries (text.toList.splitOn '\x00') = .ok entries ∧ Terminated text ∧
        (∀ name ∈ entries.flatMap Entry.names, supportedName name = true) ∧
        files = ((entries.flatMap Entry.names).map reported).dedup.insertionSort (· ≤ ·) := by
  simp only [statusFiles]
  by_cases hlast : (text.toList.splitOn '\x00').getLast? = some []
  · simp only [hlast, ne_eq, not_true_eq_false, if_false, bind_eq_ok]
    constructor
    · rintro ⟨names, hnames, h⟩
      split_ifs at h with hsupported
      rw [List.all_eq_true] at hsupported
      obtain ⟨entries, hread, hnil, rfl, -⟩ := (statusNames_iff hascii).mp ⟨hnames, hsupported⟩
      rw [readEntries_dropLast hlast] at hread
      cases h
      exact ⟨entries, hread, ⟨hlast, hnil⟩, hsupported, rfl⟩
    · rintro ⟨entries, hread, ⟨-, hnil⟩, hsupported, rfl⟩
      rw [← readEntries_dropLast hlast] at hread
      have hnames := (statusNames_iff hascii).mpr ⟨entries, hread, hnil, rfl, hsupported⟩
      refine ⟨_, hnames.1, ?_⟩
      rw [if_pos (List.all_eq_true.mpr hsupported)]
      rfl
  · simp only [hlast, ne_eq, not_false_eq_true, if_true, false_iff, reduceCtorEq]
    rintro ⟨entries, -, hterminated, -⟩
    exact hlast hterminated.last

end AtlasOS.Repository
