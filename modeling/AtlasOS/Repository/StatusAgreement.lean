import AtlasOS.Repository.StatusReaders
import AtlasOS.Worker.OutputCapture

/-!
# Where the readers agree

The inspector reads the output of Git as text, the worker captures its first mebibyte
and decodes what it captured. On an output that the worker takes, its files are the
paths of the inspector's records together with the former paths in them.
-/

namespace AtlasOS.Repository

open GitInspector Worker

variable {d : Decoder} {chunks stderr : List (List UInt8)} {text : String} {files : List String}

/-- A status that is no text, or too long, is refused. -/
theorem changedFiles_truncated (hd : d.Faithful)
    (h : ¬(chunks.flatten.length ≤ MAX_CAPTURE_BYTES ∧ decodeUtf8 chunks.flatten ≠ none)) :
    changedFiles d (.finished 0 chunks stderr) =
      .error (.workspace "unsupported repository status") := by
  have htruncated : ((Capture.ofChunks MAX_CAPTURE_BYTES chunks).output d).truncated = true := by
    rw [← truncated_output hd, Bool.not_eq_false] at h
    exact h
  simp only [changedFiles, runCommand, ok_bind, htruncated, or_true, if_true]

/-- Otherwise it is the text that is read. -/
theorem changedFiles_text (hd : d.Faithful) (h : chunks.flatten = utf8 text)
    (hsize : text.utf8ByteSize ≤ MAX_CAPTURE_BYTES) :
    changedFiles d (.finished 0 chunks stderr) = statusFiles text := by
  have hsome : decodeUtf8 chunks.flatten ≠ none := by
    rw [h, decodeUtf8_utf8]
    exact Option.some_ne_none _
  have hlength : chunks.flatten.length ≤ MAX_CAPTURE_BYTES := by rwa [h, length_utf8]
  have hwhole := (truncated_output hd).mpr ⟨hlength, hsome⟩
  simp only [changedFiles, runCommand, ok_bind, hwhole, text_output hd h hsize, ne_eq,
    not_true_eq_false, Bool.false_eq_true, or_self, if_false, statusFiles]
  rfl

/-- The paths that a record names: its own, and the former one. -/
def GitInspector.StatusRecord.paths (r : StatusRecord) : List Path :=
  r.path :: r.rename_source.toList

/-- Whether `_parse_status` puts the path of a record into one of its lists. -/
def GitInspector.StatusRecord.marked (r : StatusRecord) : Bool :=
  Entry.marked ⟨r.index_status, r.worktree_status, [], none⟩

theorem paths_record (e : Entry) : e.record.paths = e.names.map fieldPath := by
  cases e with
  | mk x y path source => cases source <;> rfl

/-- What the two loops of the inspector make of an output. -/
structure InspectorAgrees (output : String) : Prop where
  refuse : ∀ error, parseStatus output = .error error ↔ statusRecords output = .error error
  paths : ∀ lists, parseStatus output = .ok lists →
    ∃ records, statusRecords output = .ok records ∧
      ∀ path, path ∈ lists.paths.map fieldPath ↔ ∃ r ∈ records, r.marked = true ∧ r.path = path

theorem inspectorAgrees (output : String) : InspectorAgrees output := by
  refine ⟨fun error => parseStatus_eq_error, fun lists h => ?_⟩
  obtain ⟨entries, -, hrecords, hpaths⟩ := parseStatus_eq_ok h
  refine ⟨_, hrecords, fun path => ?_⟩
  simp only [List.mem_map, hpaths, exists_exists_and_eq_and]
  constructor
  · rintro ⟨name, ⟨e, he, hmarked, rfl⟩, rfl⟩
    exact ⟨e, he, hmarked, rfl⟩
  · rintro ⟨e, he, hmarked, rfl⟩
    exact ⟨e.path, ⟨e, he, hmarked, rfl⟩, rfl⟩

/-- What the worker makes of an output that the inspector reads as `text`. -/
structure WorkerAgrees (text : String) (result : Except RunnerError (List String)) : Prop where
  accept : (∃ files, result = .ok files) ↔
    ∃ records, statusRecords text = .ok records ∧ text.utf8ByteSize ≤ MAX_CAPTURE_BYTES ∧
      Terminated text ∧ ∀ r ∈ records, ∀ path ∈ r.paths, Supported path
  files : ∀ files records, result = .ok files → statusRecords text = .ok records →
    ∀ file, file ∈ files ↔ ∃ r ∈ records, ∃ path ∈ r.paths, path.text = file

theorem statusRecords_eq_ok {output : String} {records : List StatusRecord} :
    statusRecords output = .ok records ↔
      ∃ entries, readEntries (output.toList.splitOn '\x00') = .ok entries ∧
        entries.map Entry.record = records := by
  rw [statusRecords, statusRecordsFrom_eq, map_eq_ok]

/-- The names of entries are supported when the paths of their records are. -/
theorem supported_records {entries : List Entry}
    (hread : readEntries (text.toList.splitOn '\x00') = .ok entries) :
    (∀ name ∈ entries.flatMap Entry.names, supportedName name = true) ↔
      ∀ r ∈ entries.map Entry.record, ∀ path ∈ r.paths, Supported path := by
  have hne := names_ne_nil hread
  simp only [List.forall_mem_flatMap, List.forall_mem_map, paths_record]
  constructor
  · intro h e he name hname
    exact (supportedName_iff (hne e he name hname)).mp (h e he name hname)
  · intro h e he name hname
    exact (supportedName_iff (hne e he name hname)).mpr (h e he name hname)

theorem mem_reported {entries : List Entry} {file : String} :
    file ∈ ((entries.flatMap Entry.names).map reported).dedup.insertionSort (· ≤ ·) ↔
      ∃ r ∈ entries.map Entry.record, ∃ path ∈ r.paths, path.text = file := by
  have htext (name : List Char) : (fieldPath name).text = reported name := by
    simp [fieldPath, Path.ofString, normalizePath, reported]
  simp only [List.mem_insertionSort, List.mem_dedup, List.mem_map, List.mem_flatMap,
    exists_exists_and_eq_and, paths_record, htext]
  constructor
  · rintro ⟨name, ⟨e, he, hname⟩, rfl⟩
    exact ⟨e, he, name, hname, rfl⟩
  · rintro ⟨e, he, name, hname, rfl⟩
    exact ⟨name, ⟨e, he, hname⟩, rfl⟩

theorem workerAgrees (hd : d.Faithful) (h : chunks.flatten = utf8 text)
    (hascii : AsciiLetters (text.toList.splitOn '\x00').dropLast) :
    WorkerAgrees text (changedFiles d (.finished 0 chunks stderr)) := by
  by_cases hsize : text.utf8ByteSize ≤ MAX_CAPTURE_BYTES
  · rw [changedFiles_text hd h hsize]
    constructor
    · simp only [statusFiles_iff hascii, statusRecords_eq_ok]
      constructor
      · rintro ⟨files, entries, hread, hterminated, hsupported, -⟩
        exact ⟨_, ⟨entries, hread, rfl⟩, hsize, hterminated, (supported_records hread).mp hsupported⟩
      · rintro ⟨records, ⟨entries, hread, rfl⟩, -, hterminated, hsupported⟩
        exact ⟨_, entries, hread, hterminated, (supported_records hread).mpr hsupported, rfl⟩
    · intro files records hfiles hrecords file
      obtain ⟨entries, hread, -, -, rfl⟩ := (statusFiles_iff hascii).mp hfiles
      obtain ⟨entries', hread', rfl⟩ := statusRecords_eq_ok.mp hrecords
      obtain rfl : entries = entries' := Except.ok.inj (hread.symm.trans hread')
      exact mem_reported
  · have hlong : ¬(chunks.flatten.length ≤ MAX_CAPTURE_BYTES ∧
        decodeUtf8 chunks.flatten ≠ none) := by
      rw [h, length_utf8]
      exact fun h => hsize h.1
    rw [changedFiles_truncated hd hlong]
    constructor
    · constructor
      · rintro ⟨files, hfiles⟩
        cases hfiles
      · rintro ⟨records, -, hfits, -⟩
        exact absurd hfits hsize
    · intro files records hfiles
      cases hfiles

/-- What the readers make of the output for entries: each its path, and the worker its former path
too. A former path is never read as an entry. -/
structure ReadsBack (entries : List Entry) (result : Except RunnerError (List String)) : Prop where
  records : statusRecords (statusOutput entries) = .ok (entries.map Entry.record)
  lists : ∃ lists, parseStatus (statusOutput entries) = .ok lists ∧
    ∀ name, name ∈ lists.paths ↔ ∃ e ∈ entries, name = e.path
  files : (statusOutput entries).utf8ByteSize ≤ MAX_CAPTURE_BYTES →
    (∀ e ∈ entries, ∀ name ∈ e.names, Supported (fieldPath name)) →
    ∃ files, result = .ok files ∧
      ∀ file, file ∈ files ↔ ∃ e ∈ entries, ∃ name ∈ e.names, (fieldPath name).text = file

/-- The field that is read as an entry is its first one. -/
theorem entryFields_fields {e : Entry} (h : Printed e) (fields : List (List Char)) :
    entryFields (e.fields ++ fields) =
      (e.index_status :: e.worktree_status :: ' ' :: e.path) :: entryFields fields := by
  obtain ⟨x, y, path, source⟩ := e
  obtain ⟨-, -, -, -, hpath, -, hrenamed⟩ := h
  obtain ⟨c, cs, rfl⟩ := List.exists_cons_of_ne_nil hpath.1
  cases source with
  | none =>
    have hnot : renamed x y = false := hrenamed.symm
    rw [entryFields.eq_def]
    simp [Entry.fields, recordParts, hnot]
  | some source =>
    have hyes : renamed x y = true := hrenamed.symm
    rw [entryFields.eq_def]
    simp [Entry.fields, recordParts, hyes]

theorem entryFields_flatMap {entries : List Entry} (h : ∀ e ∈ entries, Printed e) :
    entryFields (entries.flatMap Entry.fields) =
      entries.map fun e => e.index_status :: e.worktree_status :: ' ' :: e.path := by
  induction entries with
  | nil => rfl
  | cons e entries ih =>
    rw [List.forall_mem_cons] at h
    rw [List.flatMap_cons, entryFields_fields h.1, ih h.2]
    rfl

theorem asciiLetters_statusOutput {entries : List Entry} (h : ∀ e ∈ entries, Printed e) :
    AsciiLetters ((statusOutput entries).toList.splitOn '\x00').dropLast := by
  have hletter : ∀ c ∈ statusLetters, c.utf8Size = 1 := by
    have hall : (statusLetters.all fun c => c.utf8Size == 1) = true := rfl
    exact fun c hc => eq_of_beq (List.all_eq_true.mp hall c hc)
  rw [splitOn_statusOutput h, List.dropLast_concat, AsciiLetters, entryFields_flatMap h,
    List.forall_mem_map]
  intro e he c hc
  simp only [List.take_succ_cons, List.take_zero, List.mem_cons, List.not_mem_nil, or_false] at hc
  rcases hc with rfl | rfl
  · exact hletter _ (h e he).index_status
  · exact hletter _ (h e he).worktree_status

theorem terminated_statusOutput {entries : List Entry} (h : ∀ e ∈ entries, Printed e) :
    Terminated (statusOutput entries) := by
  constructor
  · rw [splitOn_statusOutput h, List.getLast?_concat]
  · rw [splitOn_statusOutput h, List.dropLast_concat, entryFields_flatMap h]
    simp

theorem readsBack (hd : d.Faithful) {entries : List Entry} (h : ∀ e ∈ entries, Printed e)
    (hchunks : chunks.flatten = utf8 (statusOutput entries)) :
    ReadsBack entries (changedFiles d (.finished 0 chunks stderr)) := by
  have hread := readEntries_statusOutput h
  have hrecords : statusRecords (statusOutput entries) = .ok (entries.map Entry.record) :=
    statusRecords_eq_ok.mpr ⟨entries, hread, rfl⟩
  refine ⟨hrecords, ?_, fun hsize hsupported => ?_⟩
  · cases hlists : parseStatus (statusOutput entries) with
    | error error =>
      rw [parseStatus_eq_error, hrecords] at hlists
      cases hlists
    | ok lists =>
      obtain ⟨entries', hread', -, hpaths⟩ := parseStatus_eq_ok hlists
      obtain rfl : entries = entries' := Except.ok.inj (hread.symm.trans hread')
      refine ⟨lists, rfl, fun name => (hpaths name).trans ?_⟩
      exact exists_congr fun e => and_congr_right fun he => and_iff_right (h e he).marked
  · have hagrees : WorkerAgrees (statusOutput entries)
        (changedFiles d (.finished 0 chunks stderr)) :=
      workerAgrees hd hchunks (asciiLetters_statusOutput h)
    have hall : ∀ r ∈ entries.map Entry.record, ∀ path ∈ r.paths, Supported path := by
      simpa only [List.forall_mem_map, paths_record] using hsupported
    obtain ⟨files, hfiles⟩ := hagrees.accept.mpr
      ⟨_, hrecords, hsize, terminated_statusOutput h, hall⟩
    refine ⟨files, hfiles, fun file => (hagrees.files files _ hfiles hrecords file).trans ?_⟩
    simp only [List.mem_map, exists_exists_and_eq_and, paths_record]

/-- The inspector's loops refuse the same outputs and list the same paths. The worker takes a text
that the inspector takes, when it was read whole, ends with a NUL and has supported paths only; its
files are then the paths and the former paths. What is no text is refused by all, and what is
printed for entries is read back as these entries. -/
theorem status_readers_agree (d : Decoder) (hd : d.Faithful) :
    (∀ output, InspectorAgrees output) ∧
    (∀ chunks stderr, decodeUtf8 chunks.flatten = none →
      gitOutput chunks.flatten = .error .unicodeDecodeError ∧
        changedFiles d (.finished 0 chunks stderr) =
          .error (.workspace "unsupported repository status")) ∧
    (∀ text chunks stderr, chunks.flatten = utf8 text →
      ('\r' ∉ text.toList → gitOutput chunks.flatten = .ok text) ∧
        (AsciiLetters (text.toList.splitOn '\x00').dropLast →
          WorkerAgrees text (changedFiles d (.finished 0 chunks stderr)))) ∧
    ∀ entries chunks stderr, (∀ e ∈ entries, Printed e) →
      chunks.flatten = utf8 (statusOutput entries) →
        ReadsBack entries (changedFiles d (.finished 0 chunks stderr)) := by
  refine ⟨inspectorAgrees, fun chunks stderr hnone => ⟨?_, ?_⟩,
    fun text chunks stderr htext => ⟨fun hcr => ?_, workerAgrees hd htext⟩,
    fun entries chunks stderr h hchunks => readsBack hd h hchunks⟩
  · simp only [gitOutput, hnone]
  · exact changedFiles_truncated hd fun h => h.2 hnone
  · simp only [gitOutput, htext, decodeUtf8_utf8, universalNewlines_eq_self hcr,
      String.ofList_toList]

/-- The decoder that gives up on what is no text. -/
def exactDecoder : Decoder where
  decode bytes := (decodeUtf8 bytes).getD ""
  size_le bytes := by
    cases h : decodeUtf8 bytes with
    | none => exact Nat.zero_le _
    | some text =>
      rw [decodeUtf8_eq_some.mp h, length_utf8]
      exact le_rfl
  decode_nil := by
    rw [decodeUtf8_eq_some.mpr (show [] = utf8 "" from rfl)]
    rfl

theorem exactDecoder_faithful : exactDecoder.Faithful := by
  constructor
  · intro text
    simp only [exactDecoder, decodeUtf8_utf8, Option.getD_some]
  · intro bytes h
    have hne : bytes ≠ [] := by
      rintro rfl
      rw [decodeUtf8_eq_some.mpr (show [] = utf8 "" from rfl)] at h
      cases h
    simp only [exactDecoder, h, Option.getD_none]
    exact List.length_pos_iff.mpr hne

theorem status_readers_agree_exact :
    exactDecoder.Faithful ∧ ∀ output, InspectorAgrees output :=
  ⟨exactDecoder_faithful, (status_readers_agree exactDecoder exactDecoder_faithful).1⟩

/-- A renamed file: the worker reports both ends, the inspector one. -/
theorem rename_read_apart :
    parseStatus "R  new\x00old\x00" = .ok ⟨[], ["new".toList], []⟩ ∧
      statusRecords "R  new\x00old\x00" =
        .ok [⟨'R', ' ', Path.ofString "new", some (Path.ofString "old")⟩] ∧
      changedFiles exactDecoder (.finished 0 [utf8 "R  new\x00old\x00"] []) =
        .ok ["new", "old"] := by
  have hfields : "R  new\x00old\x00".toList.splitOn '\x00' =
      ["R  new".toList, "old".toList, []] := by decide
  refine ⟨?_, ?_, ?_⟩
  · rw [parseStatus, hfields]
    rfl
  · rw [statusRecords, hfields]
    rfl
  · rw [changedFiles_text exactDecoder_faithful (List.append_nil _) (by decide)]
    decide

end AtlasOS.Repository
