import Mathlib.Data.List.Basic
import Mathlib.Data.List.Sort
import Mathlib.Data.String.Basic

/-!
# POSIX paths

`pathlib` keeps a path in a normal form: repeated slashes and current-directory
components are dropped, and only the components and the root remain. A `Path`
carries its normal form, so that the text of a path is read back as the path.
-/

namespace AtlasOS

/-- The root of a path: exactly two leading slashes are kept, other runs of
slashes count as one. -/
def pathRoot : List Char → List Char
  | '/' :: '/' :: '/' :: _ => ['/']
  | '/' :: '/' :: _ => ['/', '/']
  | '/' :: _ => ['/']
  | _ => []

/-- Whether a component is kept. -/
def keptPart (part : List Char) : Bool := part ≠ [] && part ≠ ['.']

/-- The components of a path. -/
def pathParts (text : List Char) : List (List Char) := (text.splitOn '/').filter keptPart

/-- The characters of `str(Path(text))`. -/
def normalizeChars (text : List Char) : List Char :=
  let joined := pathRoot text ++ ['/'].intercalate (pathParts text)
  if joined = [] then ['.'] else joined

/-- `str(Path(text))` -/
def normalizePath (text : String) : String := String.ofList (normalizeChars text.toList)

/-- The pieces of a text with one more character. -/
theorem mem_splitOn_cons {sep c : Char} {text part : List Char}
    (h : part ∈ (c :: text).splitOn sep) :
    part ∈ [] :: text.splitOn sep ∨ ∃ tail ∈ text.splitOn sep, c ≠ sep ∧ part = c :: tail := by
  rw [List.splitOn_cons_eq_if_modifyHead] at h
  split at h
  · exact .inl h
  · next hc =>
    cases hs : text.splitOn sep with
    | nil => simp [hs] at h
    | cons first rest =>
      rw [hs, List.modifyHead_cons] at h
      rcases List.mem_cons.mp h with rfl | h
      · exact .inr ⟨first, by simp, by simpa using hc, rfl⟩
      · exact .inl (by simp [h])

/-- The pieces of a split text do not have the separator. -/
theorem not_mem_of_mem_splitOn {sep : Char} {text part : List Char} (h : part ∈ text.splitOn sep) :
    sep ∉ part := by
  induction text generalizing part with
  | nil => simp_all
  | cons c text ih =>
    rcases mem_splitOn_cons h with h | ⟨tail, htail, hc, rfl⟩
    · rcases List.mem_cons.mp h with rfl | h
      · simp
      · exact ih h
    · simpa [Ne.symm hc] using ih htail

theorem splitOn_slash_cons (text : List Char) :
    ('/' :: text).splitOn '/' = [] :: text.splitOn '/' := by
  simp [List.splitOn_cons_eq_if_modifyHead]

/-- The components of joined components are the components. -/
theorem pathParts_intercalate {parts : List (List Char)}
    (hkept : ∀ part ∈ parts, keptPart part = true) (hslash : ∀ part ∈ parts, '/' ∉ part) :
    pathParts (['/'].intercalate parts) = parts := by
  cases parts with
  | nil => rfl
  | cons part parts =>
    rw [pathParts, List.splitOn_intercalate '/' hslash (by simp)]
    exact List.filter_eq_self.mpr hkept

theorem pathParts_slash_cons (text : List Char) : pathParts ('/' :: text) = pathParts text := by
  simp [pathParts, splitOn_slash_cons, keptPart]

/-- Joined components start with no slash. -/
theorem head_intercalate_ne {parts : List (List Char)}
    (hkept : ∀ part ∈ parts, keptPart part = true) (hslash : ∀ part ∈ parts, '/' ∉ part) :
    (['/'].intercalate parts).head? ≠ some '/' := by
  match parts with
  | [] => simp [List.intercalate]
  | part :: rest =>
    cases part with
    | nil => exact absurd (hkept [] (by simp)) (by decide)
    | cons c cs =>
      have hc := hslash (c :: cs) (by simp)
      have hne : c ≠ '/' := fun h => hc (by simp [h])
      cases rest with
      | nil => simpa [List.intercalate] using hne
      | cons next rest => simpa [List.intercalate_cons_cons] using hne

/-- The root is one of three texts. -/
theorem pathRoot_cases (text : List Char) :
    pathRoot text = [] ∨ pathRoot text = ['/'] ∨ pathRoot text = ['/', '/'] := by
  unfold pathRoot
  split <;> simp

theorem pathRoot_append {root rest : List Char}
    (hroot : root = [] ∨ root = ['/'] ∨ root = ['/', '/']) (hrest : rest.head? ≠ some '/') :
    pathRoot (root ++ rest) = root := by
  cases rest with
  | nil => rcases hroot with rfl | rfl | rfl <;> rfl
  | cons c cs =>
    have hne : c ≠ '/' := by simpa using hrest
    rcases hroot with rfl | rfl | rfl <;> simp [pathRoot, hne]

theorem pathParts_append {root rest : List Char}
    (hroot : root = [] ∨ root = ['/'] ∨ root = ['/', '/']) :
    pathParts (root ++ rest) = pathParts rest := by
  rcases hroot with rfl | rfl | rfl <;> simp [pathParts_slash_cons]

/-- Normalizing twice is normalizing once. -/
theorem normalizeChars_idem (text : List Char) :
    normalizeChars (normalizeChars text) = normalizeChars text := by
  have hkept : ∀ part ∈ pathParts text, keptPart part = true := fun part h =>
    (List.mem_filter.mp h).2
  have hslash : ∀ part ∈ pathParts text, '/' ∉ part := fun part h =>
    not_mem_of_mem_splitOn (List.mem_filter.mp h).1
  have hhead := head_intercalate_ne hkept hslash
  have hroot := pathRoot_cases text
  by_cases hempty : pathRoot text ++ ['/'].intercalate (pathParts text) = []
  · have hdot : normalizeChars text = ['.'] := by simp [normalizeChars, hempty]
    rw [hdot]
    decide
  · have hnormal : normalizeChars text =
        pathRoot text ++ ['/'].intercalate (pathParts text) := by
      simp [normalizeChars, hempty]
    rw [hnormal, normalizeChars, pathRoot_append hroot hhead, pathParts_append hroot,
      pathParts_intercalate hkept hslash]
    simp [hempty]

theorem normalizePath_idem (text : String) :
    normalizePath (normalizePath text) = normalizePath text := by
  simp [normalizePath, normalizeChars_idem]

theorem normalizeChars_ne_nil (text : List Char) : normalizeChars text ≠ [] := by
  simp only [normalizeChars]
  split_ifs with hempty
  · simp
  · exact hempty

/-- A relative path stays relative, with the components that it has. -/
theorem normalizeChars_relative {text : List Char} (h : text.head? ≠ some '/') :
    (normalizeChars text).head? ≠ some '/' ∧ pathParts (normalizeChars text) = pathParts text := by
  have hkept : ∀ part ∈ pathParts text, keptPart part = true := fun part h =>
    (List.mem_filter.mp h).2
  have hslash : ∀ part ∈ pathParts text, '/' ∉ part := fun part h =>
    not_mem_of_mem_splitOn (List.mem_filter.mp h).1
  have hroot : pathRoot text = [] := by
    cases text with
    | nil => rfl
    | cons c cs =>
      have hne : c ≠ '/' := by simpa using h
      simp [pathRoot, hne]
  have hparts := pathParts_intercalate hkept hslash
  simp only [normalizeChars, hroot, List.nil_append]
  split_ifs with hempty
  · rw [hempty] at hparts
    exact ⟨by simp, by rw [← hparts]; decide⟩
  · exact ⟨head_intercalate_ne hkept hslash, hparts⟩

/-- The characters of a piece are characters of the text. -/
theorem mem_of_mem_splitOn {sep c : Char} {text part : List Char} (h : part ∈ text.splitOn sep)
    (hc : c ∈ part) : c ∈ text := by
  induction text generalizing part with
  | nil => simp_all
  | cons d text ih =>
    rcases mem_splitOn_cons h with h | ⟨tail, htail, -, rfl⟩
    · rcases List.mem_cons.mp h with rfl | h
      · simp at hc
      · exact List.mem_cons_of_mem d (ih h hc)
    · rcases List.mem_cons.mp hc with rfl | hc
      · simp
      · exact List.mem_cons_of_mem d (ih htail hc)

/-- A character of joined pieces is the separator or one of a piece. -/
theorem mem_intercalate {sep c : Char} {parts : List (List Char)} (h : c ∈ [sep].intercalate parts) :
    c = sep ∨ ∃ part ∈ parts, c ∈ part := by
  induction parts with
  | nil => simp [List.intercalate] at h
  | cons part parts ih =>
    cases parts with
    | nil => exact .inr ⟨part, by simp, by simpa [List.intercalate] using h⟩
    | cons next rest =>
      rw [List.intercalate_cons_cons] at h
      rcases List.mem_append.mp h with h | h
      · rcases List.mem_append.mp h with h | h
        · exact .inr ⟨part, by simp, h⟩
        · exact .inl (List.mem_singleton.mp h)
      · rcases ih h with h | ⟨found, hfound, h⟩
        · exact .inl h
        · exact .inr ⟨found, List.mem_cons_of_mem part hfound, h⟩

/-- A character of a text is the separator or one of a piece. -/
theorem mem_splitOn {sep c : Char} {text : List Char} (h : c ∈ text) :
    c = sep ∨ ∃ part ∈ text.splitOn sep, c ∈ part := by
  rw [← @List.intercalate_splitOn _ text _ _ sep] at h
  exact mem_intercalate h

/-- Normalizing brings in no character but a dot and a slash. -/
theorem mem_of_mem_normalizeChars {c : Char} {text : List Char} (h : c ∈ normalizeChars text)
    (hdot : c ≠ '.') (hslash : c ≠ '/') : c ∈ text := by
  have hroot : c ∉ pathRoot text := by
    rcases pathRoot_cases text with hr | hr | hr <;> simp [hr, hslash]
  simp only [normalizeChars] at h
  split_ifs at h
  · simp [hdot] at h
  · have hjoined := (List.mem_append.mp h).resolve_left hroot
    obtain ⟨part, hpart, hc⟩ := (mem_intercalate hjoined).resolve_left hslash
    exact mem_of_mem_splitOn (List.mem_filter.mp hpart).1 hc

/-- A character of a piece is one of the joined pieces. -/
theorem mem_intercalate_of_mem {sep c : Char} {part : List Char} {parts : List (List Char)}
    (h : part ∈ parts) (hc : c ∈ part) : c ∈ [sep].intercalate parts := by
  induction parts with
  | nil => cases h
  | cons first parts ih =>
    cases parts with
    | nil =>
      rw [List.mem_singleton] at h
      subst h
      simpa [List.intercalate] using hc
    | cons next rest =>
      rw [List.intercalate_cons_cons]
      rcases List.mem_cons.mp h with rfl | h
      · exact List.mem_append_left _ (List.mem_append_left _ hc)
      · exact List.mem_append_right _ (ih h)

/-- Normalizing drops no character but a dot and a slash. -/
theorem mem_normalizeChars {c : Char} {text : List Char} (h : c ∈ text) (hdot : c ≠ '.')
    (hslash : c ≠ '/') : c ∈ normalizeChars text := by
  obtain ⟨part, hpart, hc⟩ := (mem_splitOn h).resolve_left hslash
  have hkept : keptPart part = true := by
    have hnil : part ≠ [] := List.ne_nil_of_mem hc
    have hone : part ≠ ['.'] := by
      rintro rfl
      exact hdot (List.mem_singleton.mp hc)
    simp [keptPart, hnil, hone]
  have hjoined : c ∈ ['/'].intercalate (pathParts text) :=
    mem_intercalate_of_mem (List.mem_filter.mpr ⟨hpart, hkept⟩) hc
  have hmem := List.mem_append_right (pathRoot text) hjoined
  rw [normalizeChars]
  simp only [List.ne_nil_of_mem hmem, if_false]
  exact hmem

/-- An absolute path stays absolute. -/
theorem normalizeChars_absolute {text : List Char} (h : text.head? = some '/') :
    (normalizeChars text).head? = some '/' := by
  have hroot : (pathRoot text).head? = some '/' := by
    cases text with
    | nil => cases h
    | cons c cs =>
      obtain rfl : c = '/' := by simpa using h
      unfold pathRoot
      split <;> simp_all
  cases hr : pathRoot text with
  | nil => simp [hr] at hroot
  | cons c cs =>
    rw [hr] at hroot
    rw [normalizeChars, hr]
    simpa using hroot

/-- A `pathlib` path, by its normal form. -/
structure Path where
  /-- `str(path)` -/
  text : String
  /-- The text is a normal form. -/
  normal : normalizePath text = text
  deriving DecidableEq

namespace Path

/-- `Path(text)` -/
def ofString (text : String) : Path := ⟨normalizePath text, normalizePath_idem text⟩

/-- What paths are ordered by: the components of the text, the empty ones included. -/
def sortKey (p : Path) : List (List Char) := p.text.toList.splitOn '/'

/-- `sorted(paths)` -/
def sorted (paths : List Path) : List Path :=
  paths.insertionSort fun p q => p.sortKey ≤ q.sortKey

theorem perm_sorted (paths : List Path) : (sorted paths).Perm paths := List.perm_insertionSort _ _

/-- Sorting twice is sorting once. -/
theorem sorted_sorted (paths : List Path) : sorted (sorted paths) = sorted paths := by
  have htotal : Std.Total fun p q : Path => p.sortKey ≤ q.sortKey :=
    ⟨fun p q => le_total p.sortKey q.sortKey⟩
  have htrans : IsTrans Path fun p q => p.sortKey ≤ q.sortKey := ⟨fun _ _ _ => le_trans⟩
  exact List.Pairwise.insertionSort_eq (List.pairwise_insertionSort _ paths)

@[simp] theorem ofString_text (p : Path) : ofString p.text = p := by
  cases p with
  | mk text normal => simp [ofString, normal]

end Path

end AtlasOS
