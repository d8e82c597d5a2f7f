import Mathlib.Data.List.Chain
import Mathlib.Data.List.DropRight
import Mathlib.Data.List.Infix
import AtlasOS.Lib.Json

/-!
# Texts

The parts of Python's `str` that the services use beside comparison: stripping,
the substring test, replacement of a character, and the pattern of an
identifier, which is a text of lower-case words joined by hyphens.
-/

namespace AtlasOS

/-- The characters without those of a kind at both ends. -/
def stripBy (p : Char → Bool) (cs : List Char) : List Char := (cs.dropWhile p).rdropWhile p

/-- `str.strip` -/
def strip (text : String) : String := String.ofList (stripBy isSpace text.toList)

/-- `part in text` -/
def occursIn (part text : String) : Bool := decide (part.toList <:+: text.toList)

/-- `separator.join(parts)` -/
def join (separator : String) (parts : List String) : String :=
  String.ofList (separator.toList.intercalate (parts.map String.toList))

/-- `text.replace(old, new)` for single characters. -/
def replaceChar (old new : Char) (text : String) : String :=
  String.ofList (text.toList.map fun c => if c = old then new else c)

/-! ## Identifiers -/

/-- `[a-z0-9]` -/
def isSlugChar (c : Char) : Bool := ('a' ≤ c && c ≤ 'z') || ('0' ≤ c && c ≤ '9')

/-- What may follow a character of `[a-z0-9]+(?:-[a-z0-9]+)*`. -/
def slugRest : List Char → Bool
  | [] => true
  | '-' :: c :: rest => isSlugChar c && slugRest rest
  | c :: rest => isSlugChar c && slugRest rest

/-- The identifier pattern, `^[a-z0-9]+(?:-[a-z0-9]+)*$`. -/
def isSlug (text : String) : Bool :=
  match text.toList with
  | [] => false
  | c :: rest => isSlugChar c && slugRest rest

/-- The characters of an identifier. -/
def isIdChar (c : Char) : Bool := isSlugChar c || c == '-'

theorem isIdChar_of_slugRest {cs : List Char} (h : slugRest cs = true) :
    ∀ c ∈ cs, isIdChar c = true := by
  induction cs using slugRest.induct with
  | case1 => simp
  | case2 c rest ih =>
    simp only [slugRest, Bool.and_eq_true] at h
    simpa [isIdChar, h.1] using ih h.2
  | case3 c rest hdash ih =>
    rw [slugRest.eq_3 _ _ hdash, Bool.and_eq_true] at h
    simpa [isIdChar, h.1] using ih h.2

theorem isSpace_of_isIdChar {c : Char} (h : isIdChar c = true) : isSpace c = false := by
  have hrange : 45 ≤ c.toNat ∧ c.toNat ≤ 122 := by
    simp only [isIdChar, isSlugChar, Bool.or_eq_true, Bool.and_eq_true, decide_eq_true_eq,
      beq_iff_eq, Char.le_def, UInt32.le_iff_toNat_le] at h
    rcases h with (⟨hlow, hhigh⟩ | ⟨hlow, hhigh⟩) | rfl
    · exact ⟨le_trans (by decide) hlow, hhigh⟩
    · exact ⟨le_trans (by decide) hlow, le_trans hhigh (by decide)⟩
    · exact ⟨by decide, by decide⟩
  simp only [isSpace, Bool.or_eq_false_iff, Bool.and_eq_false_iff, decide_eq_false_iff_not,
    beq_eq_false_iff_ne, not_le]
  omega

/-- An identifier is not empty and consists of identifier characters. -/
theorem chars_of_isSlug {text : String} (h : isSlug text = true) :
    text.toList ≠ [] ∧ ∀ c ∈ text.toList, isIdChar c = true := by
  unfold isSlug at h
  cases hcs : text.toList with
  | nil => simp [hcs] at h
  | cons c rest =>
    simp only [hcs, Bool.and_eq_true] at h
    refine ⟨by simp, List.forall_mem_cons.mpr ⟨by simp [isIdChar, h.1], ?_⟩⟩
    exact isIdChar_of_slugRest h.2

/-! ## Stripping -/

section Stripping

variable {p : Char → Bool} {cs : List Char} {text : String}

/-- A list without characters of the kind is left as it is. -/
theorem stripBy_eq_self (h : ∀ c ∈ cs, p c = false) : stripBy p cs = cs := by
  have hfront : cs.dropWhile p = cs :=
    List.dropWhile_eq_self_iff.mpr fun hlength => by simp [h _ (List.getElem_mem hlength)]
  have hback : cs.rdropWhile p = cs :=
    List.rdropWhile_eq_self_iff.mpr fun hne => by simp [h _ (List.getLast_mem hne)]
  rw [stripBy, hfront, hback]

/-- What is left begins with no character of the kind. -/
theorem dropWhile_stripBy (p : Char → Bool) (cs : List Char) :
    (stripBy p cs).dropWhile p = stripBy p cs := by
  apply List.dropWhile_eq_self_iff.mpr
  intro hlength
  have hinitial : stripBy p cs <+: cs.dropWhile p := List.rdropWhile_prefix p _
  have hfront : 0 < (cs.dropWhile p).length := hlength.trans_le hinitial.length_le
  rw [hinitial.getElem hlength]
  exact List.dropWhile_get_zero_not p cs hfront

/-- Stripping is done once. -/
theorem stripBy_stripBy (p : Char → Bool) (cs : List Char) :
    stripBy p (stripBy p cs) = stripBy p cs := by
  rw [stripBy, dropWhile_stripBy, stripBy, List.rdropWhile_idempotent]

@[simp] theorem strip_strip (text : String) : strip (strip text) = strip text := by
  rw [strip, strip, String.toList_ofList, stripBy_stripBy]

/-- A text without spaces is its own stripped form. -/
theorem strip_eq_self (h : ∀ c ∈ text.toList, isSpace c = false) : strip text = text := by
  rw [strip, stripBy_eq_self h, String.ofList_toList]

end Stripping

/-! ## Hyphenation -/

/-- `re.sub("[p]+", "-", text)`: a run of characters of a kind becomes one hyphen. The flag tells
whether the characters before belong to a run. -/
def hyphenateFrom (p : Char → Bool) : Bool → List Char → List Char
  | _, [] => []
  | inside, c :: cs =>
      if p c then
        if inside then hyphenateFrom p true cs else '-' :: hyphenateFrom p true cs
      else c :: hyphenateFrom p false cs

/-- `re.sub("[p]+", "-", text)` -/
def hyphenate (p : Char → Bool) (cs : List Char) : List Char := hyphenateFrom p false cs

/-- Neighbours that are not both hyphens. -/
def Spaced (a b : Char) : Prop := ¬(a = '-' ∧ b = '-')

section Hyphenation

variable {p : Char → Bool} {cs : List Char}

theorem mem_hyphenateFrom {inside : Bool} {c : Char} (h : c ∈ hyphenateFrom p inside cs) :
    c = '-' ∨ (c ∈ cs ∧ p c = false) := by
  induction cs generalizing inside with
  | nil => simp [hyphenateFrom] at h
  | cons d cs ih =>
    rw [hyphenateFrom] at h
    split_ifs at h with hd hinside
    · exact (ih h).imp_right fun hc => ⟨List.mem_cons_of_mem _ hc.1, hc.2⟩
    · rcases List.mem_cons.mp h with rfl | h
      · exact .inl rfl
      · exact (ih h).imp_right fun hc => ⟨List.mem_cons_of_mem _ hc.1, hc.2⟩
    · rcases List.mem_cons.mp h with rfl | h
      · exact .inr ⟨List.mem_cons_self, by simpa using hd⟩
      · exact (ih h).imp_right fun hc => ⟨List.mem_cons_of_mem _ hc.1, hc.2⟩

/-- No two hyphens stand side by side, and none follows a run. -/
theorem isChain_hyphenateFrom (hp : p '-' = true) (inside : Bool) (cs : List Char) :
    (hyphenateFrom p inside cs).IsChain Spaced ∧
      (inside = true → (hyphenateFrom p inside cs).head? ≠ some '-') := by
  induction cs generalizing inside with
  | nil => simp [hyphenateFrom]
  | cons c cs ih =>
    rw [hyphenateFrom]
    split_ifs with hc hinside
    · exact ⟨(ih true).1, fun _ => (ih true).2 rfl⟩
    · refine ⟨List.isChain_cons.mpr ⟨?_, (ih true).1⟩, fun h => absurd h hinside⟩
      rintro d hd ⟨-, rfl⟩
      exact (ih true).2 rfl hd
    · have hne : c ≠ '-' := fun heq => hc (heq ▸ hp)
      refine ⟨List.isChain_cons.mpr ⟨fun d _ heq => hne heq.1, (ih false).1⟩, fun _ => ?_⟩
      simpa using hne

/-- Identifier characters without neighbouring hyphens continue an identifier when the last of
them is no hyphen. -/
theorem slugRest_of_isChain (hchars : ∀ c ∈ cs, isIdChar c = true) (hchain : cs.IsChain Spaced)
    (hlast : cs.getLast? ≠ some '-') : slugRest cs = true := by
  induction cs using slugRest.induct with
  | case1 => rfl
  | case2 c rest ih =>
    have hne : c ≠ '-' := fun heq => (List.isChain_cons_cons.mp hchain).1 ⟨rfl, heq⟩
    have hc : isSlugChar c = true := by simpa [isIdChar, hne] using hchars c (by simp)
    have htail : rest.getLast? ≠ some '-' := by
      cases rest with
      | nil => simp
      | cons d rest => simpa [List.getLast?_cons_cons] using hlast
    rw [slugRest, Bool.and_eq_true]
    refine ⟨hc, ih (fun d hd => hchars d (by simp [hd])) ?_ htail⟩
    exact hchain.suffix ⟨['-', c], rfl⟩
  | case3 c rest hdash ih =>
    have hne : c ≠ '-' := by
      rintro rfl
      cases rest with
      | nil => exact hlast rfl
      | cons d rest => exact hdash d rest rfl rfl
    have hc : isSlugChar c = true := by simpa [isIdChar, hne] using hchars c (by simp)
    have htail : rest.getLast? ≠ some '-' := by
      cases rest with
      | nil => simp
      | cons d rest => simpa [List.getLast?_cons_cons] using hlast
    rw [slugRest.eq_3 _ _ hdash, Bool.and_eq_true]
    exact ⟨hc, ih (fun d hd => hchars d (by simp [hd])) (hchain.suffix ⟨[c], rfl⟩) htail⟩

/-- Identifiers joined by a hyphen. -/
theorem slugRest_append {as bs : List Char} {b : Char} (ha : slugRest as = true)
    (hb : isSlugChar b = true) (hbs : slugRest bs = true) : slugRest (as ++ '-' :: b :: bs) = true := by
  induction as using slugRest.induct with
  | case1 => simp [slugRest, hb, hbs]
  | case2 c rest ih =>
    rw [slugRest, Bool.and_eq_true] at ha
    rw [List.cons_append, List.cons_append, slugRest, Bool.and_eq_true]
    exact ⟨ha.1, ih ha.2⟩
  | case3 c rest hdash ih =>
    rw [slugRest.eq_3 _ _ hdash, Bool.and_eq_true] at ha
    have hne : c ≠ '-' := by
      rintro rfl
      exact absurd ha.1 (by decide)
    rw [List.cons_append, slugRest.eq_3 _ _ fun _ _ heq _ => hne heq, Bool.and_eq_true]
    exact ⟨ha.1, ih ha.2⟩

theorem exists_cons_of_isSlug {text : String} (h : isSlug text = true) :
    ∃ c rest, text.toList = c :: rest ∧ isSlugChar c = true ∧ slugRest rest = true := by
  unfold isSlug at h
  cases hcs : text.toList with
  | nil => simp [hcs] at h
  | cons c rest =>
    simp only [hcs, Bool.and_eq_true] at h
    exact ⟨c, rest, rfl, h.1, h.2⟩

theorem isSlug_join {words : List String} (hne : words ≠ [])
    (h : ∀ word ∈ words, isSlug word = true) : isSlug (join "-" words) = true := by
  have hchars : ∃ c rest, ['-'].intercalate (words.map String.toList) = c :: rest ∧
      isSlugChar c = true ∧ slugRest rest = true := by
    induction words with
    | nil => exact absurd rfl hne
    | cons word words ih =>
      obtain ⟨c, rest, hword, hc, hrest⟩ := exists_cons_of_isSlug (h word List.mem_cons_self)
      cases words with
      | nil => exact ⟨c, rest, by simpa using hword, hc, hrest⟩
      | cons next words =>
        obtain ⟨d, others, hjoined, hd, hothers⟩ :=
          ih (by simp) fun other hother => h other (List.mem_cons_of_mem _ hother)
        refine ⟨c, rest ++ '-' :: d :: others, ?_, hc, slugRest_append hrest hd hothers⟩
        rw [List.map_cons] at hjoined
        simp [List.intercalate_cons_cons, hjoined, hword]
  obtain ⟨c, rest, hjoined, hc, hrest⟩ := hchars
  have htext : (join "-" words).toList = c :: rest := by
    rw [join, String.toList_ofList, ← hjoined]
    rfl
  unfold isSlug
  rw [htext]
  exact Bool.and_eq_true _ _ ▸ ⟨hc, hrest⟩

end Hyphenation

/-! ## Words -/

/-- The runs of characters that are not of a kind, after the part of a run that was read. -/
def wordsFrom (p : Char → Bool) (word : List Char) : List Char → List (List Char)
  | [] => if word = [] then [] else [word]
  | c :: cs =>
      if p c then
        if word = [] then wordsFrom p [] cs else word :: wordsFrom p [] cs
      else wordsFrom p (word ++ [c]) cs

/-- The runs of characters that are not of a kind. -/
def words (p : Char → Bool) (cs : List Char) : List (List Char) := wordsFrom p [] cs

section Words

variable {p : Char → Bool} {cs word : List Char}

theorem mem_wordsFrom (hword : ∀ c ∈ word, p c = false) {found : List Char}
    (h : found ∈ wordsFrom p word cs) : found ≠ [] ∧ ∀ c ∈ found, p c = false := by
  induction cs generalizing word with
  | nil =>
    rw [wordsFrom] at h
    split_ifs at h with hnil
    · cases h
    · rw [List.mem_singleton.mp h]
      exact ⟨hnil, hword⟩
  | cons c cs ih =>
    rw [wordsFrom] at h
    split_ifs at h with hc hnil
    · exact ih (by simp) h
    · rcases List.mem_cons.mp h with rfl | h
      · exact ⟨hnil, hword⟩
      · exact ih (by simp) h
    · refine ih (fun d hd => ?_) h
      rcases List.mem_append.mp hd with hd | hd
      · exact hword d hd
      · rw [List.mem_singleton.mp hd]
        simpa using hc

/-- A word is not empty and has no separator. -/
theorem mem_words {found : List Char} (h : found ∈ words p cs) :
    found ≠ [] ∧ ∀ c ∈ found, p c = false :=
  mem_wordsFrom (by simp) h

/-- Hyphenation keeps the words. -/
theorem wordsFrom_hyphenateFrom (hp : p '-' = true) {inside : Bool}
    (hinside : inside = true → word = []) :
    wordsFrom (· == '-') word (hyphenateFrom p inside cs) = wordsFrom p word cs := by
  induction cs generalizing word inside with
  | nil => simp [hyphenateFrom, wordsFrom]
  | cons c cs ih =>
    rw [hyphenateFrom, wordsFrom]
    by_cases hc : p c = true
    · rw [if_pos hc, if_pos hc]
      cases hflag : inside with
      | true =>
        rw [hinside hflag]
        simpa using ih fun _ => rfl
      | false =>
        simp only [Bool.false_eq_true, if_false, wordsFrom, beq_self_eq_true, if_true]
        rw [ih fun _ => rfl]
    · have hne : c ≠ '-' := fun heq => hc (heq ▸ hp)
      rw [if_neg hc, if_neg hc, wordsFrom, if_neg (by simpa using hne)]
      exact ih fun h => by cases h

theorem words_hyphenate (hp : p '-' = true) (cs : List Char) :
    words (· == '-') (hyphenate p cs) = words p cs :=
  wordsFrom_hyphenateFrom hp fun h => by cases h

theorem wordsFrom_append_singleton {c : Char} (hc : p c = true) :
    wordsFrom p word (cs ++ [c]) = wordsFrom p word cs := by
  induction cs generalizing word with
  | nil =>
    simp only [List.nil_append, wordsFrom, hc, if_true]
  | cons d cs ih => simp only [List.cons_append, wordsFrom, ih]

theorem wordsFrom_append_cons {c : Char} (hc : p c = true) (cs ds : List Char) :
    wordsFrom p word (cs ++ c :: ds) = wordsFrom p word cs ++ words p ds := by
  induction cs generalizing word with
  | nil =>
    simp only [List.nil_append, wordsFrom, if_pos hc]
    split_ifs <;> rfl
  | cons d cs ih =>
    rw [List.cons_append, wordsFrom, wordsFrom]
    split_ifs with hd hnil
    · exact ih
    · rw [ih, List.cons_append]
    · exact ih

/-- The words of texts that are joined by a separator are those of the texts. -/
theorem words_intercalate {c : Char} (hc : p c = true) (texts : List (List Char)) :
    words p ([c].intercalate texts) = texts.flatMap (words p) := by
  induction texts with
  | nil => rfl
  | cons text texts ih =>
    cases texts with
    | nil => simp
    | cons next texts =>
      rw [List.intercalate_cons_cons, List.flatMap_cons, ← ih, List.append_assoc,
        List.singleton_append]
      exact wordsFrom_append_cons hc text _

/-- Separators at the ends do not count. -/
theorem words_stripBy (p : Char → Bool) (cs : List Char) : words p (stripBy p cs) = words p cs := by
  have hfront : words p (cs.dropWhile p) = words p cs := by
    induction cs with
    | nil => rfl
    | cons c cs ih =>
      by_cases hc : p c = true
      · rw [List.dropWhile_cons_of_pos hc, ih]
        simp [words, wordsFrom, hc]
      · rw [List.dropWhile_cons_of_neg hc]
  have hback (cs : List Char) : words p (cs.rdropWhile p) = words p cs := by
    induction cs using List.reverseRecOn with
    | nil => rfl
    | append_singleton cs c ih =>
      by_cases hc : p c = true
      · rw [List.rdropWhile_concat_pos _ _ _ hc, ih, words, words, wordsFrom_append_singleton hc]
      · rw [List.rdropWhile_concat_neg _ _ _ hc]
  rw [stripBy, hback, hfront]

theorem intercalate_wordsFrom (hword : word ≠ []) (h : slugRest cs = true) :
    ['-'].intercalate (wordsFrom (· == '-') word cs) = word ++ cs := by
  have hne (word cs : List Char) (hword : word ≠ []) : wordsFrom (· == '-') word cs ≠ [] := by
    induction cs generalizing word with
    | nil => simp [wordsFrom, hword]
    | cons c cs ih =>
      rw [wordsFrom]
      split_ifs
      · simp
      · exact ih _ (by simp)
  induction cs using slugRest.induct generalizing word with
  | case1 => simp [wordsFrom, hword]
  | case2 c rest ih =>
    rw [slugRest, Bool.and_eq_true] at h
    have hc : c ≠ '-' := by
      rintro rfl
      exact absurd h.1 (by decide)
    have htail : wordsFrom (· == '-') word ('-' :: c :: rest) =
        word :: wordsFrom (· == '-') [c] rest := by
      simp [wordsFrom, hword, hc]
    obtain ⟨first, others, hothers⟩ := List.exists_cons_of_ne_nil (hne [c] rest (by simp))
    have hrest : ['-'].intercalate (wordsFrom (· == '-') [c] rest) = [c] ++ rest :=
      ih (by simp) h.2
    rw [hothers] at hrest
    rw [htail, hothers, List.intercalate_cons_cons, hrest]
    simp
  | case3 c rest hdash ih =>
    rw [slugRest.eq_3 _ _ hdash, Bool.and_eq_true] at h
    have hc : c ≠ '-' := by
      rintro rfl
      exact absurd h.1 (by decide)
    rw [wordsFrom, if_neg (by simpa using hc), ih (by simp) h.2]
    simp

/-- An identifier is its words joined by hyphens. -/
theorem intercalate_words_of_isSlug {text : String} (h : isSlug text = true) :
    ['-'].intercalate (words (· == '-') text.toList) = text.toList := by
  obtain ⟨c, rest, htext, hc, hrest⟩ := exists_cons_of_isSlug h
  have hne : c ≠ '-' := by
    rintro rfl
    exact absurd hc (by decide)
  have hwords : words (· == '-') (c :: rest) = wordsFrom (· == '-') [c] rest := by
    simp [words, wordsFrom, hne]
  rw [htext, hwords, intercalate_wordsFrom (by simp) hrest]
  rfl

/-- Identifiers are told apart by their words. -/
theorem words_injective_of_isSlug {text text' : String} (h : isSlug text = true)
    (h' : isSlug text' = true) :
    words (· == '-') text.toList = words (· == '-') text'.toList ↔ text = text' := by
  constructor
  · intro heq
    have hlist : text.toList = text'.toList := by
      rw [← intercalate_words_of_isSlug h, ← intercalate_words_of_isSlug h', heq]
    exact String.toList_injective hlist
  · rintro rfl
    rfl

end Words

end AtlasOS
