import Mathlib.Data.List.Basic

/-!
# The first occurrence of a pattern

A buffer grows at its end while a pattern is searched in it. Once the pattern has
been found, its place does not change; while it has not been found, it can only
begin within its own length of the end.
-/

namespace AtlasOS

variable {α : Type} [DecidableEq α]

/-- The place of the first occurrence of a pattern. -/
def firstAt (pattern : List α) : List α → Option ℕ
  | [] => if pattern = [] then some 0 else none
  | a :: text => if pattern <+: a :: text then some 0 else (firstAt pattern text).map (· + 1)

variable {pattern text more : List α} {i : ℕ}

theorem firstAt_cons_of_starts {a : α} (h : pattern <+: a :: text) :
    firstAt pattern (a :: text) = some 0 := if_pos h

theorem firstAt_cons_of_not {a : α} (h : ¬pattern <+: a :: text) :
    firstAt pattern (a :: text) = (firstAt pattern text).map (· + 1) := if_neg h

/-- The pattern stands where it was found. -/
theorem prefix_drop_of_firstAt (h : firstAt pattern text = some i) : pattern <+: text.drop i := by
  induction text generalizing i with
  | nil =>
    unfold firstAt at h
    split_ifs at h with hnil
    cases h
    rw [hnil]
    exact List.nil_prefix
  | cons a text ih =>
    by_cases hhere : pattern <+: a :: text
    · rw [firstAt_cons_of_starts hhere] at h
      cases h
      exact hhere
    · rw [firstAt_cons_of_not hhere, Option.map_eq_some_iff] at h
      obtain ⟨j, hj, rfl⟩ := h
      exact ih hj

theorem add_length_le_of_firstAt (h : firstAt pattern text = some i) :
    i + pattern.length ≤ text.length ∨ pattern = [] := by
  have hlength := (prefix_drop_of_firstAt h).length_le
  rw [List.length_drop] at hlength
  by_cases hnil : pattern = []
  · exact .inr hnil
  · have hpos : 0 < pattern.length := List.length_pos_iff.mpr hnil
    omega

/-- What follows does not change where the pattern was found first. -/
theorem firstAt_append (hne : pattern ≠ []) (h : firstAt pattern text = some i) (more : List α) :
    firstAt pattern (text ++ more) = some i := by
  induction text generalizing i with
  | nil =>
    unfold firstAt at h
    rw [if_neg hne] at h
    cases h
  | cons a text ih =>
    by_cases hhere : pattern <+: a :: text
    · rw [firstAt_cons_of_starts hhere] at h
      cases h
      exact firstAt_cons_of_starts (hhere.trans (List.prefix_append _ _))
    · rw [firstAt_cons_of_not hhere, Option.map_eq_some_iff] at h
      obtain ⟨j, hj, rfl⟩ := h
      -- the pattern fits before the end, so it is not completed by what follows
      have hlength := (add_length_le_of_firstAt hj).resolve_right hne
      have hnot : ¬pattern <+: a :: (text ++ more) := by
        intro hprefix
        refine hhere (List.prefix_of_prefix_length_le hprefix (List.prefix_append (a :: text) more) ?_)
        rw [List.length_cons]
        omega
      rw [List.cons_append, firstAt_cons_of_not hnot, ih hj]
      rfl

/-- A pattern that stands somewhere is found. -/
theorem firstAt_ne_none (h : pattern <+: text.drop i) (hi : i + pattern.length ≤ text.length) :
    firstAt pattern text ≠ none := by
  induction text generalizing i with
  | nil =>
    have hnil : pattern = [] := List.prefix_nil.mp (List.drop_nil ▸ h)
    rw [firstAt, if_pos hnil]
    exact Option.some_ne_none _
  | cons a text ih =>
    by_cases hhere : pattern <+: a :: text
    · rw [firstAt_cons_of_starts hhere]
      exact Option.some_ne_none _
    · rw [firstAt_cons_of_not hhere, Ne, Option.map_eq_none_iff]
      cases i with
      | zero => exact absurd h hhere
      | succ i =>
        rw [List.length_cons] at hi
        exact ih h (by omega)

/-- A pattern that was not there before ends in what was added. -/
theorem length_lt_of_firstAt_append (h : firstAt pattern text = none)
    (hmore : firstAt pattern (text ++ more) = some i) : text.length < i + pattern.length := by
  by_contra hle
  have hprefix := prefix_drop_of_firstAt hmore
  rw [List.drop_append_of_le_length (by omega)] at hprefix
  have hwithin : pattern <+: text.drop i := by
    refine List.prefix_of_prefix_length_le hprefix (List.prefix_append _ _) ?_
    rw [List.length_drop]
    omega
  exact firstAt_ne_none hwithin (by omega) h

end AtlasOS
