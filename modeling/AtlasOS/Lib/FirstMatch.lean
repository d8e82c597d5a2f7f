import Mathlib.Data.List.Perm.Basic
import Mathlib.Data.List.Perm.Subperm

/-!
# First matches in lists

A list that is searched for the first element with a key answers differently in
another order, when several elements have the key. What the answers say in every
order is read off the elements themselves.
-/

namespace AtlasOS

variable {σ κ : Type} [DecidableEq κ] {key : σ → κ}

/-- The first element with a key. -/
def firstWith (key : σ → κ) (k : κ) (xs : List σ) : Option σ := xs.find? fun a => key a = k

theorem mem_of_firstWith {k : κ} {xs : List σ} {a : σ} (h : firstWith key k xs = some a) :
    a ∈ xs ∧ key a = k :=
  ⟨List.mem_of_find?_eq_some h, by simpa using List.find?_some h⟩

theorem exists_firstWith {k : κ} {xs : List σ} {a : σ} (h : a ∈ xs) (hk : key a = k) :
    ∃ b, firstWith key k xs = some b := by
  cases hfirst : firstWith key k xs with
  | some b => exact ⟨b, rfl⟩
  | none => exact absurd hk (by simpa using List.find?_eq_none.mp hfirst a h)

/-- Every element is the first one with its key in some order. -/
theorem exists_perm_firstWith {xs : List σ} {a : σ} (h : a ∈ xs) :
    ∃ ys, ys.Perm xs ∧ firstWith key (key a) ys = some a := by
  obtain ⟨before, after, rfl⟩ := List.append_of_mem h
  exact ⟨a :: (before ++ after), List.perm_middle.symm, by simp [firstWith]⟩

/-- In some order, every key that a good element has is answered with a good element. -/
theorem exists_perm_good (good : σ → Prop) (xs : List σ) :
    ∃ ys, ys.Perm xs ∧ ∀ k a, (∃ b ∈ xs, key b = k ∧ good b) → firstWith key k ys = some a →
      good a := by
  classical
  refine ⟨xs.filter good ++ xs.filter fun a => !decide (good a), List.filter_append_perm _ _, ?_⟩
  rintro k a ⟨b, hb, hkey, hgood⟩ hfirst
  have hmem : b ∈ xs.filter good := by simpa using ⟨hb, hgood⟩
  obtain ⟨c, hc⟩ := exists_firstWith hmem hkey
  have hsame : firstWith key k (xs.filter good ++ xs.filter fun a => !decide (good a)) =
      some c := by
    rw [firstWith, List.find?_append]
    simpa [firstWith] using Or.inl hc
  rw [hsame] at hfirst
  cases hfirst
  simpa using (List.mem_filter.mp (mem_of_firstWith hc).1).2

/-- A key of a kind is answered with an element of a kind. -/
def Answers (key : σ → κ) (keys : κ → Prop) (bad : σ → Prop) (xs : List σ) : Prop :=
  ∃ k a, keys k ∧ firstWith key k xs = some a ∧ bad a

variable {keys : κ → Prop} {bad : σ → Prop} {xs : List σ}

/-- In every order some key is answered with an element of a kind exactly when one key has
elements, and only elements of that kind. -/
theorem forall_answers_iff :
    (∀ ys, ys.Perm xs → Answers key keys bad ys) ↔
      ∃ k, keys k ∧ (∃ a ∈ xs, key a = k) ∧ ∀ a ∈ xs, key a = k → bad a := by
  constructor
  · intro h
    obtain ⟨ys, hperm, hgood⟩ : ∃ ys, ys.Perm xs ∧ ∀ k a, (∃ b ∈ xs, key b = k ∧ ¬ bad b) →
        firstWith key k ys = some a → ¬ bad a := exists_perm_good (fun a => ¬ bad a) xs
    obtain ⟨k, a, hk, hfirst, hbad⟩ := h ys hperm
    obtain ⟨hmem, hkey⟩ := mem_of_firstWith hfirst
    refine ⟨k, hk, ⟨a, hperm.mem_iff.mp hmem, hkey⟩, ?_⟩
    intro b hb hbkey
    by_contra hgoodb
    exact hgood k a ⟨b, hb, hbkey, hgoodb⟩ hfirst hbad
  · rintro ⟨k, hk, ⟨a, ha, hkey⟩, hall⟩ ys hperm
    obtain ⟨b, hfirst⟩ := exists_firstWith (hperm.mem_iff.mpr ha) hkey
    obtain ⟨hmem, hbkey⟩ := mem_of_firstWith hfirst
    exact ⟨k, b, hk, hfirst, hall b (hperm.mem_iff.mp hmem) hbkey⟩

/-- In no order a key is answered with an element of a kind exactly when no element that has
such a key is of that kind. -/
theorem forall_not_answers_iff :
    (∀ ys, ys.Perm xs → ¬ Answers key keys bad ys) ↔ ∀ a ∈ xs, keys (key a) → ¬ bad a := by
  constructor
  · intro h a ha hk hbad
    obtain ⟨ys, hperm, hfirst⟩ : ∃ ys, ys.Perm xs ∧ firstWith key (key a) ys = some a :=
      exists_perm_firstWith ha
    exact h ys hperm ⟨key a, a, hk, hfirst, hbad⟩
  · rintro h ys hperm ⟨k, a, hk, hfirst, hbad⟩
    obtain ⟨hmem, rfl⟩ := mem_of_firstWith hfirst
    exact h a (hperm.mem_iff.mp hmem) hk hbad

end AtlasOS
