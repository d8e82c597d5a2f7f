import Mathlib.Data.List.Dedup
import Mathlib.Data.List.Pairwise
import Mathlib.Data.List.Sort
import Mathlib.Data.String.Basic

/-!
# Rows of a table

A table is the list of its rows in the order of their insertion. Two rows that a
uniqueness constraint keeps apart *clash*; an insertion is refused when the new
row clashes with a stored one, and `ORDER BY` sorts by a key. The lemmas say how
the queries answer after an insertion.
-/

namespace AtlasOS.Rows

variable {ρ κ β : Type}

/-! ## Sorting by a key -/

section OrderBy

variable [LinearOrder κ]

/-- `ORDER BY key`, and `sorted(rows, key=key)`: a stable sort. -/
def orderBy (key : ρ → κ) (rows : List ρ) : List ρ :=
  rows.mergeSort fun a b => decide (key a ≤ key b)

variable {key : ρ → κ} {rows rows' : List ρ} {row : ρ}

theorem orderBy_perm (key : ρ → κ) (rows : List ρ) : (orderBy key rows).Perm rows :=
  List.mergeSort_perm rows _

@[simp] theorem mem_orderBy : row ∈ orderBy key rows ↔ row ∈ rows :=
  (orderBy_perm key rows).mem_iff

@[simp] theorem length_orderBy : (orderBy key rows).length = rows.length :=
  (orderBy_perm key rows).length_eq

theorem pairwise_orderBy (key : ρ → κ) (rows : List ρ) :
    (orderBy key rows).Pairwise fun a b => key a ≤ key b := by
  have h : (orderBy key rows).Pairwise fun a b => decide (key a ≤ key b) = true :=
    List.pairwise_mergeSort
      (fun a b c hab hbc => decide_eq_true ((of_decide_eq_true hab).trans (of_decide_eq_true hbc)))
      (fun a b => by simpa using le_total (key a) (key b)) rows
  exact h.imp of_decide_eq_true

/-- Sorted rows stay as they are. -/
theorem orderBy_eq_self (h : rows.Pairwise fun a b => key a ≤ key b) : orderBy key rows = rows :=
  List.mergeSort_of_pairwise (h.imp fun hab => by simpa using hab)

@[simp] theorem orderBy_nil (key : ρ → κ) : orderBy key [] = [] := orderBy_eq_self .nil

@[simp] theorem orderBy_orderBy : orderBy key (orderBy key rows) = orderBy key rows :=
  orderBy_eq_self (pairwise_orderBy key rows)

/-- A strictly sorted arrangement of the rows is the sorted one. -/
theorem orderBy_eq_of_perm (hperm : rows'.Perm rows)
    (h : rows'.Pairwise fun a b => key a < key b) : orderBy key rows = rows' := by
  have hnodup : (rows'.map key).Nodup := List.pairwise_map.mpr (h.imp ne_of_lt)
  refine ((orderBy_perm key rows).trans hperm.symm).eq_of_pairwise ?_
    (pairwise_orderBy key rows) (h.imp le_of_lt)
  intro a b ha hb hab hba
  have hmem : a ∈ rows' := hperm.mem_iff.mpr (mem_orderBy.mp ha)
  exact List.inj_on_of_nodup_map hnodup hmem hb (le_antisymm hab hba)

/-- Rows with distinct keys are sorted strictly. -/
theorem pairwise_lt_orderBy (h : (rows.map key).Nodup) :
    (orderBy key rows).Pairwise fun a b => key a < key b := by
  have hnodup : ((orderBy key rows).map key).Nodup :=
    ((orderBy_perm key rows).map key).nodup_iff.mpr h
  have hne := List.pairwise_map.mp hnodup
  exact ((pairwise_orderBy key rows).and hne).imp fun hab => lt_of_le_of_ne hab.1 hab.2

/-- A row with a larger key than the stored ones is listed last. -/
theorem orderBy_append (h : (rows.map key).Nodup) (hrow : ∀ a ∈ rows, key a < key row) :
    orderBy key (rows ++ [row]) = orderBy key rows ++ [row] := by
  refine orderBy_eq_of_perm ((orderBy_perm key rows).append_right [row]) ?_
  rw [List.pairwise_append]
  refine ⟨pairwise_lt_orderBy h, List.pairwise_singleton _ _, ?_⟩
  intro a ha b hb
  rw [List.mem_singleton.mp hb]
  exact hrow a (mem_orderBy.mp ha)

/-- The selected rows after the insertion of one more of them, with a larger key. -/
theorem orderBy_filter_append_of_pos {p : ρ → Bool} (h : ((rows.filter p).map key).Nodup)
    (hp : p row = true) (hrow : ∀ a ∈ rows, p a = true → key a < key row) :
    orderBy key ((rows ++ [row]).filter p) = orderBy key (rows.filter p) ++ [row] := by
  rw [List.filter_append, List.filter_cons_of_pos hp, List.filter_nil]
  refine orderBy_append h fun a ha => ?_
  obtain ⟨hmem, ha⟩ := List.mem_filter.mp ha
  exact hrow a hmem ha

/-- The selected rows after the insertion of another row. -/
theorem orderBy_filter_append_of_neg {p : ρ → Bool} (hp : ¬p row = true) :
    orderBy key ((rows ++ [row]).filter p) = orderBy key (rows.filter p) := by
  rw [List.filter_append, List.filter_cons_of_neg hp, List.filter_nil, List.append_nil]

/-- What is computed from the keys alone does not see the order of the rows. -/
theorem map_orderBy_eq_of_perm {f : ρ → β} (hf : ∀ a ∈ rows, ∀ b ∈ rows, key a = key b → f a = f b)
    (hperm : rows.Perm rows') : (orderBy key rows).map f = (orderBy key rows').map f := by
  have hsorted (l : List ρ) : ((orderBy key l).map key).Pairwise (· ≤ ·) :=
    List.pairwise_map.mpr (pairwise_orderBy key l)
  have hall : (orderBy key rows).Perm (orderBy key rows') :=
    ((orderBy_perm key rows).trans hperm).trans (orderBy_perm key rows').symm
  have hkeys : (orderBy key rows).map key = (orderBy key rows').map key :=
    (hall.map key).eq_of_pairwise (fun _ _ _ _ => le_antisymm) (hsorted rows) (hsorted rows')
  refine List.ext_getElem (by simp [hperm.length_eq]) ?_
  intro i h₁ h₂
  rw [List.getElem_map, List.getElem_map]
  rw [List.length_map] at h₁ h₂
  have hkey : key ((orderBy key rows)[i]) = key ((orderBy key rows')[i]) := by
    have h := congrArg (fun l => l[i]?) hkeys
    simpa only [List.getElem?_map, List.getElem?_eq_getElem h₁, List.getElem?_eq_getElem h₂,
      Option.map_some, Option.some.injEq] using h
  exact hf _ (mem_orderBy.mp (List.getElem_mem h₁)) _
    (hperm.mem_iff.mpr (mem_orderBy.mp (List.getElem_mem h₂))) hkey

end OrderBy

/-! ## Rows with their images -/

/-- Each image in a pairing comes from one of the rows. -/
theorem exists_of_mem_right {R : ρ → β → Prop} {rows : List ρ} {images : List β}
    (h : List.Forall₂ R rows images) {b : β} (hb : b ∈ images) : ∃ a ∈ rows, R a b := by
  induction h with
  | nil => cases hb
  | cons hR _ ih =>
    rcases List.mem_cons.mp hb with rfl | hb
    · exact ⟨_, List.mem_cons_self, hR⟩
    · obtain ⟨a, ha, hab⟩ := ih hb
      exact ⟨a, List.mem_cons_of_mem _ ha, hab⟩

/-- Each row in a pairing has an image. -/
theorem exists_of_mem_left {R : ρ → β → Prop} {rows : List ρ} {images : List β}
    (h : List.Forall₂ R rows images) {a : ρ} (ha : a ∈ rows) : ∃ b ∈ images, R a b :=
  exists_of_mem_right h.flip ha

/-- A pairing is extended at the end. -/
theorem forall₂_append_singleton {R : ρ → β → Prop} {rows : List ρ} {images : List β}
    (h : List.Forall₂ R rows images) {a : ρ} {b : β} (hab : R a b) :
    List.Forall₂ R (rows ++ [a]) (images ++ [b]) :=
  List.rel_append h (List.Forall₂.cons hab List.Forall₂.nil)

/-! ## Distinct values -/

section Distinct

variable [LinearOrder κ]

/-- `SELECT DISTINCT key ... ORDER BY key` -/
def distinct (key : ρ → κ) (rows : List ρ) : List κ := orderBy id (rows.map key).dedup

variable {key : ρ → κ} {rows : List ρ} {k : κ}

@[simp] theorem mem_distinct : k ∈ distinct key rows ↔ ∃ row ∈ rows, key row = k := by
  rw [distinct, mem_orderBy, List.mem_dedup, List.mem_map]

theorem nodup_distinct : (distinct key rows).Nodup :=
  (orderBy_perm id _).nodup_iff.mpr (List.nodup_dedup _)

end Distinct

/-! ## The first row of each key -/

section Firsts

variable [DecidableEq κ]

/-- The rows whose key no earlier row has. -/
def firsts (key : ρ → κ) : List ρ → List ρ
  | [] => []
  | row :: rows => row :: (firsts key rows).filter fun other => decide (key other ≠ key row)

variable {key : ρ → κ} {rows : List ρ} {row : ρ} {k : κ}

theorem firsts_sublist (key : ρ → κ) (rows : List ρ) : (firsts key rows).Sublist rows := by
  induction rows with
  | nil => exact List.Sublist.slnil
  | cons row rows ih => exact (List.filter_sublist.trans ih).cons_cons row

theorem mem_of_mem_firsts (h : row ∈ firsts key rows) : row ∈ rows :=
  (firsts_sublist key rows).subset h

/-- The first rows have distinct keys. -/
theorem nodup_firsts (key : ρ → κ) (rows : List ρ) : ((firsts key rows).map key).Nodup := by
  induction rows with
  | nil => exact List.nodup_nil
  | cons row rows ih =>
    rw [firsts, List.map_cons, List.nodup_cons]
    refine ⟨?_, (List.filter_sublist.map key).nodup ih⟩
    simp

/-- Every key has a first row. -/
theorem exists_firsts (key : ρ → κ) (h : row ∈ rows) : ∃ first ∈ firsts key rows, key first = key row := by
  induction rows with
  | nil => simp at h
  | cons head rows ih =>
    by_cases hkey : key row = key head
    · exact ⟨head, List.mem_cons_self, hkey.symm⟩
    · have hmem : row ∈ rows := by
        rcases List.mem_cons.mp h with rfl | hmem
        · exact absurd rfl hkey
        · exact hmem
      obtain ⟨first, hfirst, heq⟩ := ih hmem
      exact ⟨first, List.mem_cons_of_mem _ (List.mem_filter.mpr ⟨hfirst, by simp [heq, hkey]⟩), heq⟩

/-- Rows of distinct keys are all first. -/
theorem firsts_eq_self (h : (rows.map key).Nodup) : firsts key rows = rows := by
  induction rows with
  | nil => rfl
  | cons row rows ih =>
    rw [List.map_cons, List.nodup_cons] at h
    rw [firsts, ih h.2]
    congr 1
    apply List.filter_eq_self.mpr
    intro other hother
    have hne : key other ≠ key row := fun heq => h.1 (heq ▸ List.mem_map_of_mem hother)
    simpa using hne

/-- Keys that tell the same rows apart have the same first rows. -/
theorem firsts_congr {κ' : Type} [DecidableEq κ'] {key' : ρ → κ'}
    (h : ∀ a ∈ rows, ∀ b ∈ rows, key a = key b ↔ key' a = key' b) :
    firsts key rows = firsts key' rows := by
  induction rows with
  | nil => rfl
  | cons row rows ih =>
    rw [firsts, firsts,
      ih fun a ha b hb => h a (List.mem_cons_of_mem _ ha) b (List.mem_cons_of_mem _ hb)]
    congr 1
    apply List.filter_congr
    intro other hother
    have hmem := List.mem_cons_of_mem row (mem_of_mem_firsts hother)
    exact decide_eq_decide.mpr (h other hmem row List.mem_cons_self).not

/-- The first row of a key is that of the rows with the key. -/
theorem filter_firsts (key : ρ → κ) (rows : List ρ) (k : κ) :
    (firsts key rows).filter (fun row => decide (key row = k)) =
      firsts key (rows.filter fun row => decide (key row = k)) := by
  induction rows with
  | nil => rfl
  | cons row rows ih =>
    by_cases hk : key row = k
    · rw [firsts, List.filter_cons_of_pos (by simpa using hk),
        List.filter_cons_of_pos (by simpa using hk), firsts, ← ih]
      congr 1
      rw [List.filter_filter, List.filter_filter]
      simp only [Bool.and_comm]
    · rw [firsts, List.filter_cons_of_neg (by simpa using hk),
        List.filter_cons_of_neg (by simpa using hk), ← ih, List.filter_filter]
      apply List.filter_congr
      intro other _
      by_cases hother : key other = k
      · have hne : key other ≠ key row := fun heq => hk (heq.symm.trans hother)
        simp [hother, hother ▸ hne]
      · simp [hother]

end Firsts

/-! ## Uniqueness constraints -/

section Unique

variable {clash : ρ → ρ → Bool} {rows rows' : List ρ} {row : ρ}

/-- No two rows of the table clash. -/
def Separated (clash : ρ → ρ → Bool) (rows : List ρ) : Prop :=
  rows.Pairwise fun a b => clash a b = false

instance : Decidable (Separated clash rows) :=
  inferInstanceAs (Decidable (rows.Pairwise fun a b => clash a b = false))

/-- `INSERT`, refused when a stored row clashes with the new one. -/
def insert (clash : ρ → ρ → Bool) (row : ρ) (rows : List ρ) : Option (List ρ) :=
  if rows.any (clash · row) then none else some (rows ++ [row])

theorem insert_eq_some :
    insert clash row rows = some rows' ↔
      (∀ a ∈ rows, clash a row = false) ∧ rows' = rows ++ [row] := by
  unfold insert
  split
  · next h =>
    obtain ⟨a, ha, hclash⟩ := List.any_eq_true.mp h
    constructor
    · rintro ⟨⟩
    · intro hall
      exact absurd (hall.1 a ha) (by simp [hclash])
  · next h =>
    rw [Option.some.injEq, eq_comm (a := rows ++ [row])]
    refine ⟨fun heq => ⟨fun a ha => ?_, heq⟩, And.right⟩
    by_contra hclash
    exact h (List.any_eq_true.mpr ⟨a, ha, by simpa using hclash⟩)

theorem separated_nil : Separated clash ([] : List ρ) := List.Pairwise.nil

/-- A row that clashes with no other keeps the constraint. -/
theorem Separated.append_singleton (h : Separated clash rows)
    (hrow : ∀ a ∈ rows, clash a row = false) : Separated clash (rows ++ [row]) := by
  refine List.pairwise_append.mpr ⟨h, List.pairwise_singleton _ _, ?_⟩
  intro a ha b hb
  rw [List.mem_singleton.mp hb]
  exact hrow a ha

/-- Under a symmetric constraint the rows that clash are one row. -/
theorem Separated.eq_of_clash (h : Separated clash rows) (hsymm : ∀ a b, clash a b = clash b a)
    {a b : ρ} (ha : a ∈ rows) (hb : b ∈ rows) (hclash : clash a b = true) : a = b := by
  by_contra hne
  have hflip : Std.Symm fun a b => clash a b = false := ⟨fun x y hxy => (hsymm y x).trans hxy⟩
  have hall : clash a b = false := List.Pairwise.forall h ha hb hne
  rw [hclash] at hall
  cases hall

/-- A key that the constraint covers has distinct values. -/
theorem Separated.nodup_map (h : Separated clash rows) {key : ρ → κ}
    (hkey : ∀ a ∈ rows, ∀ b ∈ rows, key a = key b → clash a b = true) : (rows.map key).Nodup := by
  refine List.pairwise_map.mpr (List.Pairwise.imp_of_mem ?_ h)
  intro a b ha hb hab heq
  rw [hkey a ha b hb heq] at hab
  cases hab

theorem Separated.filter (h : Separated clash rows) (p : ρ → Bool) :
    Separated clash (rows.filter p) :=
  List.Pairwise.filter p h

/-- A row under a key that the constraint covers is the one found. -/
theorem Separated.find_eq_some [DecidableEq κ] (h : Separated clash rows) {key : ρ → κ}
    (hkey : ∀ a b, key a = key b → clash a b = true) {k : κ} :
    rows.find? (fun a => decide (key a = k)) = some row ↔ row ∈ rows ∧ key row = k := by
  constructor
  · intro hfind
    exact ⟨List.mem_of_find?_eq_some hfind, by simpa using List.find?_some hfind⟩
  · rintro ⟨hmem, rfl⟩
    cases hfind : rows.find? (fun a => decide (key a = key row)) with
    | none =>
      have hnot := List.find?_eq_none.mp hfind row hmem
      simp at hnot
    | some a =>
      have heq : key a = key row := by simpa using List.find?_some hfind
      rw [List.inj_on_of_nodup_map (h.nodup_map fun a _ b _ => hkey a b)
        (List.mem_of_find?_eq_some hfind) hmem heq]

/-- A lookup under a key that the new row does not have. -/
theorem find_append_of_ne [DecidableEq κ] {key : ρ → κ} {k : κ} (h : key row ≠ k) :
    (rows ++ [row]).find? (fun a => decide (key a = k)) =
      rows.find? fun a => decide (key a = k) := by
  rw [List.find?_append, List.find?_singleton, if_neg (by simpa using h), Option.or_none]

/-- A lookup that found a row finds it after an insertion. -/
theorem find_append_of_eq_some {p : ρ → Bool} {a : ρ} (h : rows.find? p = some a) (row : ρ) :
    (rows ++ [row]).find? p = some a := by
  rw [List.find?_append, h, Option.some_or]

/-- A lookup under the key of the new row, when no stored row has it. -/
theorem find_append_self {p : ρ → Bool} (hrow : p row = true) (h : ∀ a ∈ rows, ¬p a = true) :
    (rows ++ [row]).find? p = some row := by
  rw [List.find?_append, List.find?_eq_none.mpr h, Option.none_or, List.find?_singleton, if_pos hrow]

end Unique

end AtlasOS.Rows
