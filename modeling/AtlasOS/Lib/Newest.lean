import Mathlib.Data.List.Basic
import Mathlib.Order.Lattice

/-!
# The greatest elements of a list

Sorting a list in descending order and dropping the first few elements leaves the
elements that have at least so many greater ones. Stated by the number of greater
elements, membership among the first does not mention the sort.
-/

namespace AtlasOS

variable {α : Type} [LinearOrder α] {l : List α} {a : α} {k : ℕ}

/-- The number of elements of a list that are greater. -/
def rank (l : List α) (a : α) : ℕ := l.countP (a < ·)

/-- The list in descending order. -/
def descending (l : List α) : List α := l.mergeSort fun a b => decide (b ≤ a)

theorem descending_perm (l : List α) : (descending l).Perm l := List.mergeSort_perm l _

theorem rank_descending (l : List α) (a : α) : rank (descending l) a = rank l a :=
  (descending_perm l).countP_eq _

/-- Without repetitions, the order is strict. -/
theorem descending_pairwise (h : l.Nodup) : (descending l).Pairwise (· > ·) := by
  have hdecided : (descending l).Pairwise fun a b => decide (b ≤ a) = true :=
    List.pairwise_mergeSort (fun _ _ _ hab hbc => by
      simp only [decide_eq_true_eq] at *
      exact le_trans hbc hab) (fun a b => by simpa using le_total b a) l
  have hdistinct : (descending l).Nodup := (descending_perm l).nodup_iff.mpr h
  exact hdecided.imp₂ (fun a b hle hne => lt_of_le_of_ne (of_decide_eq_true hle) hne.symm) hdistinct

/-- What is dropped from a descending list are its elements with few greater ones. -/
theorem mem_drop_iff_of_pairwise (h : l.Pairwise (· > ·)) : a ∈ l.drop k ↔ a ∈ l ∧ k ≤ rank l a := by
  induction l generalizing k with
  | nil => simp
  | cons b l ih =>
    obtain ⟨hhead, htail⟩ := List.pairwise_cons.mp h
    cases k with
    | zero => simp
    | succ k =>
      rw [List.drop_succ_cons, ih htail]
      constructor
      · rintro ⟨hmem, hrank⟩
        have hlt : a < b := hhead a hmem
        refine ⟨List.mem_cons_of_mem b hmem, ?_⟩
        rw [rank, List.countP_cons_of_pos (by simpa using hlt)]
        exact Nat.succ_le_succ hrank
      · rintro ⟨hmem, hrank⟩
        rcases List.mem_cons.mp hmem with rfl | hmem
        · -- nothing is greater than the head
          have hnone : rank l a = 0 :=
            List.countP_eq_zero.mpr fun c hc => by simpa using (hhead c hc).le
          rw [rank, List.countP_cons_of_neg (by simp)] at hrank
          rw [rank] at hnone
          omega
        · refine ⟨hmem, ?_⟩
          rw [rank, List.countP_cons_of_pos (by simpa using hhead a hmem)] at hrank
          exact Nat.le_of_succ_le_succ hrank

/-- All but the first few in descending order are those with at least so many greater ones. -/
theorem mem_drop_descending (h : l.Nodup) :
    a ∈ (descending l).drop k ↔ a ∈ l ∧ k ≤ rank l a := by
  rw [mem_drop_iff_of_pairwise (descending_pairwise h), (descending_perm l).mem_iff, rank_descending]

end AtlasOS
