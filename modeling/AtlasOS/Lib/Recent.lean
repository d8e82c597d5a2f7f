import Mathlib.Data.List.Induction
import Mathlib.Data.List.Sort

/-!
# The most recent rows

Rows are listed by a key in descending order, and rows of one key from the last to the
first. The first rows of such a listing can be kept while rows are added, and rows
under a growing bound dropped, without ever missing a row that was dropped before.
-/

namespace AtlasOS.Recent

variable {ρ κ : Type} [LinearOrder κ] (key : ρ → κ)

/-- The rows from the most recent to the least recent one. -/
def listing (rows : List ρ) : List ρ := rows.reverse.insertionSort fun a b => key b ≤ key a

/-- A listing with a row that was added. -/
def place (row : ρ) (listed : List ρ) : List ρ :=
  listed.orderedInsert (fun a b => key b ≤ key a) row

variable {key} {rows listed : List ρ} {row : ρ} {n : ℕ}

@[simp] theorem listing_nil : listing key [] = [] := rfl

theorem listing_concat (rows : List ρ) (row : ρ) :
    listing key (rows ++ [row]) = place key row (listing key rows) := by
  rw [listing, List.reverse_append]
  rfl

theorem listing_perm (rows : List ρ) : (listing key rows).Perm rows :=
  (List.perm_insertionSort _ _).trans (List.reverse_perm rows)

@[simp] theorem mem_listing : row ∈ listing key rows ↔ row ∈ rows := (listing_perm rows).mem_iff

/-- A listing is descending. -/
theorem pairwise_listing (rows : List ρ) :
    (listing key rows).Pairwise fun a b => key b ≤ key a := by
  have htotal : Std.Total fun a b : ρ => key b ≤ key a := ⟨fun a b => le_total (key b) (key a)⟩
  have htrans : IsTrans ρ fun a b => key b ≤ key a := ⟨fun _ _ _ hab hbc => hbc.trans hab⟩
  exact List.pairwise_insertionSort _ rows.reverse

theorem place_cons_of_le {other : ρ} (h : key other ≤ key row) (listed : List ρ) :
    place key row (other :: listed) = row :: other :: listed := by
  rw [place, List.orderedInsert, if_pos h]

theorem place_cons_of_lt {other : ρ} (h : key row < key other) (listed : List ρ) :
    place key row (other :: listed) = other :: place key row listed := by
  rw [place, List.orderedInsert, if_neg h.not_ge]
  rfl

/-- Rows that are not listed leave the others where they are. -/
theorem filter_place {p : ρ → Bool} (h : listed.Pairwise fun a b => key b ≤ key a) (row : ρ) :
    (place key row listed).filter p =
      if p row = true then place key row (listed.filter p) else listed.filter p := by
  induction listed with
  | nil => by_cases hp : p row = true <;> simp [place, hp]
  | cons other listed ih =>
    obtain ⟨hother, hlisted⟩ := List.pairwise_cons.mp h
    rcases le_or_gt (key other) (key row) with hle | hlt
    · rw [place_cons_of_le hle]
      by_cases hp : p row = true
      · rw [if_pos hp, List.filter_cons_of_pos hp]
        -- every row that is left is less recent
        cases hrest : (other :: listed).filter p with
        | nil => rfl
        | cons first rest =>
          have hfirst : first ∈ other :: listed :=
            List.mem_of_mem_filter (hrest ▸ List.mem_cons_self)
          have hkey : key first ≤ key row := by
            rcases List.mem_cons.mp hfirst with rfl | hmem
            · exact hle
            · exact (hother first hmem).trans hle
          rw [place_cons_of_le hkey]
      · rw [if_neg hp, List.filter_cons_of_neg hp]
    · rw [place_cons_of_lt hlt]
      by_cases hp : p other = true
      · rw [List.filter_cons_of_pos hp, List.filter_cons_of_pos hp, ih hlisted,
          place_cons_of_lt hlt]
        split_ifs <;> rfl
      · rw [List.filter_cons_of_neg hp, List.filter_cons_of_neg hp, ih hlisted]

theorem listing_filter (p : ρ → Bool) (rows : List ρ) :
    listing key (rows.filter p) = (listing key rows).filter p := by
  induction rows using List.reverseRecOn with
  | nil => rfl
  | append_singleton rows row ih =>
    rw [List.filter_append, listing_concat, filter_place (pairwise_listing rows), ← ih]
    by_cases hp : p row = true
    · rw [List.filter_cons_of_pos hp, List.filter_nil, listing_concat, if_pos hp]
    · rw [List.filter_cons_of_neg hp, List.filter_nil, List.append_nil, if_neg hp]

/-- Of the listing with a row that was added, the first rows are known from the first rows. -/
theorem take_place (n : ℕ) (row : ρ) (listed : List ρ) :
    (place key row (listed.take n)).take n = (place key row listed).take n := by
  induction listed generalizing n with
  | nil => rw [List.take_nil]
  | cons other listed ih =>
    cases n with
    | zero => rw [List.take_zero, List.take_zero]
    | succ n =>
      rw [List.take_succ_cons]
      rcases le_or_gt (key other) (key row) with hle | hlt
      · rw [place_cons_of_le hle, place_cons_of_le hle, List.take_succ_cons, List.take_succ_cons]
        cases n with
        | zero => rfl
        | succ n => rw [List.take_succ_cons, List.take_succ_cons, List.take_take, min_eq_left n.le_succ]
      · rw [place_cons_of_lt hlt, place_cons_of_lt hlt, List.take_succ_cons, List.take_succ_cons, ih]

/-- The rows above a bound come first. -/
theorem filter_take {bound : κ} (h : listed.Pairwise fun a b => key b ≤ key a) (n : ℕ) :
    (listed.take n).filter (fun row => bound ≤ key row) =
      (listed.filter fun row => bound ≤ key row).take n := by
  induction listed generalizing n with
  | nil => simp
  | cons first listed ih =>
    obtain ⟨hfirst, hlisted⟩ := List.pairwise_cons.mp h
    cases n with
    | zero => rfl
    | succ n =>
      rw [List.take_succ_cons]
      by_cases hbound : bound ≤ key first
      · rw [List.filter_cons_of_pos (by simpa using hbound),
          List.filter_cons_of_pos (by simpa using hbound), List.take_succ_cons, ih hlisted]
      · have hnone (others : List ρ) (hsub : others ⊆ listed) :
            others.filter (fun row => bound ≤ key row) = [] := by
          refine List.filter_eq_nil_iff.mpr fun other hother hle => hbound ?_
          exact (of_decide_eq_true hle).trans (hfirst other (hsub hother))
        rw [List.filter_cons_of_neg (by simpa using hbound),
          List.filter_cons_of_neg (by simpa using hbound), hnone _ (List.take_subset n listed),
          hnone _ (List.Subset.refl _), List.take_nil]

/-- Keeping the rows whose identifier is among those of the first rows keeps the first rows. -/
theorem filter_mem_take {ι : Type} [DecidableEq ι] {id : ρ → ι} (h : (listed.map id).Nodup) (n : ℕ) :
    listed.filter (fun row => decide (id row ∈ (listed.take n).map id)) = listed.take n := by
  induction listed generalizing n with
  | nil => simp
  | cons first listed ih =>
    rw [List.map_cons, List.nodup_cons] at h
    cases n with
    | zero => simp
    | succ n =>
      have hrest : listed.filter (fun row => decide (id row ∈ ((first :: listed).take (n + 1)).map id)) =
          listed.filter fun row => decide (id row ∈ (listed.take n).map id) := by
        refine List.filter_congr fun row hrow => ?_
        have hne : id row ≠ id first := fun heq => h.1 (heq ▸ List.mem_map_of_mem hrow)
        simp [hne]
      rw [List.filter_cons_of_pos (by simp), hrest, ih h.2, List.take_succ_cons]

/-! ## The rows that are kept -/

variable (key) in
/-- The first rows of those that are not under a bound. -/
def recent (n : ℕ) (bound : κ) (rows : List ρ) : List ρ :=
  ((listing key rows).filter fun row => bound ≤ key row).take n

variable {floor bound : κ} {kept : List ρ}

theorem recent_sublist (n : ℕ) (bound : κ) (rows : List ρ) :
    (recent key n bound rows).Sublist (listing key rows) :=
  (List.take_sublist _ _).trans List.filter_sublist

theorem mem_of_mem_recent (h : row ∈ recent key n bound rows) : row ∈ rows :=
  mem_listing.mp ((recent_sublist n bound rows).subset h)

theorem pairwise_recent (n : ℕ) (bound : κ) (rows : List ρ) :
    (recent key n bound rows).Pairwise fun a b => key b ≤ key a :=
  (pairwise_listing rows).sublist (recent_sublist n bound rows)

theorem length_recent_le (n : ℕ) (bound : κ) (rows : List ρ) :
    (recent key n bound rows).length ≤ n := List.length_take_le _ _

/-- When the bound grows, no row is needed that is not kept. -/
theorem filter_recent (n : ℕ) (floor bound : κ) (rows : List ρ) :
    (recent key n floor rows).filter (fun row => bound ≤ key row) =
      recent key n (max floor bound) rows := by
  have hsorted := (@pairwise_listing _ _ _ key rows).filter fun row => decide (floor ≤ key row)
  rw [recent, filter_take hsorted, List.filter_filter, recent]
  congr 2
  funext row
  rw [← Bool.decide_and, decide_eq_decide, sup_le_iff, and_comm]

theorem recent_of_kept (h : listing key kept = recent key n floor rows) (hle : floor ≤ bound) :
    recent key n bound kept = recent key n bound rows := by
  have hfilter := @filter_recent _ _ _ key n floor bound rows
  rw [max_eq_right hle] at hfilter
  rw [recent, h, hfilter, List.take_of_length_le (length_recent_le n bound rows)]

/-- What is kept of some rows is enough for what is kept with one more row. -/
theorem recent_concat_of_kept (h : listing key kept = recent key n floor rows) (hle : floor ≤ bound)
    (row : ρ) : recent key n bound (kept ++ [row]) = recent key n bound (rows ++ [row]) := by
  have hkept : (listing key kept).filter (fun row => bound ≤ key row) = recent key n bound rows := by
    rw [h, filter_recent, max_eq_right hle]
  rw [recent, recent, listing_concat, listing_concat, filter_place (pairwise_listing _),
    filter_place (pairwise_listing _), hkept]
  split_ifs
  · exact take_place n row _
  · exact List.take_of_length_le (length_recent_le n bound rows)

/-- Dropping the rows under a bound, and then those that are not among the first ones. -/
theorem listing_kept {ι : Type} [DecidableEq ι] {id : ρ → ι} (h : (rows.map id).Nodup) (n : ℕ)
    (bound : κ) :
    let above := rows.filter fun row => bound ≤ key row
    listing key (above.filter fun row => decide (id row ∈ ((listing key above).take n).map id)) =
      recent key n bound rows := by
  intro above
  have habove : ((listing key above).map id).Nodup := by
    rw [((listing_perm above).map id).nodup_iff]
    exact h.sublist (List.filter_sublist.map id)
  rw [listing_filter, filter_mem_take habove, listing_filter]
  rfl

/-- What only renames the rows, in the order of their keys, renames the listing. -/
theorem listing_map {ρ' κ' : Type} [LinearOrder κ'] {key' : ρ' → κ'} {f : ρ → ρ'}
    (h : ∀ a ∈ rows, ∀ b ∈ rows, key' (f a) ≤ key' (f b) ↔ key a ≤ key b) :
    listing key' (rows.map f) = (listing key rows).map f := by
  induction rows using List.reverseRecOn with
  | nil => rfl
  | append_singleton rows row ih =>
    have hplace (listed : List ρ) (hsub : listed ⊆ rows) :
        place key' (f row) (listed.map f) = (place key row listed).map f := by
      induction listed with
      | nil => rfl
      | cons other listed ihl =>
        obtain ⟨hmem, hsub⟩ := List.cons_subset.mp hsub
        have hiff := h other (List.mem_append_left _ hmem) row
          (List.mem_append_right _ List.mem_cons_self)
        rcases le_or_gt (key other) (key row) with hle | hlt
        · rw [place_cons_of_le hle, List.map_cons, place_cons_of_le (hiff.mpr hle)]
          rfl
        · have hlt' : key' (f row) < key' (f other) :=
            lt_of_not_ge fun hle => hlt.not_ge (hiff.mp hle)
          rw [place_cons_of_lt hlt, List.map_cons, place_cons_of_lt hlt', ihl hsub, List.map_cons]
    rw [List.map_append, List.map_singleton, listing_concat, listing_concat, ih, hplace]
    · exact fun other hother => mem_listing.mp hother
    · exact fun a ha b hb => h a (List.mem_append_left _ ha) b (List.mem_append_left _ hb)

theorem recent_map {ρ' κ' : Type} [LinearOrder κ'] {key' : ρ' → κ'} {f : ρ → ρ'} {bound' : κ'}
    (h : ∀ a ∈ rows, ∀ b ∈ rows, key' (f a) ≤ key' (f b) ↔ key a ≤ key b)
    (hbound : ∀ a ∈ rows, bound' ≤ key' (f a) ↔ bound ≤ key a) (n : ℕ) :
    recent key' n bound' (rows.map f) = (recent key n bound rows).map f := by
  have hfilter : (listing key rows).filter ((fun row => decide (bound' ≤ key' row)) ∘ f) =
      (listing key rows).filter fun row => bound ≤ key row := by
    refine List.filter_congr fun row hrow => ?_
    exact decide_eq_decide.mpr (hbound row (mem_listing.mp hrow))
  rw [recent, listing_map h, List.filter_map, hfilter, ← List.map_take]
  rfl

end AtlasOS.Recent
