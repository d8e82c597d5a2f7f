import Mathlib.Data.List.Nodup
import Mathlib.Data.List.Perm.Basic
import Mathlib.Data.String.Basic

/-!
# Dictionaries in the order of insertion

A Python dictionary keeps its keys in the order in which they were entered: a
new value for a key keeps its place, and a key that was removed and entered again
comes last.
-/

namespace AtlasOS

/-- A dictionary, its keys in the order of insertion. -/
structure OrderedDict (α : Type) where
  /-- The items, oldest key first. -/
  items : List (String × α)
  /-- A key occurs once. -/
  nodup : (items.map Prod.fst).Nodup

namespace OrderedDict

variable {α : Type} {d : OrderedDict α} {key key' : String} {value : α}

/-- The empty dictionary. -/
def empty : OrderedDict α := ⟨[], List.nodup_nil⟩

/-- `list(d)` -/
def keys (d : OrderedDict α) : List String := d.items.map Prod.fst

/-- `len(d)` -/
def length (d : OrderedDict α) : ℕ := d.items.length

/-- `d.get(key)` -/
def get (d : OrderedDict α) (key : String) : Option α :=
  (d.items.find? fun item => item.1 == key).map Prod.snd

/-- The items after `d[key] = value`. -/
def setItems (items : List (String × α)) (key : String) (value : α) : List (String × α) :=
  if key ∈ items.map Prod.fst then
    items.map fun item => if item.1 = key then (key, value) else item
  else items ++ [(key, value)]

theorem keys_setItems (items : List (String × α)) (key : String) (value : α) :
    (setItems items key value).map Prod.fst =
      if key ∈ items.map Prod.fst then items.map Prod.fst else items.map Prod.fst ++ [key] := by
  unfold setItems
  split
  · rw [List.map_map]
    apply List.map_congr_left
    intro item _
    by_cases h : item.1 = key
    · simp [h]
    · simp [h]
  · simp

/-- `d[key] = value` -/
def set (d : OrderedDict α) (key : String) (value : α) : OrderedDict α where
  items := setItems d.items key value
  nodup := by
    rw [keys_setItems]
    split
    · exact d.nodup
    · next h => simpa using d.nodup.concat h

/-- `d.pop(key, None)` -/
def pop (d : OrderedDict α) (key : String) : OrderedDict α where
  items := d.items.filter fun item => item.1 != key
  nodup := d.nodup.sublist (List.filter_sublist.map Prod.fst)

@[simp] theorem length_keys (d : OrderedDict α) : d.keys.length = d.length := List.length_map _

theorem nodup_keys (d : OrderedDict α) : d.keys.Nodup := d.nodup

/-- A key has the value that an item gives it. -/
theorem get_eq_some : d.get key = some value ↔ (key, value) ∈ d.items := by
  unfold get
  rw [Option.map_eq_some_iff]
  constructor
  · rintro ⟨item, hfind, rfl⟩
    have hkey : item.1 = key := by simpa using List.find?_some hfind
    exact hkey ▸ List.mem_of_find?_eq_some hfind
  · intro hmem
    cases hfind : d.items.find? fun item => item.1 == key with
    | none =>
      have := List.find?_eq_none.mp hfind _ hmem
      simp at this
    | some item =>
      refine ⟨item, rfl, ?_⟩
      have hkey : item.1 = key := by simpa using List.find?_some hfind
      have hitem := List.mem_of_find?_eq_some hfind
      have heq := List.inj_on_of_nodup_map d.nodup hitem hmem hkey
      rw [heq]

theorem get_eq_none : d.get key = none ↔ key ∉ d.keys := by
  rw [Option.eq_none_iff_forall_ne_some]
  simp only [ne_eq, get_eq_some, keys, List.mem_map, not_exists]
  constructor
  · rintro h item ⟨hitem, rfl⟩
    exact h item.2 hitem
  · exact fun h value hmem => h (key, value) ⟨hmem, rfl⟩

theorem mem_keys : key ∈ d.keys ↔ ∃ value, d.get key = some value := by
  rw [← Option.ne_none_iff_exists', ne_eq, get_eq_none, not_not]

@[simp] theorem get_empty (key : String) : (empty : OrderedDict α).get key = none := rfl

theorem get_set (d : OrderedDict α) (key key' : String) (value : α) :
    (d.set key value).get key' = if key' = key then some value else d.get key' := by
  have hmem (value' : α) : (key', value') ∈ (d.set key value).items ↔
      if key' = key then value' = value else (key', value') ∈ d.items := by
    simp only [set, setItems]
    split_ifs with hpresent heq heq
    · subst heq
      simp only [List.mem_map]
      constructor
      · rintro ⟨item, _, hitem⟩
        split_ifs at hitem with hkey
        · exact (Prod.mk.inj hitem).2.symm
        · exact (hkey (congrArg Prod.fst hitem)).elim
      · rintro rfl
        obtain ⟨item, hitem, hkey⟩ := List.mem_map.mp hpresent
        exact ⟨item, hitem, if_pos hkey⟩
    · simp only [List.mem_map]
      constructor
      · rintro ⟨item, hitem, himage⟩
        split_ifs at himage with hkey
        · exact (heq (congrArg Prod.fst himage).symm).elim
        · exact himage ▸ hitem
      · exact fun hitem => ⟨(key', value'), hitem, if_neg heq⟩
    · subst heq
      have habsent : (key', value') ∉ d.items := fun hitem =>
        hpresent (List.mem_map.mpr ⟨_, hitem, rfl⟩)
      simp [habsent]
    · simp [heq]
  ext value'
  rw [get_eq_some, hmem]
  split_ifs
  · simp [eq_comm]
  · exact get_eq_some.symm

@[simp] theorem get_set_self (d : OrderedDict α) (key : String) (value : α) :
    (d.set key value).get key = some value := by rw [get_set, if_pos rfl]

theorem get_set_of_ne (d : OrderedDict α) (value : α) (h : key' ≠ key) :
    (d.set key value).get key' = d.get key' := by rw [get_set, if_neg h]

theorem get_pop (d : OrderedDict α) (key key' : String) :
    (d.pop key).get key' = if key' = key then none else d.get key' := by
  ext value'
  rw [get_eq_some, pop, List.mem_filter]
  split_ifs with heq
  · simp [heq]
  · simp [heq, get_eq_some]

/-- The later value of a key replaces the earlier one. -/
theorem set_set (d : OrderedDict α) (key : String) (value value' : α) :
    (d.set key value).set key value' = d.set key value' := by
  have hitems : setItems (setItems d.items key value) key value' = setItems d.items key value' := by
    have hpresent : key ∈ (setItems d.items key value).map Prod.fst := by
      rw [keys_setItems]
      split
      · assumption
      · simp
    rw [setItems, if_pos hpresent]
    unfold setItems
    split
    · next h =>
      rw [List.map_map]
      apply List.map_congr_left
      intro item _
      by_cases hkey : item.1 = key
      · simp [hkey]
      · simp [hkey]
    · next h =>
      rw [List.map_append]
      congr 1
      · conv_rhs => rw [← List.map_id d.items]
        apply List.map_congr_left
        intro item hitem
        have hne : item.1 ≠ key := fun heq => h (List.mem_map.mpr ⟨item, hitem, heq⟩)
        simp [hne]
      · simp
  simp only [set, mk.injEq]
  exact hitems

theorem keys_set (d : OrderedDict α) (key : String) (value : α) :
    (d.set key value).keys = if key ∈ d.keys then d.keys else d.keys ++ [key] :=
  keys_setItems _ _ _

theorem keys_pop (d : OrderedDict α) (key : String) : (d.pop key).keys = d.keys.filter (· != key) := by
  rw [keys, keys, pop, List.filter_map]
  rfl

theorem length_set_of_mem (h : key ∈ d.keys) : (d.set key value).length = d.length := by
  rw [← length_keys, keys_set, if_pos h, length_keys]

theorem length_set_of_not_mem (h : key ∉ d.keys) : (d.set key value).length = d.length + 1 := by
  rw [← length_keys, keys_set, if_neg h, List.length_append, length_keys, List.length_singleton]

/-- `for key in gone: d.pop(key, None)` -/
def popAll (d : OrderedDict α) (gone : List String) : OrderedDict α := gone.foldl pop d

theorem get_popAll (d : OrderedDict α) (gone : List String) (key : String) :
    (d.popAll gone).get key = if key ∈ gone then none else d.get key := by
  induction gone generalizing d with
  | nil => simp [popAll]
  | cons first gone ih =>
    have hstep : d.popAll (first :: gone) = (d.pop first).popAll gone := rfl
    rw [hstep, ih, get_pop]
    by_cases hfirst : key = first
    · simp [hfirst]
    · simp [hfirst]

theorem keys_popAll (d : OrderedDict α) (gone : List String) :
    (d.popAll gone).keys = d.keys.filter (· ∉ gone) := by
  induction gone generalizing d with
  | nil => simp [popAll]
  | cons first gone ih =>
    have hstep : d.popAll (first :: gone) = (d.pop first).popAll gone := rfl
    rw [hstep, ih, keys_pop, List.filter_filter]
    apply List.filter_congr
    intro key _
    by_cases hfirst : key = first
    · simp [hfirst]
    · simp [hfirst]

/-- Keys that are there, each named once, leave the dictionary by their number. -/
theorem length_popAll {gone : List String} (hnodup : gone.Nodup) (hgone : ∀ key ∈ gone, key ∈ d.keys) :
    (d.popAll gone).length + gone.length = d.length := by
  rw [← length_keys, ← length_keys, keys_popAll]
  have hperm : (d.keys.filter (· ∈ gone)).Perm gone := by
    rw [List.perm_ext_iff_of_nodup (d.nodup_keys.filter _) hnodup]
    intro key
    simp only [List.mem_filter, decide_eq_true_eq]
    exact ⟨And.right, fun h => ⟨hgone key h, h⟩⟩
  have hsplit := List.length_eq_length_filter_add (l := d.keys) (· ∈ gone)
  rw [hperm.length_eq] at hsplit
  have hnot : d.keys.filter (fun key => !decide (key ∈ gone)) = d.keys.filter (· ∉ gone) :=
    List.filter_congr fun key _ => by simp
  rw [hnot] at hsplit
  omega

end OrderedDict

end AtlasOS
