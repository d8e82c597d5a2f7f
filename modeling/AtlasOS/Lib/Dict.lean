import Mathlib.Data.List.Induction
import Mathlib.Data.String.Basic
import Std.Data.ExtTreeMap

/-!
# Dictionaries with string keys

The stores of the services are Python dictionaries and keyed tables. They are
represented by extensional ordered maps, so that two dictionaries are equal
exactly when every lookup agrees and `items` lists the entries in key order.
-/

namespace AtlasOS

/-- A Python dictionary with string keys, compared by its lookups. -/
abbrev Dict (α : Type) := Std.ExtTreeMap String α compare

namespace Dict

variable {α β : Type}

/-- The value stored under a key, `dict.get(key)`. -/
def get (d : Dict α) (key : String) : Option α := d[key]?

/-- The dictionary after `dict[key] = value`. -/
def set (d : Dict α) (key : String) (value : α) : Dict α := d.insert key value

/-- The dictionary without `key`, as after `dict.pop(key, None)`. -/
def pop (d : Dict α) (key : String) : Dict α := d.erase key

/-- The entries in increasing key order, `sorted(dict.items())`. -/
def items (d : Dict α) : List (String × α) := d.toList

/-- The dictionary built from a list of entries, a later entry winning. -/
def ofItems (entries : List (String × α)) : Dict α :=
  entries.foldl (fun d entry => d.set entry.1 entry.2) ∅

/-- Two dictionaries with the same lookups are equal. -/
theorem ext {d e : Dict α} (h : ∀ key, d.get key = e.get key) : d = e :=
  Std.ExtTreeMap.ext_getElem? h

@[simp] theorem get_empty (key : String) : (∅ : Dict α).get key = none := by
  simp [get]

/-- A write is read back under its own key and leaves the other keys alone. -/
theorem get_set (d : Dict α) (key key' : String) (value : α) :
    (d.set key value).get key' = if key = key' then some value else d.get key' := by
  simp only [get, set, Std.ExtTreeMap.getElem?_insert, Std.LawfulEqCmp.compare_eq_iff_eq]

@[simp] theorem get_set_self (d : Dict α) (key : String) (value : α) :
    (d.set key value).get key = some value := by
  simp [get_set]

theorem get_set_of_ne (d : Dict α) {key key' : String} (value : α) (h : key ≠ key') :
    (d.set key value).get key' = d.get key' := by
  simp [get_set, h]

/-- A dictionary with one entry. -/
theorem get_set_empty {key key' : String} {value a : α} :
    ((∅ : Dict α).set key value).get key' = some a ↔ key = key' ∧ value = a := by
  rw [get_set, get_empty]
  split <;> simp_all

/-- Writing the value already stored changes nothing. -/
theorem set_get_self {d : Dict α} {key : String} {value : α} (h : d.get key = some value) :
    d.set key value = d := by
  apply ext
  intro key'
  rw [get_set]
  split
  · next heq => rw [← heq, h]
  · rfl

/-- An entry is listed exactly when its lookup succeeds. -/
theorem mem_items {d : Dict α} {key : String} {value : α} :
    (key, value) ∈ d.items ↔ d.get key = some value :=
  Std.ExtTreeMap.mem_toList_iff_getElem?_eq_some

/-- The keys of a dictionary are listed once each. -/
theorem nodup_keys_items (d : Dict α) : (d.items.map Prod.fst).Nodup := by
  have h := Std.ExtTreeMap.distinct_keys_toList (t := d)
  rw [List.Nodup, List.pairwise_map]
  refine h.imp ?_
  intro a b hne heq
  exact hne (by simp [heq])

/-- Removing a key removes its entry only. -/
theorem get_pop (d : Dict α) (key key' : String) :
    (d.pop key).get key' = if key = key' then none else d.get key' := by
  simp only [get, pop, Std.ExtTreeMap.getElem?_erase, Std.LawfulEqCmp.compare_eq_iff_eq]

/-- The dictionary with every value replaced by its image, which may depend on the key. -/
def mapEntries (f : String → α → β) (d : Dict α) : Dict β := d.map f

@[simp] theorem get_mapEntries (f : String → α → β) (d : Dict α) (key : String) :
    (d.mapEntries f).get key = (d.get key).map (f key) := by
  simp [get, mapEntries]

theorem items_mapEntries (f : String → α → β) (d : Dict α) :
    (d.mapEntries f).items = d.items.map fun entry => (entry.1, f entry.1 entry.2) :=
  Std.ExtTreeMap.toList_map

/-- The dictionary with every value replaced by its image. -/
def mapValues (f : α → β) (d : Dict α) : Dict β := d.mapEntries fun _ a => f a

@[simp] theorem get_mapValues (f : α → β) (d : Dict α) (key : String) :
    (d.mapValues f).get key = (d.get key).map f :=
  get_mapEntries _ d key

theorem items_mapValues (f : α → β) (d : Dict α) :
    (d.mapValues f).items = d.items.map fun entry => (entry.1, f entry.2) :=
  items_mapEntries _ d

/-- A map that fixes every entry fixes the dictionary. -/
theorem mapEntries_eq_self {f : String → α → α} {d : Dict α}
    (h : ∀ key a, d.get key = some a → f key a = a) : d.mapEntries f = d := by
  apply ext
  intro key
  rw [get_mapEntries]
  cases hget : d.get key with
  | none => rfl
  | some a => rw [Option.map_some, h key a hget]

/-- A map that fixes every value fixes the dictionary. -/
theorem mapValues_eq_self {f : α → α} {d : Dict α}
    (h : ∀ key a, d.get key = some a → f a = a) : d.mapValues f = d :=
  mapEntries_eq_self h

/-- The fold of `ofItems` from any dictionary, when each key is listed once. -/
theorem get_foldl_set {entries : List (String × α)} (h : (entries.map Prod.fst).Nodup)
    (d : Dict α) (key : String) (a : α) :
    (entries.foldl (fun d entry => d.set entry.1 entry.2) d).get key = some a ↔
      (key, a) ∈ entries ∨ key ∉ entries.map Prod.fst ∧ d.get key = some a := by
  induction entries generalizing d with
  | nil => simp
  | cons entry entries ih =>
    obtain ⟨k, b⟩ := entry
    rw [List.map_cons, List.nodup_cons] at h
    rw [List.foldl_cons, ih h.2, get_set]
    by_cases hk : k = key
    · subst hk
      have hnot : (k, a) ∉ entries := fun hmem => h.1 (List.mem_map.mpr ⟨_, hmem, rfl⟩)
      simp [hnot, h.1, eq_comm]
    · simp [hk, Ne.symm hk]

/-- A dictionary built from entries with distinct keys has those entries. -/
theorem get_ofItems {entries : List (String × α)} (h : (entries.map Prod.fst).Nodup)
    {key : String} {a : α} : (ofItems entries).get key = some a ↔ (key, a) ∈ entries := by
  simp [ofItems, get_foldl_set h]

/-- The entries of a dictionary rebuild it. -/
@[simp] theorem ofItems_items (d : Dict α) : ofItems d.items = d := by
  apply ext
  intro key
  refine Option.ext fun a => ?_
  rw [get_ofItems (nodup_keys_items d), mem_items]

/-- The entries of a dictionary rebuild it, under any change of its values. -/
theorem ofItems_map_items (f : String → α → β) (d : Dict α) :
    ofItems (d.items.map fun entry => (entry.1, f entry.1 entry.2)) = d.mapEntries f := by
  apply ext
  intro key
  rw [← items_mapEntries]
  refine Option.ext fun b => ?_
  rw [get_ofItems (nodup_keys_items _), mem_items]

/-- A table of values by a key answers with the value of the last row that has the key. -/
theorem get_ofItems_map_value {ρ : Type} (key : ρ → String) (value : ρ → α) (rows : List ρ)
    (k : String) :
    (ofItems (rows.map fun row => (key row, value row))).get k =
      (rows.reverse.find? fun row => decide (key row = k)).map value := by
  induction rows using List.reverseRecOn with
  | nil => simp [ofItems]
  | append_singleton rows row ih =>
    have hset : ofItems ((rows ++ [row]).map fun row => (key row, value row)) =
        (ofItems (rows.map fun row => (key row, value row))).set (key row) (value row) := by
      simp [ofItems, List.foldl_append]
    rw [hset, get_set, ih, List.reverse_append, List.reverse_singleton, List.singleton_append,
      List.find?_cons]
    by_cases hk : key row = k
    · simp [hk]
    · simp [hk]

/-- The table of rows by a key answers with the last row that has it. -/
theorem get_ofItems_map {ρ : Type} (key : ρ → String) (rows : List ρ) (k : String) :
    (ofItems (rows.map fun row => (key row, row))).get k =
      rows.reverse.find? fun row => decide (key row = k) :=
  (get_ofItems_map_value key id rows k).trans (congrFun Option.map_id _)

/-- Every value of a dictionary built from entries comes from one of them. -/
theorem mem_of_get_ofItems {entries : List (String × α)} {key : String} {a : α}
    (h : (ofItems entries).get key = some a) : (key, a) ∈ entries := by
  have hfold (entries : List (String × α)) (d : Dict α)
      (h : (entries.foldl (fun d entry => d.set entry.1 entry.2) d).get key = some a) :
      (key, a) ∈ entries ∨ d.get key = some a := by
    induction entries generalizing d with
    | nil => exact .inr h
    | cons entry entries ih =>
      rcases ih _ h with hmem | hget
      · exact .inl (List.mem_cons_of_mem _ hmem)
      · rw [get_set] at hget
        split at hget
        · next hkey =>
          cases hget
          exact .inl (by simp [← hkey])
        · exact .inr hget
  rcases hfold entries ∅ h with hmem | hget
  · exact hmem
  · simp at hget

end Dict

end AtlasOS
