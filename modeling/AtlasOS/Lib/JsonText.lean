import AtlasOS.Lib.Json

/-!
# Objects as dictionaries and the text of a value

A decoded object is a dictionary: the order of its fields does not matter, and a
name has one value. `Json.sorted` is the normal form of a value under this
reading, which is also the value that the encoder writes with `sort_keys`.
-/

namespace AtlasOS

namespace Fields

theorem lookup_cons_ite (key key' : String) (value : Json) (fields : Fields) :
    List.lookup key' ((key, value) :: fields) =
      if key' = key then some value else fields.lookup key' := by
  by_cases h : key' = key
  · simp [h]
  · simp [List.lookup_cons, h, beq_eq_false_iff_ne.mpr h]

theorem isSome_lookup {fields : Fields} {key : String} :
    (fields.lookup key).isSome = true ↔ key ∈ fields.keys := by
  induction fields with
  | nil => simp [keys]
  | cons field fields ih =>
    rw [lookup_cons_ite]
    by_cases h : key = field.1
    · simp [h, keys]
    · simp [h, keys, ih]

theorem lookup_eq_none {fields : Fields} {key : String} :
    fields.lookup key = none ↔ key ∉ fields.keys := by
  rw [← isSome_lookup]
  cases fields.lookup key <;> simp

theorem lookup_eq_get {fields : Fields} {key : String} (h : key ∈ fields.keys) :
    fields.lookup key = some (fields.get key) := by
  obtain ⟨value, hvalue⟩ := Option.isSome_iff_exists.mp (isSome_lookup.mpr h)
  rw [get, hvalue, Option.getD_some]

theorem get_of_not_mem {fields : Fields} {key : String} (h : key ∉ fields.keys) :
    fields.get key = .null := by
  rw [get, lookup_eq_none.mpr h, Option.getD_none]

/-- A field that is absent reads as a field whose value is `null`. -/
theorem get_append_null {fields extra : Fields} (h : ∀ field ∈ extra, field.2 = .null)
    (key : String) : Fields.get (fields ++ extra) key = fields.get key := by
  have hextra : Fields.get extra key = .null := by
    induction extra with
    | nil => rfl
    | cons field extra ih =>
      obtain ⟨hfield, hrest⟩ := List.forall_mem_cons.mp h
      rw [get_cons, hfield, ih hrest, ite_self]
  induction fields with
  | nil => exact hextra
  | cons field fields ih => rw [List.cons_append, get_cons, get_cons, ih]

/-- Enter a field into fields that are sorted by their names. -/
def enter (key : String) (value : Json) : Fields → Fields
  | [] => [(key, value)]
  | (key', value') :: fields =>
      if key < key' then (key, value) :: (key', value') :: fields
      else if key = key' then (key, value) :: fields
      else (key', value') :: enter key value fields

theorem lookup_enter (key key' : String) (value : Json) (fields : Fields) :
    (enter key value fields).lookup key' =
      if key' = key then some value else fields.lookup key' := by
  induction fields with
  | nil => exact lookup_cons_ite key key' value []
  | cons field fields ih =>
    obtain ⟨name, old⟩ := field
    rw [enter]
    by_cases hlt : key < name
    · rw [if_pos hlt, lookup_cons_ite]
    · rw [if_neg hlt]
      by_cases heq : key = name
      · subst heq
        rw [if_pos rfl, lookup_cons_ite, lookup_cons_ite]
        by_cases hkey : key' = key <;> simp [hkey]
      · rw [if_neg heq, lookup_cons_ite, lookup_cons_ite, ih]
        by_cases hkey : key' = key
        · have hname : key' ≠ name := fun h => heq (hkey ▸ h)
          simp [hkey, heq]
        · simp [hkey]

theorem mem_enter {key : String} {value : Json} {fields : Fields} {field : String × Json}
    (h : field ∈ enter key value fields) : field = (key, value) ∨ field ∈ fields := by
  induction fields with
  | nil => exact .inl (List.mem_singleton.mp h)
  | cons old fields ih =>
    rw [enter] at h
    split_ifs at h with hlt heq
    · exact List.mem_cons.mp h
    · exact (List.mem_cons.mp h).imp_right (List.mem_cons_of_mem _)
    · rcases List.mem_cons.mp h with rfl | h
      · exact .inr List.mem_cons_self
      · exact (ih h).imp_right (List.mem_cons_of_mem _)

/-- Fields in the strict order of their names. -/
def Sorted (fields : Fields) : Prop := fields.Pairwise fun a b => a.1 < b.1

theorem Sorted.enter {fields : Fields} (h : Sorted fields) (key : String) (value : Json) :
    Sorted (enter key value fields) := by
  induction fields with
  | nil => exact List.pairwise_singleton _ _
  | cons field fields ih =>
    obtain ⟨name, old⟩ := field
    obtain ⟨hhead, htail⟩ := List.pairwise_cons.mp h
    rw [Fields.enter]
    by_cases hlt : key < name
    · rw [if_pos hlt]
      refine List.pairwise_cons.mpr ⟨fun field hfield => ?_, h⟩
      rcases List.mem_cons.mp hfield with rfl | hfield
      · exact hlt
      · exact lt_trans hlt (hhead field hfield)
    · rw [if_neg hlt]
      by_cases heq : key = name
      · rw [if_pos heq]
        exact List.pairwise_cons.mpr ⟨heq ▸ hhead, htail⟩
      · rw [if_neg heq]
        refine List.pairwise_cons.mpr ⟨fun field hfield => ?_, ih htail⟩
        have hgt : name < key := lt_of_le_of_ne (not_lt.mp hlt) (Ne.symm heq)
        have hkey : field.1 ∈ (Fields.enter key value fields).keys := List.mem_map_of_mem hfield
        rw [← isSome_lookup, lookup_enter] at hkey
        by_cases hnew : field.1 = key
        · rwa [hnew]
        · rw [if_neg hnew, isSome_lookup] at hkey
          obtain ⟨old', hold', hname⟩ := List.mem_map.mp hkey
          exact hname ▸ hhead old' hold'

/-- In sorted fields, the names after the first are greater. -/
theorem Sorted.lt_of_mem_keys {name key : String} {value : Json} {fields : Fields}
    (h : Sorted ((name, value) :: fields)) (hkey : key ∈ fields.keys) : name < key := by
  obtain ⟨field, hfield, rfl⟩ := List.mem_map.mp hkey
  exact (List.pairwise_cons.mp h).1 field hfield

theorem Sorted.lookup_tail {name : String} {value : Json} {fields : Fields}
    (h : Sorted ((name, value) :: fields)) : fields.lookup name = none := by
  rw [lookup_eq_none]
  intro hmem
  exact lt_irrefl name (h.lt_of_mem_keys hmem)

/-- The least name of sorted fields is at most every name that occurs in them. -/
theorem Sorted.head_le {name key : String} {value : Json} {fields : Fields}
    (h : Sorted ((name, value) :: fields))
    (hkey : (List.lookup key ((name, value) :: fields)).isSome = true) : name ≤ key := by
  rcases List.mem_cons.mp (isSome_lookup.mp hkey) with heq | hmem
  · exact le_of_eq heq.symm
  · exact le_of_lt (h.lt_of_mem_keys hmem)

/-- Sorted fields are determined by what they say about each name. -/
theorem Sorted.ext {fields fields' : Fields} (h : Sorted fields) (h' : Sorted fields')
    (hlookup : ∀ key, fields.lookup key = fields'.lookup key) : fields = fields' := by
  induction fields generalizing fields' with
  | nil =>
    cases fields' with
    | nil => rfl
    | cons field fields' =>
      have hnone := hlookup field.1
      rw [lookup_cons_ite, if_pos rfl] at hnone
      cases hnone
  | cons field fields ih =>
    obtain ⟨name, value⟩ := field
    cases fields' with
    | nil =>
      have hnone := hlookup name
      rw [lookup_cons_ite, if_pos rfl] at hnone
      cases hnone
    | cons field' fields' =>
      obtain ⟨name', value'⟩ := field'
      -- Each head name occurs in the other list, so the two heads have the same name.
      have hle : name' ≤ name := h'.head_le (by rw [← hlookup]; simp)
      have hge : name ≤ name' := h.head_le (by rw [hlookup]; simp)
      obtain rfl := le_antisymm hle hge
      have hvalue := hlookup name'
      simp only [List.lookup_cons_self, Option.some.injEq] at hvalue
      have hrest (key : String) : fields.lookup key = fields'.lookup key := by
        by_cases hkey : key = name'
        · rw [hkey, h.lookup_tail, h'.lookup_tail]
        · have hboth := hlookup key
          rwa [lookup_cons_ite, lookup_cons_ite, if_neg hkey, if_neg hkey] at hboth
      rw [hvalue, ih (List.pairwise_cons.mp h).2 (List.pairwise_cons.mp h').2 hrest]

theorem Sorted.nodup_keys {fields : Fields} (h : Sorted fields) : fields.keys.Nodup := by
  have hkeys : fields.keys.Pairwise (· < ·) := List.pairwise_map.mpr h
  exact hkeys.imp fun hlt => ne_of_lt hlt

end Fields

namespace Json

mutual
/-- The value with the fields of every object in the order of their names. -/
def sorted : Json → Json
  | .arr items => .arr (sortedList items)
  | .obj fields => .obj (sortedFields fields)
  | .null => .null
  | .bool b => .bool b
  | .int i => .int i
  | .float f => .float f
  | .str s => .str s

/-- `sorted` for every item of a list. -/
def sortedList : List Json → List Json
  | [] => []
  | item :: items => sorted item :: sortedList items

/-- `sorted` for every field of an object; of two fields with one name the first counts. -/
def sortedFields : List (String × Json) → List (String × Json)
  | [] => []
  | (key, value) :: fields => Fields.enter key (sorted value) (sortedFields fields)
end

/-- Equality of values, where objects are compared as dictionaries. -/
def Same (a b : Json) : Prop := a.sorted = b.sorted

instance (a b : Json) : Decidable (Same a b) := inferInstanceAs (Decidable (_ = _))

@[refl] theorem Same.refl (a : Json) : Same a a := Eq.refl _

theorem Same.symm {a b : Json} (h : Same a b) : Same b a := Eq.symm h

theorem Same.trans {a b c : Json} (hab : Same a b) (hbc : Same b c) : Same a c := Eq.trans hab hbc

theorem lookup_sortedFields (fields : Fields) (key : String) :
    (sortedFields fields).lookup key = (fields.lookup key).map sorted := by
  induction fields with
  | nil => simp [sortedFields]
  | cons field fields ih =>
    obtain ⟨name, value⟩ := field
    rw [sortedFields, Fields.lookup_enter, Fields.lookup_cons_ite, ih]
    by_cases h : key = name <;> simp [h]

theorem sorted_sortedFields (fields : Fields) : Fields.Sorted (sortedFields fields) := by
  induction fields with
  | nil => exact List.Pairwise.nil
  | cons field fields ih =>
    obtain ⟨name, value⟩ := field
    rw [sortedFields]
    exact ih.enter name value.sorted

/-- Two objects are the same when they have the same names and the same value for each of them. -/
theorem same_obj {fields fields' : Fields} :
    Same (.obj fields) (.obj fields') ↔
      (∀ key, key ∈ fields.keys ↔ key ∈ fields'.keys) ∧
        ∀ key ∈ fields'.keys, Same (fields.get key) (fields'.get key) := by
  simp only [Same, sorted, obj.injEq]
  constructor
  · intro h
    have hlookup (key : String) :
        (fields.lookup key).map sorted = (fields'.lookup key).map sorted := by
      rw [← lookup_sortedFields, ← lookup_sortedFields, h]
    have hkeys (key : String) : key ∈ fields.keys ↔ key ∈ fields'.keys := by
      rw [← Fields.isSome_lookup, ← Fields.isSome_lookup, ← Option.isSome_map (f := sorted),
        hlookup, Option.isSome_map]
    refine ⟨hkeys, fun key hkey => ?_⟩
    have hvalues := hlookup key
    rw [Fields.lookup_eq_get hkey, Fields.lookup_eq_get ((hkeys key).mpr hkey)] at hvalues
    simpa using hvalues
  · rintro ⟨hkeys, hvalues⟩
    refine (sorted_sortedFields fields).ext (sorted_sortedFields fields') fun key => ?_
    rw [lookup_sortedFields, lookup_sortedFields]
    by_cases hkey : key ∈ fields'.keys
    · rw [Fields.lookup_eq_get hkey, Fields.lookup_eq_get ((hkeys key).mpr hkey), Option.map_some,
        Option.map_some, hvalues key hkey]
    · rw [Fields.lookup_eq_none.mpr hkey, Fields.lookup_eq_none.mpr (mt (hkeys key).mp hkey)]

mutual
/-- A value and its normal form are the same value. -/
theorem same_sorted : (value : Json) → Same value.sorted value
  | .arr items => by
    rw [Same, sorted, sorted, sortedList_sortedList items]
  | .obj fields => by
    rw [Same, sorted, sorted, sortedFields_sortedFields fields]
  | .null | .bool _ | .int _ | .float _ | .str _ => by simp [Same, sorted]

theorem sortedList_sortedList : (items : List Json) →
    sortedList (sortedList items) = sortedList items
  | [] => by simp [sortedList]
  | item :: items => by
    have hitem : item.sorted.sorted = item.sorted := same_sorted item
    rw [sortedList, sortedList, hitem, sortedList_sortedList items]

theorem sortedFields_sortedFields : (fields : List (String × Json)) →
    sortedFields (sortedFields fields) = sortedFields fields
  | [] => by simp [sortedFields]
  | (key, value) :: fields => by
    have hvalue : value.sorted.sorted = value.sorted := same_sorted value
    refine (sorted_sortedFields _).ext (sorted_sortedFields _) fun name => ?_
    rw [lookup_sortedFields, sortedFields, Fields.lookup_enter]
    by_cases h : name = key
    · simp [h, hvalue]
    · rw [if_neg h, ← lookup_sortedFields, sortedFields_sortedFields fields]
end

/-- What is the same as an object is one with the same names and values. -/
theorem same_obj_iff {value : Json} {fields' : Fields} :
    Same value (.obj fields') ↔ ∃ fields : Fields, value = .obj fields ∧
      (∀ key, key ∈ fields.keys ↔ key ∈ fields'.keys) ∧
        ∀ key ∈ fields'.keys, Same (fields.get key) (fields'.get key) := by
  cases value with
  | obj fields => simp [same_obj]
  | _ => simp [Same, sorted]

theorem sortedList_eq_map (items : List Json) : sortedList items = items.map sorted := by
  induction items with
  | nil => simp [sortedList]
  | cons item items ih => simp [sortedList, ih]

/-- What is the same as a list is one with the same items. -/
theorem same_arr_iff {value : Json} {items' : List Json} :
    Same value (.arr items') ↔
      ∃ items, value = .arr items ∧ List.Forall₂ Same items items' := by
  cases value with
  | arr items =>
    have hitems : List.Forall₂ Same items items' ↔ items.map sorted = items'.map sorted := by
      rw [← List.forall₂_eq_eq_eq, List.forall₂_map_left_iff, List.forall₂_map_right_iff]
      rfl
    simp [Same, sorted, sortedList_eq_map, hitems]
  | _ => simp [Same, sorted]

/-- `isinstance(value, list)` -/
def isArr : Json → Bool
  | .arr _ => true
  | _ => false

theorem eq_obj_of_requireObject {value : Json} {error : PyError} {fields : Fields}
    (h : value.requireObject error = .ok fields) : value = .obj fields := by
  cases value <;> simp_all [requireObject]

/-! ## Values that have one form -/

@[simp] theorem same_null {value : Json} : Same value .null ↔ value = .null := by
  cases value <;> simp [Same, sorted]

@[simp] theorem same_bool {value : Json} {b : Bool} : Same value (.bool b) ↔ value = .bool b := by
  cases value <;> simp [Same, sorted]

@[simp] theorem same_int {value : Json} {i : Int} : Same value (.int i) ↔ value = .int i := by
  cases value <;> simp [Same, sorted]

@[simp] theorem same_float {value : Json} {f : PyFloat} :
    Same value (.float f) ↔ value = .float f := by
  cases value <;> simp [Same, sorted]

@[simp] theorem same_str {value : Json} {s : String} : Same value (.str s) ↔ value = .str s := by
  cases value <;> simp [Same, sorted]

@[simp] theorem same_ofOption {value : Json} {s : Option String} :
    Same value (ofOption s) ↔ value = ofOption s := by
  cases s <;> simp

@[simp] theorem same_intOrNull {value : Json} {i : Option Int} :
    Same value (intOrNull i) ↔ value = intOrNull i := by
  cases i <;> simp [intOrNull]

theorem sortedList_eq_strings {items : List Json} {texts : List String} :
    sortedList items = sortedList (texts.map .str) ↔ items = texts.map .str := by
  induction items generalizing texts with
  | nil => cases texts <;> simp [sortedList]
  | cons item items ih =>
    cases texts with
    | nil => simp [sortedList]
    | cons text texts =>
      have hitem : sorted item = sorted (.str text) ↔ item = .str text := same_str
      simp only [List.map_cons, sortedList, List.cons.injEq, hitem, ih]

@[simp] theorem same_strings {value : Json} {texts : List String} :
    Same value (.arr (texts.map .str)) ↔ value = .arr (texts.map .str) := by
  cases value <;> simp [Same, sorted, sortedList_eq_strings]

/-! ## Decoding -/

mutual
/-- What the decoder makes of the text of a value when `object_pairs_hook` is given:
every object is built by the hook, from the inside out. -/
def rebuild (hook : Fields → Except PyError Json) : Json → Except PyError Json
  | .arr items => do return .arr (← rebuildList hook items)
  | .obj fields => do hook (← rebuildFields hook fields)
  | .null => .ok .null
  | .bool b => .ok (.bool b)
  | .int i => .ok (.int i)
  | .float f => .ok (.float f)
  | .str s => .ok (.str s)

/-- `rebuild` for every item of a list. -/
def rebuildList (hook : Fields → Except PyError Json) : List Json → Except PyError (List Json)
  | [] => .ok []
  | item :: items => do return (← rebuild hook item) :: (← rebuildList hook items)

/-- `rebuild` for every field of an object. -/
def rebuildFields (hook : Fields → Except PyError Json) : List (String × Json) →
    Except PyError (List (String × Json))
  | [] => .ok []
  | (key, value) :: fields => do
    return (key, ← rebuild hook value) :: (← rebuildFields hook fields)
end

theorem rebuildFields_eq_self {hook : Fields → Except PyError Json} {fields : Fields}
    (h : ∀ field ∈ fields, field.2.rebuild hook = .ok field.2) :
    rebuildFields hook fields = .ok fields := by
  induction fields with
  | nil => simp [rebuildFields]
  | cons field fields ih =>
    obtain ⟨hfield, hfields⟩ := List.forall_mem_cons.mp h
    simp [rebuildFields, hfield, ih hfields]

mutual
/-- A hook that accepts fields with distinct names leaves a value in normal form as it is. -/
theorem rebuild_sorted {hook : Fields → Except PyError Json}
    (hhook : ∀ fields : Fields, fields.keys.Nodup → hook fields = .ok (.obj fields)) :
    (value : Json) → value.sorted.rebuild hook = .ok value.sorted
  | .arr items => by
    simp [sorted, rebuild, rebuildList_sortedList hhook items]
  | .obj fields => by
    have hfields := rebuildFields_eq_self (rebuild_sortedFields hhook fields)
    simp [sorted, rebuild, hfields, hhook _ (sorted_sortedFields fields).nodup_keys]
  | .null | .bool _ | .int _ | .float _ | .str _ => by simp [sorted, rebuild]

theorem rebuildList_sortedList {hook : Fields → Except PyError Json}
    (hhook : ∀ fields : Fields, fields.keys.Nodup → hook fields = .ok (.obj fields)) :
    (items : List Json) → rebuildList hook (sortedList items) = .ok (sortedList items)
  | [] => by simp [sortedList, rebuildList]
  | item :: items => by
    simp [sortedList, rebuildList, rebuild_sorted hhook item, rebuildList_sortedList hhook items]

theorem rebuild_sortedFields {hook : Fields → Except PyError Json}
    (hhook : ∀ fields : Fields, fields.keys.Nodup → hook fields = .ok (.obj fields)) :
    (fields : List (String × Json)) →
    ∀ field ∈ sortedFields fields, field.2.rebuild hook = .ok field.2
  | [], field, h => by simp [sortedFields] at h
  | (key, value) :: fields, field, h => by
    rw [sortedFields] at h
    rcases Fields.mem_enter h with rfl | h
    · exact rebuild_sorted hhook value
    · exact rebuild_sortedFields hhook fields field h
end

end Json

/-! ## Reading rules -/

theorem asStr_eq_some {value : Json} {s : String} : asStr? value = some s ↔ value = .str s := by
  cases value <;> simp [asStr?]

theorem asInt_eq_some {value : Json} {i : Int} : asInt? value = some i ↔ value = .int i := by
  cases value <;> simp [asInt?]

theorem asBool_eq_some {value : Json} {b : Bool} : asBool? value = some b ↔ value = .bool b := by
  cases value <;> simp [asBool?]

theorem asOptional_asStr_eq_some {value : Json} {s : Option String} :
    asOptional? asStr? value = some s ↔ value = .ofOption s := by
  cases value <;> cases s <;> simp [asOptional?, asStr?]

theorem asOptional_asInt_eq_some {value : Json} {i : Option Int} :
    asOptional? asInt? value = some i ↔ value = intOrNull i := by
  cases value <;> cases i <;> simp [asOptional?, asInt?, intOrNull]

/-- `json.loads(text, object_pairs_hook=hook, parse_constant=constant)` -/
abbrev Loads := (Fields → Except PyError Json) → (String → Except PyError Json) → String →
  Except PyError Json

/-- A text denotes a value without infinities: the decoder rebuilds it with any hook. -/
def Loads.Denotes (loads : Loads) (text : String) (value : Json) : Prop :=
  ∀ hook constant, loads hook constant text = value.rebuild hook

end AtlasOS
