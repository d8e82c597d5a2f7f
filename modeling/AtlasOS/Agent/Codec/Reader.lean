import AtlasOS.Agent.Records

/-!
# Reading persisted fields

The helpers with which the decoders of the snapshot read one field, and for
each of them the fact that it reads back what the encoder wrote.
-/

namespace AtlasOS.Agent

variable {α : Type}

/-- `StatePersistenceError(message)` as a failed result. -/
def invalid (message : String) : Except PyError α := .error (.statePersistenceError message)

/-- A string, or the error for the field with the given name. -/
def readStr (key : String) : Json → Except PyError String
  | .str s => .ok s
  | _ => invalid ("Expected string field: " ++ key)

/-- An object, or the error for the field with the given name. -/
def readDict (key : String) : Json → Except PyError Fields
  | .obj fields => .ok fields
  | _ => invalid ("Expected object field: " ++ key)

@[simp] theorem readStr_str (key s : String) : readStr key (.str s) = .ok s := by
  simp only [readStr]

@[simp] theorem readDict_obj (key : String) (fields : Fields) :
    readDict key (.obj fields) = .ok fields := by
  simp only [readDict]

/-- `_require_str` -/
@[simp] def requireStr (payload : Fields) (key : String) : Except PyError String :=
  readStr key (payload.get key)

/-- `_require_dict` -/
@[simp] def requireDict (payload : Fields) (key : String) : Except PyError Fields :=
  readDict key (payload.get key)

/-- `_reject_unknown_fields` -/
def rejectUnknownFields (payload : Fields) (allowed : List String) : Except PyError Unit :=
  let unknown := payload.keys.filter (· ∉ allowed)
  require unknown.isEmpty (.statePersistenceError
    ("Unexpected persisted fields: " ++ ", ".intercalate (unknown.insertionSort (· ≤ ·))))

/-- `Enum(value)` -/
def readEnum (α : Type) [StrEnum α] (value : Json) : Except PyError α :=
  expect ((asStr? value).bind StrEnum.ofValue?) (.valueError "not a valid enumeration value")

@[simp] theorem readEnum_value [StrEnum α] (a : α) :
    readEnum α (.str (StrEnum.value a)) = .ok a := by
  simp [readEnum]

/-- `Enum(value) if value is not None else None` -/
def readOptionalEnum (α : Type) [StrEnum α] : Json → Except PyError (Option α)
  | .null => .ok none
  | value => some <$> readEnum α value

/-- The text of an optional member. -/
def enumOrNull [StrEnum α] (value : Option α) : Json := .ofOption (value.map StrEnum.value)

@[simp] theorem readOptionalEnum_enumOrNull [StrEnum α] (value : Option α) :
    readOptionalEnum α (enumOrNull value) = .ok value := by
  cases value with
  | none => rfl
  | some a =>
    change some <$> readEnum α (.str (StrEnum.value a)) = _
    rw [readEnum_value]
    rfl

/-- `_tuple_str` -/
def tupleStr : Json → Except PyError (List String)
  | .arr items => items.mapM fun item =>
      expect (asStr? item) (.statePersistenceError "Expected list of strings")
  | _ => invalid "Expected list of strings"

/-- A list of strings as a JSON value. -/
def strings (items : List String) : Json := .arr (items.map .str)

@[simp] theorem tupleStr_strings (items : List String) : tupleStr (strings items) = .ok items :=
  mapM_map_eq_ok fun _ _ => rfl

/-- `_decode_path` -/
def decodePath : Json → Except PyError Path
  | .str s => .ok (Path.ofString s)
  | _ => invalid "Expected path string"

/-- `_path` of a path that is present. -/
def pathJson (p : Path) : Json := .str p.text

@[simp] theorem decodePath_pathJson (p : Path) : decodePath (pathJson p) = .ok p := by
  simp [decodePath, pathJson]

/-- `_decode_optional_path` -/
def decodeOptionalPath : Json → Except PyError (Option Path)
  | .null => .ok none
  | value => some <$> decodePath value

@[simp] theorem decodeOptionalPath_nullable (p : Option Path) :
    decodeOptionalPath (.nullable pathJson p) = .ok p := by
  cases p with
  | none => rfl
  | some p =>
    change some <$> decodePath (pathJson p) = _
    rw [decodePath_pathJson]
    rfl

/-- `_tuple_path` -/
def tuplePath : Json → Except PyError (List Path)
  | .arr items => items.mapM decodePath
  | _ => invalid "Expected list of paths"

/-- A list of paths as a JSON value. -/
def paths (items : List Path) : Json := .arr (items.map pathJson)

@[simp] theorem tuplePath_paths (items : List Path) : tuplePath (paths items) = .ok items :=
  mapM_map_eq_ok fun p _ => decodePath_pathJson p

/-- `_decode_optional_datetime` -/
def decodeOptionalDatetime (py : Python) : Json → Except PyError (Option DateTime)
  | .null => .ok none
  | .str s => some <$> expect (py.fromisoformat s) (.statePersistenceError "Invalid datetime value")
  | _ => invalid "Invalid datetime value"

/-- `_decode_datetime` -/
def decodeDatetime (py : Python) (value : Json) : Except PyError DateTime := do
  let decoded ← decodeOptionalDatetime py value
  expect decoded (.statePersistenceError "Missing datetime value")

/-- `_encode_datetime` of a timestamp that is present. -/
def datetimeJson (py : Python) (t : DateTime) : Json := .str (py.isoformat t)

@[simp] theorem decodeOptionalDatetime_nullable (py : Python) (t : Option DateTime) :
    decodeOptionalDatetime py (.nullable (datetimeJson py) t) = .ok t := by
  cases t with
  | none => rfl
  | some t => simp [decodeOptionalDatetime, datetimeJson]

@[simp] theorem decodeDatetime_datetimeJson (py : Python) (t : DateTime) :
    decodeDatetime py (datetimeJson py t) = .ok t := by
  simp [decodeDatetime, decodeOptionalDatetime, datetimeJson]

/-- `read(value) if value is not None else None` -/
def optionalRead (read : Json → Except PyError α) : Json → Except PyError (Option α)
  | .null => .ok none
  | value => do
      let a ← read value
      return some a

theorem optionalRead_of_ne_null {read : Json → Except PyError α} {value : Json}
    (h : value ≠ .null) : optionalRead read value = read value >>= fun a => pure (some a) := by
  cases value <;> first | exact absurd rfl h | rfl

theorem optionalRead_nullable {read : Json → Except PyError α} {encode : α → Json}
    {record : Option α} (h : ∀ a ∈ record, encode a ≠ .null ∧ read (encode a) = .ok a) :
    optionalRead read (.nullable encode record) = .ok record := by
  cases record with
  | none => rfl
  | some a =>
    obtain ⟨hne, hread⟩ := h a rfl
    rw [Json.nullable_some, optionalRead_of_ne_null hne, hread]
    simp

/-- What holds of every value read holds of an optional value. -/
theorem optionalRead_forall {read : Json → Except PyError α} {P : α → Prop} {value : Json}
    {record : Option α} (h : ∀ v a, read v = .ok a → P a)
    (hread : optionalRead read value = .ok record) : ∀ a ∈ record, P a := by
  intro a ha
  by_cases hnull : value = .null
  · subst hnull
    cases hread
    cases ha
  · rw [optionalRead_of_ne_null hnull] at hread
    obtain ⟨b, hb, heq⟩ := bind_eq_ok.mp hread
    cases heq
    cases ha
    exact h value _ hb

/-- A record that may be absent and is otherwise an object. -/
def optionalObject (message : String) (decode : Fields → Except PyError α) :
    Json → Except PyError (Option α)
  | .null => .ok none
  | .obj fields => do
      let record ← decode fields
      return some record
  | _ => invalid message

/-- `None if record is None else {...}` -/
def objectOrNull (encode : α → Fields) : Option α → Json := .nullable fun a => .obj (encode a)

theorem objectOrNull_map {encode : α → Fields} {f : α → α} (h : ∀ a, encode (f a) = encode a)
    (record : Option α) : objectOrNull encode (record.map f) = objectOrNull encode record := by
  cases record with
  | none => rfl
  | some a => simp [objectOrNull, h a]

/-- An optional record is read back, up to what its decoder does to it. -/
theorem optionalObject_objectOrNull {message : String} {decode : Fields → Except PyError α}
    {encode : α → Fields} {f : α → α} {record : Option α}
    (h : ∀ a ∈ record, decode (encode a) = .ok (f a)) :
    optionalObject message decode (objectOrNull encode record) = .ok (record.map f) := by
  cases record with
  | none => rfl
  | some a => simp [optionalObject, objectOrNull, h a rfl]

theorem optionalObject_same {message : String} {decode : Fields → Except PyError α}
    {encode : α → Fields} {record : Option α} (h : ∀ a ∈ record, decode (encode a) = .ok a) :
    optionalObject message decode (objectOrNull encode record) = .ok record := by
  rw [optionalObject_objectOrNull (f := id) h, Option.map_id_fun, id]

theorem optionalObject_self {message : String} {decode : Fields → Except PyError α}
    {encode : α → Fields} (h : ∀ a, decode (encode a) = .ok a) (record : Option α) :
    optionalObject message decode (objectOrNull encode record) = .ok record :=
  optionalObject_same fun a _ => h a

/-- What holds of every decoded record holds of an optional record. -/
theorem optionalObject_forall {message : String} {decode : Fields → Except PyError α}
    {P : α → Prop} {value : Json} {record : Option α}
    (h : ∀ payload a, decode payload = .ok a → P a)
    (hread : optionalObject message decode value = .ok record) : ∀ a ∈ record, P a := by
  intro a ha
  cases value with
  | obj fields =>
    obtain ⟨b, hdecode, heq⟩ := bind_eq_ok.mp hread
    cases heq
    cases ha
    exact h fields _ hdecode
  | null =>
    cases hread
    cases ha
  | bool | int | float | str | arr => cases hread

/-- `tuple(decode(item) for item in value)` over records. -/
def objectList (decode : Fields → Except PyError α) (value : Json) : Except PyError (List α) := do
  let items ← value.iterate
  items.mapM fun item => item.asDict >>= decode

/-- `[encode(item) for item in records]` -/
def objects (encode : α → Fields) (records : List α) : Json :=
  .arr (records.map fun a => .obj (encode a))

/-- A list of records is read back, up to what its decoder does to each. -/
theorem objectList_objects {decode : Fields → Except PyError α} {encode : α → Fields} {f : α → α}
    {records : List α} (h : ∀ a ∈ records, decode (encode a) = .ok (f a)) :
    objectList decode (objects encode records) = .ok (records.map f) := by
  simp only [objectList, objects, Json.iterate, ok_bind]
  exact mapM_map_eq_ok_map fun a ha => h a ha

theorem objectList_same {decode : Fields → Except PyError α} {encode : α → Fields}
    {records : List α} (h : ∀ a ∈ records, decode (encode a) = .ok a) :
    objectList decode (objects encode records) = .ok records := by
  rw [objectList_objects (f := fun a => a) h, List.map_id']

theorem objectList_self {decode : Fields → Except PyError α} {encode : α → Fields}
    (h : ∀ a, decode (encode a) = .ok a) (records : List α) :
    objectList decode (objects encode records) = .ok records :=
  objectList_same fun a _ => h a

/-- What holds of every decoded record holds of every record of a decoded list. -/
theorem objectList_forall {decode : Fields → Except PyError α} {P : α → Prop} {value : Json}
    {records : List α} (h : ∀ payload a, decode payload = .ok a → P a)
    (hread : objectList decode value = .ok records) : ∀ a ∈ records, P a := by
  simp only [objectList, bind_eq_ok] at hread
  obtain ⟨items, -, hitems⟩ := hread
  have hall := mapM_eq_ok_iff.mp hitems
  clear hitems
  induction hall with
  | nil => simp
  | cons hitem _ ih =>
    intro a ha
    rcases List.mem_cons.mp ha with rfl | ha
    · obtain ⟨payload, -, hdecode⟩ := bind_eq_ok.mp hitem
      exact h payload a hdecode
    · exact ih a ha

/-- A map that fixes every item fixes the list. -/
theorem map_eq_self {f : α → α} {items : List α} (h : ∀ a ∈ items, f a = a) :
    items.map f = items := by
  rw [List.map_congr_left h, List.map_id']

/-- A map that fixes the value that is present fixes the option. -/
theorem optionMap_eq_self {f : α → α} {record : Option α} (h : ∀ a ∈ record, f a = a) :
    record.map f = record := by
  rw [Option.map_congr h, Option.map_id']

/-- `str(item[index])` -/
def itemStr (py : Python) (item : Json) (index : ℕ) : Except PyError String :=
  match item with
  | .arr items => py.str <$> expect items[index]? .indexError
  | .str s => (fun c => c.toString) <$> expect s.toList[index]? .indexError
  | .obj _ => .error (.keyError (toString index))
  | _ => .error (.typeError "object is not subscriptable")

/-- `(str(item[0]), str(item[1]))` -/
def readPair (py : Python) (item : Json) : Except PyError (String × String) := do
  let first ← itemStr py item 0
  let second ← itemStr py item 1
  return (first, second)

/-- `tuple((str(item[0]), str(item[1])) for item in value) if value is not None else None` -/
def optionalPairs (py : Python) : Json → Except PyError (Option (List (String × String)))
  | .null => .ok none
  | value => do
      let items ← value.iterate
      let pairs ← items.mapM (readPair py)
      return some pairs

/-- `[list(item) for item in value] if value is not None else None` -/
def pairsOrNull : Option (List (String × String)) → Json :=
  .nullable fun pairs => .arr (pairs.map fun pair => .arr [.str pair.1, .str pair.2])

@[simp] theorem optionalPairs_pairsOrNull (py : Python) (pairs : Option (List (String × String))) :
    optionalPairs py (pairsOrNull pairs) = .ok pairs := by
  cases pairs with
  | none => rfl
  | some pairs =>
    have hread : (pairs.map fun pair => Json.arr [.str pair.1, .str pair.2]).mapM (readPair py) =
        .ok pairs := mapM_map_eq_ok fun pair _ => by simp [readPair, itemStr]
    simp only [optionalPairs, pairsOrNull, Json.nullable_some, Json.iterate, ok_bind, hread,
      pure_eq_ok]

end AtlasOS.Agent
