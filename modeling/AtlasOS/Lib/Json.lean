import Mathlib.Algebra.GroupWithZero.Nat
import Mathlib.Data.List.Forall2
import Mathlib.Data.Rat.Defs
import Mathlib.Order.Lattice
import Mathlib.Tactic.SplitIfs
import AtlasOS.Lib.Dict

/-!
# JSON values and the Python runtime

Persisted text is represented by the value it parses to. An object is its list
of fields, and `null` stands for Python's `None`. The parts of the Python
standard library that the services rely on but that compute nothing of interest
here (hashing, timestamp text, conversion to a float) are collected in `Python`
with the laws their documentation states.
-/

namespace AtlasOS

/-- A Python float, without its rounding behaviour. -/
inductive PyFloat where
  /-- A finite value. -/
  | finite (value : ℚ)
  /-- An infinity. -/
  | infinite (negative : Bool)
  /-- Not a number. -/
  | nan
  deriving DecidableEq

/-- A JSON value as the standard decoder returns it. -/
inductive Json where
  | null
  | bool (value : Bool)
  | int (value : Int)
  | float (value : PyFloat)
  | str (value : String)
  | arr (items : List Json)
  | obj (fields : List (String × Json))

/-- The exceptions that the modelled code raises, with their messages. -/
inductive PyError where
  | valueError (message : String)
  | typeError (message : String)
  | attributeError (message : String)
  | keyError (key : String)
  | indexError
  | overflowError
  | osError
  | statePersistenceError (message : String)
  | patchJournalError (message : String)
  deriving DecidableEq

/-- The fields of a JSON object. -/
abbrev Fields := List (String × Json)

/-- A value whose reader performs no type check. Such a field is annotated
`str | None` or similar, and `null` stands for `None`. -/
abbrev Unchecked := Json

namespace Json

mutual
/-- Equality of JSON values is decided by structural comparison. -/
def decEq : (a b : Json) → Decidable (a = b)
  | .null, .null => isTrue rfl
  | .bool a, .bool b => decidable_of_iff (a = b) (by simp)
  | .int a, .int b => decidable_of_iff (a = b) (by simp)
  | .float a, .float b => decidable_of_iff (a = b) (by simp)
  | .str a, .str b => decidable_of_iff (a = b) (by simp)
  | .arr a, .arr b =>
      match decEqList a b with
      | isTrue h => isTrue (by rw [h])
      | isFalse h => isFalse (by simpa using h)
  | .obj a, .obj b =>
      match decEqFields a b with
      | isTrue h => isTrue (by rw [h])
      | isFalse h => isFalse (by simpa using h)
  | .null, .bool _ | .null, .int _ | .null, .float _ | .null, .str _ | .null, .arr _
  | .null, .obj _ => isFalse (by simp)
  | .bool _, .null | .bool _, .int _ | .bool _, .float _ | .bool _, .str _ | .bool _, .arr _
  | .bool _, .obj _ => isFalse (by simp)
  | .int _, .null | .int _, .bool _ | .int _, .float _ | .int _, .str _ | .int _, .arr _
  | .int _, .obj _ => isFalse (by simp)
  | .float _, .null | .float _, .bool _ | .float _, .int _ | .float _, .str _
  | .float _, .arr _ | .float _, .obj _ => isFalse (by simp)
  | .str _, .null | .str _, .bool _ | .str _, .int _ | .str _, .float _ | .str _, .arr _
  | .str _, .obj _ => isFalse (by simp)
  | .arr _, .null | .arr _, .bool _ | .arr _, .int _ | .arr _, .float _ | .arr _, .str _
  | .arr _, .obj _ => isFalse (by simp)
  | .obj _, .null | .obj _, .bool _ | .obj _, .int _ | .obj _, .float _ | .obj _, .str _
  | .obj _, .arr _ => isFalse (by simp)

/-- Lists of JSON values are compared item by item. -/
def decEqList : (a b : List Json) → Decidable (a = b)
  | [], [] => isTrue rfl
  | [], _ :: _ => isFalse (by simp)
  | _ :: _, [] => isFalse (by simp)
  | a :: as, b :: bs =>
      match decEq a b, decEqList as bs with
      | isTrue h, isTrue hs => isTrue (by rw [h, hs])
      | isFalse h, _ => isFalse (by simp [h])
      | _, isFalse hs => isFalse (by simp [hs])

/-- Fields are compared in order, key by key. -/
def decEqFields : (a b : List (String × Json)) → Decidable (a = b)
  | [], [] => isTrue rfl
  | [], _ :: _ => isFalse (by simp)
  | _ :: _, [] => isFalse (by simp)
  | (k, a) :: as, (l, b) :: bs =>
      match decEq a b, decEqFields as bs with
      | isTrue h, isTrue hs => decidable_of_iff (k = l) (by simp [h, hs])
      | isFalse h, _ => isFalse (by simp [h])
      | _, isFalse hs => isFalse (by simp [hs])
end

instance : DecidableEq Json := decEq

/-- Python's truth value of a JSON value, `bool(value)`. -/
def truthy : Json → Bool
  | .null => false
  | .bool b => b
  | .int i => i ≠ 0
  | .float f => f ≠ .finite 0
  | .str s => s ≠ ""
  | .arr items => !items.isEmpty
  | .obj fields => !fields.isEmpty

/-- The items that `for item in value` visits. -/
def iterate : Json → Except PyError (List Json)
  | .arr items => .ok items
  | .str s => .ok (s.toList.map fun c => .str c.toString)
  | .obj fields => .ok (fields.map fun field => .str field.1)
  | _ => .error (.typeError "object is not iterable")

/-- The fields of a value on which `.get` is called. -/
def asDict : Json → Except PyError Fields
  | .obj fields => .ok fields
  | _ => .error (.attributeError "object has no attribute 'get'")

/-- The fields of a value after `isinstance(value, dict)`. -/
def requireObject (value : Json) (error : PyError) : Except PyError Fields :=
  match value with
  | .obj fields => .ok fields
  | _ => .error error

@[simp] theorem requireObject_obj (fields : Fields) (error : PyError) :
    requireObject (.obj fields) error = .ok fields := by
  simp only [requireObject]

/-- `None if value is None else encode(value)` -/
def nullable {α : Type} (encode : α → Json) : Option α → Json
  | none => .null
  | some a => encode a

@[simp] theorem nullable_none {α : Type} (encode : α → Json) : nullable encode none = .null := rfl
@[simp] theorem nullable_some {α : Type} (encode : α → Json) (a : α) :
    nullable encode (some a) = encode a := rfl

/-- An optional string as a JSON value. -/
def ofOption : Option String → Json
  | none => .null
  | some s => .str s

mutual
/-- Whether no number of the value is infinite or not a number. -/
def finite : Json → Bool
  | .float (.finite _) => true
  | .float _ => false
  | .arr items => finiteList items
  | .obj fields => finiteFields fields
  | _ => true

/-- `finite` for every item of a list. -/
def finiteList : List Json → Bool
  | [] => true
  | item :: items => item.finite && finiteList items

/-- `finite` for every field of an object. -/
def finiteFields : List (String × Json) → Bool
  | [] => true
  | (_, value) :: fields => value.finite && finiteFields fields
end

@[simp] theorem finiteList_iff (items : List Json) :
    finiteList items = true ↔ ∀ item ∈ items, item.finite = true := by
  induction items with
  | nil => simp [finiteList]
  | cons item items ih => simp [finiteList, ih]

@[simp] theorem ofOption_none : ofOption none = .null := rfl
@[simp] theorem ofOption_some (s : String) : ofOption (some s) = .str s := rfl

theorem ofOption_injective {a b : Option String} (h : ofOption a = ofOption b) : a = b := by
  cases a <;> cases b <;> simp_all [ofOption]

@[simp] theorem finite_ofOption (s : Option String) : (ofOption s).finite = true := by
  cases s <;> simp [ofOption, finite]

end Json

namespace Fields

/-- `payload.get(key)`: the field's value, `None` when it is absent. -/
def get (fields : Fields) (key : String) : Json := (fields.lookup key).getD .null

/-- `payload.get(key, default)`. -/
def getD (fields : Fields) (key : String) (default : Json) : Json :=
  (fields.lookup key).getD default

/-- The names of the fields. -/
def keys (fields : Fields) : List String := fields.map Prod.fst

@[simp] theorem get_cons (key key' : String) (value : Json) (fields : Fields) :
    Fields.get ((key, value) :: fields) key' =
      if key' = key then value else Fields.get fields key' := by
  unfold get
  by_cases h : key' = key
  · simp [h]
  · simp [List.lookup_cons, h, beq_eq_false_iff_ne.mpr h]

@[simp] theorem getD_cons (key key' : String) (value default : Json) (fields : Fields) :
    Fields.getD ((key, value) :: fields) key' default =
      if key' = key then value else Fields.getD fields key' default := by
  unfold getD
  by_cases h : key' = key
  · simp [h]
  · simp [List.lookup_cons, h, beq_eq_false_iff_ne.mpr h]

end Fields

/-- Raise an error unless the condition holds. -/
def require (condition : Bool) (error : PyError) : Except PyError Unit :=
  if condition then .ok () else .error error

/-- A sequence of requirements succeeds exactly when each of them does. -/
@[simp] theorem require_bind_eq_ok {α : Type} {condition : Bool} {error : PyError}
    {next : Unit → Except PyError α} {a : α} :
    (require condition error >>= next) = .ok a ↔ condition = true ∧ next () = .ok a := by
  cases condition <;> simp [require, bind, Except.bind]

@[simp] theorem require_eq_ok {condition : Bool} {error : PyError} :
    require condition error = .ok () ↔ condition = true := by
  cases condition <;> simp [require]

@[simp] theorem require_true (error : PyError) : require true error = .ok () := rfl

/-! The reading rules below are not proved by `rfl`: a rewrite by such a rule would leave the
comparison of whole decoders to the kernel. -/

@[simp] theorem ok_bind {ε α β : Type} (a : α) (f : α → Except ε β) :
    ((Except.ok a : Except ε α) >>= f) = f a := by
  simp only [bind, Except.bind]

@[simp] theorem error_bind {ε α β : Type} (e : ε) (f : α → Except ε β) :
    ((Except.error e : Except ε α) >>= f) = .error e := by
  simp only [bind, Except.bind]

@[simp] theorem pure_eq_ok {ε α : Type} (a : α) : (pure a : Except ε α) = .ok a := by
  simp only [pure, Except.pure]

/-- A check sequenced before a block succeeds exactly when both do. -/
theorem check_bind_eq_ok {ε α : Type} {m : Except ε Unit} {f : Unit → Except ε α} {a : α} :
    (m >>= f) = .ok a ↔ m = .ok () ∧ f () = .ok a := by
  cases m <;> simp [bind, Except.bind]

/-- Sequencing in `Except` succeeds exactly when both parts do. -/
theorem bind_eq_ok {ε α β : Type} {m : Except ε α} {f : α → Except ε β} {b : β} :
    (m >>= f) = .ok b ↔ ∃ a, m = .ok a ∧ f a = .ok b := by
  cases m <;> simp [bind, Except.bind]

/-- A value that is changed afterwards is one that was computed. -/
theorem map_eq_ok {ε α β : Type} {m : Except ε α} {f : α → β} {b : β} :
    m.map f = .ok b ↔ ∃ a, m = .ok a ∧ f a = b := by
  cases m <;> simp [Except.map]

/-- Changing the exception changes no value. -/
theorem mapError_eq_ok {ε ε' α : Type} {f : ε → ε'} {m : Except ε α} {a : α} :
    m.mapError f = .ok a ↔ m = .ok a := by
  cases m <;> simp [Except.mapError]

/-- The value of a check carries no information. -/
theorem exists_unit {p : Unit → Prop} : (∃ a, p a) ↔ p () :=
  ⟨fun ⟨(), h⟩ => h, fun h => ⟨(), h⟩⟩

/-- A loop of checks succeeds exactly when each of them does. -/
theorem forM_eq_ok {ε α : Type} {items : List α} {check : α → Except ε Unit} :
    items.forM check = .ok () ↔ ∀ item ∈ items, check item = .ok () := by
  induction items with
  | nil => simp
  | cons item items ih =>
    rw [List.forM_eq_forM] at ih ⊢
    rw [List.forM_cons, check_bind_eq_ok, ih, List.forall_mem_cons]

/-- A value of the expected type, or the error raised for its absence. -/
def expect {α : Type} (value : Option α) (error : PyError) : Except PyError α :=
  match value with
  | some a => .ok a
  | none => .error error

@[simp] theorem expect_some {α : Type} (a : α) (error : PyError) :
    expect (some a) error = .ok a := by
  simp only [expect]

theorem expect_eq_ok {α : Type} {value : Option α} {error : PyError} {a : α} :
    expect value error = .ok a ↔ value = some a := by
  cases value <;> simp [expect]

/-- Read a string. -/
def asStr? : Json → Option String
  | .str s => some s
  | _ => none

/-- Read an integer that is not a boolean. -/
def asInt? : Json → Option Int
  | .int i => some i
  | _ => none

/-- Read a boolean. -/
def asBool? : Json → Option Bool
  | .bool b => some b
  | _ => none

/-- Read an optional value, `null` standing for `None`. -/
def asOptional? {α : Type} (read : Json → Option α) : Json → Option (Option α)
  | .null => some none
  | value => (read value).map some

@[simp] theorem asStr_str (s : String) : asStr? (.str s) = some s := by simp only [asStr?]
@[simp] theorem asInt_int (i : Int) : asInt? (.int i) = some i := by simp only [asInt?]
@[simp] theorem asBool_bool (b : Bool) : asBool? (.bool b) = some b := by simp only [asBool?]

/-- An optional integer as a JSON value. -/
def intOrNull : Option Int → Json
  | none => .null
  | some i => .int i

@[simp] theorem asOptional_ofOption (s : Option String) :
    asOptional? asStr? (Json.ofOption s) = some s := by
  cases s <;> rfl

@[simp] theorem asOptional_intOrNull (i : Option Int) :
    asOptional? asInt? (intOrNull i) = some i := by
  cases i <;> rfl

/-- Decoding an encoded list item by item maps what decoding does to each item over it. -/
theorem mapM_map_eq_ok_map {α β γ ε : Type} {encode : α → β} {decode : β → Except ε γ} {f : α → γ}
    {items : List α} (h : ∀ item ∈ items, decode (encode item) = .ok (f item)) :
    (items.map encode).mapM decode = .ok (items.map f) := by
  induction items with
  | nil => rfl
  | cons item items ih =>
    rw [List.map_cons, List.mapM_cons, h item (by simp), ih fun a ha => h a (by simp [ha])]
    rfl

theorem mapM_eq_ok_map {α β ε : Type} {read : α → Except ε β} {f : α → β} {items : List α}
    (h : ∀ item ∈ items, read item = .ok (f item)) : items.mapM read = .ok (items.map f) := by
  have hmap : (items.map id).mapM read = .ok (items.map f) := mapM_map_eq_ok_map h
  rwa [List.map_id] at hmap

/-- Decoding a list item by item recovers it when each item's decoding does. -/
theorem mapM_map_eq_ok {α β ε : Type} {encode : α → β} {decode : β → Except ε α} {items : List α}
    (h : ∀ item ∈ items, decode (encode item) = .ok item) :
    (items.map encode).mapM decode = .ok items := by
  rw [mapM_map_eq_ok_map (f := fun item => item) h, List.map_id']

/-- Reading a list item by item succeeds exactly when each item is read. -/
theorem mapM_eq_ok_iff {α β ε : Type} {read : α → Except ε β} {items : List α} {values : List β} :
    items.mapM read = .ok values ↔
      List.Forall₂ (fun item value => read item = .ok value) items values := by
  induction items generalizing values with
  | nil => simp [eq_comm]
  | cons item items ih =>
    simp only [List.mapM_cons, bind_eq_ok, pure_eq_ok, Except.ok.injEq, ih,
      List.forall₂_cons_left_iff]
    constructor
    · rintro ⟨a, ha, as, has, rfl⟩
      exact ⟨a, as, ha, has, rfl⟩
    · rintro ⟨a, as, ha, has, rfl⟩
      exact ⟨a, ha, as, has, rfl⟩

/-- Each item of a list that was read has its value in the result. -/
theorem exists_of_mapM_eq_ok {α β ε : Type} {read : α → Except ε β} {items : List α}
    {values : List β} (h : items.mapM read = .ok values) {item : α} (hmem : item ∈ items) :
    ∃ value ∈ values, read item = .ok value := by
  have hall := mapM_eq_ok_iff.mp h
  clear h
  induction hall with
  | nil => cases hmem
  | cons hread _ ih =>
    rcases List.mem_cons.mp hmem with rfl | hmem
    · exact ⟨_, List.mem_cons_self, hread⟩
    · obtain ⟨value, hvalue, hread⟩ := ih hmem
      exact ⟨value, List.mem_cons_of_mem _ hvalue, hread⟩

/-- A block is run over a list to the end when it succeeds on each item. -/
theorem exists_mapM_eq_ok {α β ε : Type} {read : α → Except ε β} {items : List α} :
    (∃ values, items.mapM read = .ok values) ↔ ∀ item ∈ items, ∃ value, read item = .ok value := by
  constructor
  · rintro ⟨values, h⟩ item hmem
    obtain ⟨value, -, hread⟩ := exists_of_mapM_eq_ok h hmem
    exact ⟨value, hread⟩
  · intro h
    induction items with
    | nil => exact ⟨[], rfl⟩
    | cons item items ih =>
      obtain ⟨value, hvalue⟩ := h item List.mem_cons_self
      obtain ⟨values, hvalues⟩ := ih fun other hother => h other (List.mem_cons_of_mem _ hother)
      exact ⟨value :: values, by rw [List.mapM_cons, hvalue, ok_bind, hvalues, ok_bind, pure_eq_ok]⟩

/-- Among members with different texts each is found under its own. -/
theorem find?_text {α : Type} {text : α → String} {members : List α}
    (hnodup : (members.map text).Nodup) {a : α} (ha : a ∈ members) :
    members.find? (fun b => text b == text a) = some a := by
  induction members with
  | nil => cases ha
  | cons first members ih =>
    rw [List.map_cons, List.nodup_cons] at hnodup
    rw [List.find?_cons]
    cases hfirst : text first == text a with
    | true =>
      rcases List.mem_cons.mp ha with rfl | ha
      · rfl
      · exact absurd (List.mem_map.mpr ⟨a, ha, (eq_of_beq hfirst).symm⟩) hnodup.1
    | false =>
      rcases List.mem_cons.mp ha with rfl | ha
      · simp at hfirst
      · exact ih hnodup.2 ha

/-- A Python `StrEnum`: its members and their distinct texts. -/
class StrEnum (α : Type) where
  /-- The text of a member. -/
  value : α → String
  /-- All members. -/
  members : List α
  /-- A text names one member. -/
  find_value : ∀ a, members.find? (fun b => value b == value a) = some a

namespace StrEnum

variable {α : Type} [StrEnum α]

/-- The member with a given text. -/
def ofValue? (text : String) : Option α := members.find? fun a => value a == text

@[simp] theorem ofValue_value (a : α) : ofValue? (value a) = some a := find_value a

theorem eq_value_of_ofValue {text : String} {a : α} (h : ofValue? text = some a) :
    text = value a :=
  (beq_iff_eq.mp (List.find?_some (p := fun a => value a == text) h)).symm

theorem value_injective {a b : α} (h : value a = value b) : a = b := by
  simpa using congrArg (ofValue? (α := α)) h

end StrEnum

/-- Whether a text is a lower-case hexadecimal SHA-256 digest. -/
def isHexDigest (text : String) : Bool :=
  text.length == 64 && text.toList.all fun c => c ∈ "0123456789abcdef".toList

theorem isHexDigest_ofList {cs : List Char} (hlength : cs.length = 64)
    (h : (cs.all fun c => c ∈ "0123456789abcdef".toList) = true) :
    isHexDigest (String.ofList cs) = true := by
  rw [isHexDigest, String.length_ofList, String.toList_ofList, hlength, h]
  rfl

theorem isHexDigest_replicate {c : Char} (h : c ∈ "0123456789abcdef".toList) :
    isHexDigest (String.ofList (List.replicate 64 c)) = true := by
  refine isHexDigest_ofList List.length_replicate (List.all_eq_true.mpr fun other hother => ?_)
  rw [(List.mem_replicate.mp hother).2]
  exact decide_eq_true h

/-- The microseconds of the years 1 to 9999. -/
def MAX_MICROS : ℕ := 315537897600000000

theorem zero_lt_MAX_MICROS : 0 < MAX_MICROS := by decide

theorem one_lt_MAX_MICROS : 1 < MAX_MICROS := by decide

theorem two_lt_MAX_MICROS : 2 < MAX_MICROS := by decide

theorem ten_lt_MAX_MICROS : 10 < MAX_MICROS := by decide

/-- The microseconds of two days, the span of the offsets from UTC. -/
def OFFSET_SPAN : ℕ := 172800000000

/-- A Python `datetime`: the reading of its clock in microseconds since the
first instant of the year 1, and its offset from UTC when it is timezone-aware. -/
structure DateTime where
  /-- The clock reading. -/
  micros : Fin MAX_MICROS
  /-- The offset plus one day, in microseconds; `none` for a naive value. -/
  offset : Option (Fin OFFSET_SPAN)
  deriving DecidableEq

namespace DateTime

/-- A reading of the UTC clock. -/
def utc (micros : Fin MAX_MICROS) : DateTime := ⟨micros, some ⟨86400000000, by decide⟩⟩

/-- The clock reading with the offset taken off. -/
def instant (t : DateTime) : Int := t.micros.val - (t.offset.map (·.val : _ → Int)).getD 0

/-- `a <= b` on datetimes, which is refused between a naive and an aware value. -/
def le (a b : DateTime) : Except PyError Bool :=
  if a.offset.isSome = b.offset.isSome then .ok (a.instant ≤ b.instant)
  else .error (.typeError "can't compare offset-naive and offset-aware datetimes")

/-- `a == b` on datetimes: aware values are compared by their instants. -/
def same (a b : DateTime) : Bool :=
  decide (a.offset.isSome = b.offset.isSome) && decide (a.instant = b.instant)

end DateTime

/-- The standard-library functions that the services call as black boxes. -/
structure Python where
  /-- `sha256(text.encode("utf-8")).hexdigest()`. -/
  sha256 : String → String
  /-- `json.dumps(value, sort_keys=True, separators=(",", ":"), ensure_ascii=False)`. -/
  dumps : Json → String
  /-- `repr` of a float, which is also its JSON text. -/
  floatRepr : PyFloat → String
  /-- `str(value)`. -/
  str : Json → String
  /-- `float(value)`. -/
  float : Json → Except PyError PyFloat
  /-- `datetime.isoformat`. -/
  isoformat : DateTime → String
  /-- `datetime.fromisoformat`, which refuses malformed text. -/
  fromisoformat : String → Option DateTime
  /-- A digest is 64 lower-case hexadecimal digits. -/
  sha256_isHexDigest : ∀ text, isHexDigest (sha256 text) = true
  /-- `str` is the identity on strings. -/
  str_str : ∀ s, str (.str s) = s
  /-- `float` is the identity on floats. -/
  float_float : ∀ f, float (.float f) = .ok f
  /-- The text of a timestamp parses back to it. -/
  fromisoformat_isoformat : ∀ t, fromisoformat (isoformat t) = some t
  /-- The text of a timestamp is short. -/
  isoformat_length : ∀ t, (isoformat t).length ≤ 64

attribute [simp] Python.str_str Python.float_float Python.fromisoformat_isoformat Python.sha256_isHexDigest

/-- The number of characters that `json.dumps` writes for a character of a
string when the output is kept to ASCII. -/
def escapedLength (c : Char) : ℕ :=
  if c ∈ ['"', '\\', '\n', '\r', '\t', '\x08', '\x0c'] then 2
  else if 32 ≤ c.toNat ∧ c.toNat ≤ 126 then 1
  else if c.toNat ≤ 0xffff then 6
  else 12

/-- The length of the JSON text of a string. -/
def textLength (text : String) : ℕ := 2 + (text.toList.map escapedLength).sum

theorem textLength_le (text : String) : textLength text ≤ 2 + 12 * text.length := by
  have hchar (c : Char) : escapedLength c ≤ 12 := by
    unfold escapedLength
    split_ifs <;> omega
  have hsum (cs : List Char) : (cs.map escapedLength).sum ≤ 12 * cs.length := by
    induction cs with
    | nil => simp
    | cons c cs ih =>
      have := hchar c
      simp only [List.map_cons, List.sum_cons, List.length_cons]
      omega
  have := hsum text.toList
  rw [String.length_toList] at this
  unfold textLength
  omega

namespace Json

mutual
/-- `len(json.dumps(value, sort_keys=True, separators=(",", ":")))` -/
def dumpsLength (py : Python) : Json → ℕ
  | .null => 4
  | .bool b => if b then 4 else 5
  | .int i => (toString i).length
  | .float f => (py.floatRepr f).length
  | .str s => textLength s
  | .arr items => 2 + (items.length - 1) + dumpsLengthList py items
  | .obj fields => 2 + (fields.length - 1) + dumpsLengthFields py fields

/-- The total length of the items of an array. -/
def dumpsLengthList (py : Python) : List Json → ℕ
  | [] => 0
  | item :: items => dumpsLength py item + dumpsLengthList py items

/-- The total length of the fields of an object, each with its colon. -/
def dumpsLengthFields (py : Python) : List (String × Json) → ℕ
  | [] => 0
  | (key, value) :: fields =>
      textLength key + 1 + dumpsLength py value + dumpsLengthFields py fields
end

end Json

/-- Whether Python's `str.isspace` holds of a character. -/
def isSpace (c : Char) : Bool :=
  let n := c.toNat
  (9 ≤ n && n ≤ 13) || (28 ≤ n && n ≤ 32) || n == 0x85 || n == 0xa0 || n == 0x1680 ||
    (0x2000 ≤ n && n ≤ 0x200a) || n == 0x2028 || n == 0x2029 || n == 0x202f || n == 0x205f ||
    n == 0x3000

/-- Whether `text.strip()` is empty. -/
def isBlank (text : String) : Bool := text.toList.all isSpace

end AtlasOS
