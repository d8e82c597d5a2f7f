import Mathlib.Algebra.Order.Ring.Nat
import Mathlib.Tactic.IntervalCases
import AtlasOS.Lib.Json

/-!
# A runtime to evaluate with

A simple instance of the Python runtime, which shows that its laws can be met
together and on which closed statements are evaluated. Timestamps are written
with a fixed number of decimal digits, digests are constant, and JSON values
have no text.
-/

namespace AtlasOS

/-- The last `width` decimal digits of a number, the lowest first. -/
def digitChars : ℕ → ℕ → List Char
  | 0, _ => []
  | width + 1, n => Char.ofNat (48 + n % 10) :: digitChars width (n / 10)

/-- The number that a list of decimal digits stands for, the lowest digit first. -/
def readDigits : List Char → ℕ
  | [] => 0
  | c :: cs => (c.toNat - 48) + 10 * readDigits cs

@[simp] theorem length_digitChars (width n : ℕ) : (digitChars width n).length = width := by
  induction width generalizing n with
  | zero => rfl
  | succ width ih => simp [digitChars, ih]

theorem readDigits_digitChars {width n : ℕ} (h : n < 10 ^ width) :
    readDigits (digitChars width n) = n := by
  induction width generalizing n with
  | zero =>
    have hzero : n = 0 := by simpa using h
    simp [digitChars, readDigits, hzero]
  | succ width ih =>
    have hlow : n % 10 < 10 := Nat.mod_lt _ (by decide)
    have hchar : (Char.ofNat (48 + n % 10)).toNat = 48 + n % 10 := by
      generalize n % 10 = digit at hlow
      interval_cases digit <;> rfl
    have hhigh : n / 10 < 10 ^ width := by
      rw [pow_succ] at h
      omega
    rw [digitChars, readDigits, hchar, ih hhigh]
    omega

/-- The text of a timestamp: 18 digits, and 12 more when it has an offset. -/
def plainIsoformat (t : DateTime) : String :=
  String.ofList (digitChars 18 t.micros ++
    match t.offset with
    | none => []
    | some offset => digitChars 12 offset)

/-- The timestamp that a text stands for. -/
def plainFromisoformat (text : String) : Option DateTime :=
  let micros := readDigits (text.toList.take 18)
  let rest := text.toList.drop 18
  let offset := readDigits rest
  if hmicros : micros < MAX_MICROS then
    if rest = [] then some ⟨⟨micros, hmicros⟩, none⟩
    else if hoffset : offset < OFFSET_SPAN then some ⟨⟨micros, hmicros⟩, some ⟨offset, hoffset⟩⟩
    else none
  else none

theorem plainFromisoformat_plainIsoformat (t : DateTime) :
    plainFromisoformat (plainIsoformat t) = some t := by
  obtain ⟨⟨micros, hmicros⟩, offset⟩ := t
  have hwide : micros < 10 ^ 18 := lt_trans hmicros (by decide)
  have htake (rest : List Char) : (digitChars 18 micros ++ rest).take 18 = digitChars 18 micros :=
    List.take_left' (length_digitChars 18 micros)
  have hdrop (rest : List Char) : (digitChars 18 micros ++ rest).drop 18 = rest :=
    List.drop_left' (length_digitChars 18 micros)
  cases offset with
  | none =>
    have hall := htake []
    rw [List.append_nil] at hall
    simp [plainFromisoformat, plainIsoformat, hall, readDigits_digitChars hwide, hmicros]
  | some offset =>
    obtain ⟨offset, hoffset⟩ := offset
    have hshort : offset < 10 ^ 12 := lt_trans hoffset (by decide)
    have hne : digitChars 12 offset ≠ [] := by simp [digitChars]
    simp [plainFromisoformat, plainIsoformat, htake, hdrop, readDigits_digitChars hwide, hmicros,
      readDigits_digitChars hshort, hoffset, hne]

theorem length_plainIsoformat (t : DateTime) : (plainIsoformat t).length ≤ 64 := by
  unfold plainIsoformat
  rw [String.length_ofList, List.length_append, length_digitChars]
  cases t.offset <;> simp

/-- `float(value)` on the values that JSON has. -/
def plainFloat : Json → Except PyError PyFloat
  | .float f => .ok f
  | .int i => .ok (.finite i)
  | .bool b => .ok (.finite b.toNat)
  | .str _ => .error (.valueError "could not convert string to float")
  | _ => .error (.typeError "float() argument must be a string or a real number")

/-- `str(value)` on strings. -/
def plainStr : Json → String
  | .str s => s
  | _ => ""

/-- A runtime that meets the laws. -/
def Python.plain : Python where
  sha256 _ := String.ofList (List.replicate 64 '0')
  dumps _ := ""
  floatRepr _ := ""
  str := plainStr
  float := plainFloat
  isoformat := plainIsoformat
  fromisoformat := plainFromisoformat
  sha256_isHexDigest _ := isHexDigest_replicate (by decide)
  str_str _ := rfl
  float_float _ := rfl
  fromisoformat_isoformat := plainFromisoformat_plainIsoformat
  isoformat_length := length_plainIsoformat

end AtlasOS
