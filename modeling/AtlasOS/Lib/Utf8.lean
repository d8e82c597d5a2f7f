import Mathlib.Data.List.Basic
import Mathlib.Data.String.Basic

/-!
# UTF-8

The bytes of a text, and the text that bytes are the encoding of. Only the encoding
of a text decodes, and it decodes to that text. Other bytes are decoded with their
errors left out or marked, an error being the longest beginning of an encoding that is
not one.
-/

namespace AtlasOS

/-- `text.encode("utf-8")` -/
def utf8 (text : String) : List UInt8 := text.toList.flatMap String.utf8EncodeChar

/-- `bytes.decode("utf-8")` -/
def decodeUtf8 (bytes : List UInt8) : Option String := String.fromUTF8? bytes.toByteArray

theorem toByteArray_utf8 (text : String) : (utf8 text).toByteArray = text.toByteArray := by
  rw [← String.utf8Encode_toList]
  rfl

theorem decodeUtf8_utf8 (text : String) : decodeUtf8 (utf8 text) = some text := by
  have hvalid : (utf8 text).toByteArray.IsValidUTF8 := by
    rw [toByteArray_utf8]
    exact text.isValidUTF8
  rw [decodeUtf8, String.fromUTF8?, dif_pos hvalid, Option.some_inj]
  apply String.toByteArray_inj.mp
  exact toByteArray_utf8 text

/-- Only the encoding of a text decodes to it. -/
theorem decodeUtf8_eq_some {bytes : List UInt8} {text : String} :
    decodeUtf8 bytes = some text ↔ bytes = utf8 text := by
  constructor
  · intro h
    rw [decodeUtf8, String.fromUTF8?] at h
    split_ifs at h with hvalid
    apply List.toByteArray_inj.mp
    rw [toByteArray_utf8, ← Option.some.inj h]
    rfl
  · rintro rfl
    exact decodeUtf8_utf8 text

@[simp] theorem length_utf8 (text : String) : (utf8 text).length = text.utf8ByteSize := by
  rw [← List.size_toByteArray, toByteArray_utf8, String.size_toByteArray]

/-! ## Decoding with errors -/

/-- The character whose encoding the bytes begin with. -/
def leadingChar (bytes : List UInt8) : Option Char := bytes.toByteArray.utf8DecodeChar? 0

theorem leadingChar_append (c : Char) (bytes : List UInt8) :
    leadingChar (String.utf8EncodeChar c ++ bytes) = some c := by
  rw [leadingChar, List.toByteArray_append]
  exact ByteArray.utf8DecodeChar?_utf8EncodeChar_append

theorem eq_append_of_leadingChar {bytes : List UInt8} {c : Char} (h : leadingChar bytes = some c) :
    ∃ rest, bytes = String.utf8EncodeChar c ++ rest := by
  obtain ⟨rest, hrest⟩ := ByteArray.exists_of_utf8DecodeChar?_eq_some h
  refine ⟨rest.data.toList, ?_⟩
  have hdata := congrArg (fun array => array.data.toList) hrest
  simpa using hdata

/-- Whether the second byte of a longer encoding may follow the first one. -/
def followsLead (a b : UInt8) : Bool :=
  0x80 ≤ b && b ≤ 0xbf && !(a == 0xe0 && b < 0xa0) && !(a == 0xed && 0xa0 ≤ b) &&
    !(a == 0xf0 && b < 0x90) && !(a == 0xf4 && 0x90 ≤ b)

/-- The number of bytes that an error takes, where the bytes begin with no encoding. -/
def errorLength : List UInt8 → ℕ
  | a :: b :: c :: _ =>
      if 0xe0 ≤ a && a ≤ 0xf4 && followsLead a b then
        if 0xf0 ≤ a && 0x80 ≤ c && c ≤ 0xbf then 3 else 2
      else 1
  | [a, b] => if 0xe0 ≤ a && a ≤ 0xf4 && followsLead a b then 2 else 1
  | _ => 1

/-- The characters of bytes, with others in the place of an error; so many bytes are passed over
first. -/
def decodeWith (mark : List Char) : ℕ → List UInt8 → List Char
  | _, [] => []
  | skip + 1, _ :: bytes => decodeWith mark skip bytes
  | 0, a :: bytes =>
      match leadingChar (a :: bytes) with
      | some c => c :: decodeWith mark (c.utf8Size - 1) bytes
      | none => mark ++ decodeWith mark (errorLength (a :: bytes) - 1) bytes

/-- `bytes.decode("utf-8", errors="ignore")` -/
def decodeIgnore (bytes : List UInt8) : String := String.ofList (decodeWith [] 0 bytes)

/-- `bytes.decode("utf-8", errors="replace")` -/
def decodeReplace (bytes : List UInt8) : String := String.ofList (decodeWith ['\ufffd'] 0 bytes)

theorem decodeWith_append (mark : List Char) (skipped bytes : List UInt8) :
    decodeWith mark skipped.length (skipped ++ bytes) = decodeWith mark 0 bytes := by
  induction skipped with
  | nil => rfl
  | cons a skipped ih => exact ih

/-- An encoding is decoded, whatever follows it. -/
theorem decodeWith_encode (mark : List Char) (c : Char) (bytes : List UInt8) :
    decodeWith mark 0 (String.utf8EncodeChar c ++ bytes) = c :: decodeWith mark 0 bytes := by
  have hlength := String.length_utf8EncodeChar c
  have hleading := leadingChar_append c bytes
  cases hc : String.utf8EncodeChar c with
  | nil => exact absurd hc String.utf8EncodeChar_ne_nil
  | cons a later =>
    rw [hc] at hlength hleading
    have hlater : c.utf8Size - 1 = later.length := by
      rw [List.length_cons] at hlength
      omega
    rw [List.cons_append] at hleading ⊢
    simp only [decodeWith, hleading, hlater, decodeWith_append]

theorem decodeWith_utf8 (mark : List Char) (text : String) :
    decodeWith mark 0 (utf8 text) = text.toList := by
  rw [utf8]
  induction text.toList with
  | nil => rfl
  | cons c text ih => rw [List.flatMap_cons, decodeWith_encode, ih]

/-- A text is decoded to itself. -/
theorem decodeIgnore_utf8 (text : String) : decodeIgnore (utf8 text) = text := by
  rw [decodeIgnore, decodeWith_utf8, String.ofList_toList]

/-- What is decoded with the errors left out is encoded by some of the bytes, in their order. -/
theorem encode_decodeWith_sublist (skip : ℕ) (bytes : List UInt8) :
    ((decodeWith [] skip bytes).flatMap String.utf8EncodeChar).Sublist (bytes.drop skip) := by
  induction bytes generalizing skip with
  | nil =>
    rw [decodeWith]
    exact List.nil_sublist _
  | cons a bytes ih =>
    cases skip with
    | succ skip => exact ih skip
    | zero =>
      rw [List.drop_zero, decodeWith.eq_def]
      dsimp only
      split
      · next c hleading =>
        obtain ⟨rest, hrest⟩ := eq_append_of_leadingChar hleading
        have hdrop : bytes.drop (c.utf8Size - 1) = rest := by
          have hsize := c.utf8Size_pos
          have hlater := congrArg (List.drop c.utf8Size) hrest
          rw [← String.length_utf8EncodeChar c, List.drop_left, String.length_utf8EncodeChar] at hlater
          rw [← hlater, ← Nat.sub_add_cancel hsize, List.drop_succ_cons, Nat.add_sub_cancel]
        have hrec := ih (c.utf8Size - 1)
        rw [hdrop] at hrec
        rw [List.flatMap_cons, hrest]
        exact hrec.append_left _
      · exact ((ih _).trans (List.drop_sublist _ _)).trans (List.sublist_cons_self _ _)

theorem utf8_decodeIgnore_sublist (bytes : List UInt8) : (utf8 (decodeIgnore bytes)).Sublist bytes := by
  have h := encode_decodeWith_sublist 0 bytes
  rw [List.drop_zero] at h
  rwa [utf8, decodeIgnore, String.toList_ofList]

end AtlasOS
