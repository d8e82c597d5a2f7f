import AtlasOS.Lib.Json

/-!
# Canonical JSON and domain-separated digests

The contracts of Atlas Core identify a value by the digest of its canonical JSON
text, which is refused for strings that are not in Unicode normal form C and for
values that are nested too deeply.
-/

namespace AtlasOS

/-- The Python runtime with its Unicode database. -/
structure Platform extends Python where
  /-- `unicodedata.normalize("NFC", text)` -/
  nfc : String → String

variable (pf : Platform)

mutual
/-- `_closed`: the nesting and the strings of a value are bounded and normal. -/
def closed (maxDepth depth : ℕ) : Json → Except PyError Unit
  | .str text => do
    require (depth ≤ maxDepth) (.valueError "JSON nesting exceeds bound")
    require (pf.nfc text == text) (.valueError "strings must be NFC")
  | .arr items => do
    require (depth ≤ maxDepth) (.valueError "JSON nesting exceeds bound")
    closedList maxDepth (depth + 1) items
  | .obj fields => do
    require (depth ≤ maxDepth) (.valueError "JSON nesting exceeds bound")
    closedFields maxDepth (depth + 1) fields
  | .null | .bool _ | .int _ | .float _ =>
    require (depth ≤ maxDepth) (.valueError "JSON nesting exceeds bound")

/-- `_closed` for the items of an array. -/
def closedList (maxDepth depth : ℕ) : List Json → Except PyError Unit
  | [] => .ok ()
  | item :: items => do
    closed maxDepth depth item
    closedList maxDepth depth items

/-- `_closed` for the keys and the values of an object. -/
def closedFields (maxDepth depth : ℕ) : List (String × Json) → Except PyError Unit
  | [] => .ok ()
  | (key, value) :: fields => do
    closed maxDepth depth (.str key)
    closed maxDepth depth value
    closedFields maxDepth depth fields
end

/-- `canonical_json(value, max_depth=maxDepth)` -/
def canonicalJsonWithin (maxDepth : ℕ) (value : Json) : Except PyError String := do
  closed pf maxDepth 0 value
  require value.finite (.valueError "Out of range float values are not JSON compliant")
  return pf.dumps value

/-- `canonical_json` -/
def canonicalJson (value : Json) : Except PyError String := canonicalJsonWithin pf 32 value

/-- `sha256(domain.encode() + b"\0" + canonical_json(value)).hexdigest()` -/
def domainDigest (domain : String) (value : Json) : Except PyError String := do
  return pf.sha256 (domain ++ "\x00" ++ (← canonicalJson pf value))

variable {pf}

theorem isHexDigest_of_domainDigest {domain digest : String} {value : Json}
    (h : domainDigest pf domain value = .ok digest) : isHexDigest digest = true := by
  obtain ⟨text, -, htext⟩ := bind_eq_ok.mp h
  rw [pure_eq_ok, Except.ok.injEq] at htext
  rw [← htext]
  exact pf.sha256_isHexDigest _

/-! ## Texts in normal form -/

namespace Json

mutual
/-- The number of containers around the innermost value. -/
def nesting : Json → ℕ
  | .arr items => 1 + nestingList items
  | .obj fields => 1 + nestingFields fields
  | .null | .bool _ | .int _ | .float _ | .str _ => 0

/-- The greatest nesting of the items of a list. -/
def nestingList : List Json → ℕ
  | [] => 0
  | item :: items => max (nesting item) (nestingList items)

/-- The greatest nesting of the values of an object. -/
def nestingFields : List (String × Json) → ℕ
  | [] => 0
  | (_, value) :: fields => max (nesting value) (nestingFields fields)
end

end Json

mutual
/-- When every text is normal, a value is closed that is not nested too deeply. -/
theorem closed_of_nesting (hnfc : ∀ text, pf.nfc text = text) {maxDepth depth : ℕ} : (value : Json) →
    value.nesting + depth ≤ maxDepth → closed pf maxDepth depth value = .ok ()
  | .str text, h => by
    have hdepth : depth ≤ maxDepth := by omega
    simp [closed, hdepth, hnfc]
  | .arr items, h => by
    rw [Json.nesting] at h
    have hdepth : depth ≤ maxDepth := by omega
    simp only [closed, hdepth, decide_true, require_true, ok_bind]
    exact closedList_of_nesting hnfc items (by omega) (by omega)
  | .obj fields, h => by
    rw [Json.nesting] at h
    have hdepth : depth ≤ maxDepth := by omega
    simp only [closed, hdepth, decide_true, require_true, ok_bind]
    exact closedFields_of_nesting hnfc fields (by omega) (by omega)
  | .null, h | .bool _, h | .int _, h | .float _, h => by
    have hdepth : depth ≤ maxDepth := by omega
    simp [closed, hdepth]

theorem closedList_of_nesting (hnfc : ∀ text, pf.nfc text = text) {maxDepth depth : ℕ} :
    (items : List Json) → depth ≤ maxDepth →
    Json.nestingList items + depth ≤ maxDepth → closedList pf maxDepth depth items = .ok ()
  | [], _, _ => by simp [closedList]
  | item :: items, hdepth, h => by
    rw [Json.nestingList] at h
    rw [closedList, closed_of_nesting hnfc item (by omega), ok_bind]
    exact closedList_of_nesting hnfc items hdepth (by omega)

theorem closedFields_of_nesting (hnfc : ∀ text, pf.nfc text = text) {maxDepth depth : ℕ} :
    (fields : List (String × Json)) →
    depth ≤ maxDepth → Json.nestingFields fields + depth ≤ maxDepth →
    closedFields pf maxDepth depth fields = .ok ()
  | [], _, _ => by simp [closedFields]
  | (key, value) :: fields, hdepth, h => by
    rw [Json.nestingFields] at h
    rw [closedFields, closed_of_nesting hnfc (.str key) (by simpa [Json.nesting] using hdepth), ok_bind,
      closed_of_nesting hnfc value (by omega), ok_bind]
    exact closedFields_of_nesting hnfc fields hdepth (by omega)
end

/-- The canonical text of a value in normal form. -/
theorem canonicalJsonWithin_eq (hnfc : ∀ text, pf.nfc text = text) {maxDepth : ℕ} {value : Json}
    (h : value.nesting ≤ maxDepth) (hfinite : value.finite = true) :
    canonicalJsonWithin pf maxDepth value = .ok (pf.dumps value) := by
  rw [canonicalJsonWithin, closed_of_nesting hnfc value (by omega), ok_bind, hfinite, require_true,
    ok_bind, pure_eq_ok]

end AtlasOS
