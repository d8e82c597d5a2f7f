import AtlasOS.Lib.Text

/-!
# The stores of provider connections and provider secrets

Both stores hold one section for each provider. A section may lack its mapping,
and a provider may lack its section; the readers take either for an empty
mapping. An update merges values into the mapping of a provider, a replacement
puts another mapping in its place, and both make the section when there is none.
-/

namespace AtlasOS.Connections

/-- A name that is no path: neither a relative directory nor a text with a separator. -/
def pathFree (text : String) : Bool :=
  decide (text ∉ [".", ".."]) && !text.toList.contains '/' && !text.toList.contains '\\'

/-- `_validate_identifier`, which is also `_validate_provider_id` with its label. -/
def validateIdentifier (value label : String) : Except PyError String := do
  let normalized := strip value
  require (decide (normalized ≠ "")) (.valueError (label ++ " must not be empty."))
  require (pathFree normalized) (.valueError (label ++ " must not contain path separators."))
  return normalized

/-- `_validate_provider_id` -/
def validateProviderId (provider_id : String) : Except PyError String :=
  validateIdentifier provider_id "provider_id"

/-- The providers of a store, each with its section; `none` in a section stands for a missing
mapping. -/
abbrev Document (β : Type) := Dict (Option (Dict β))

namespace Document

variable {β : Type} (document : Document β)

/-- The mapping of a provider, `{}` when it has none. -/
def mapping (provider_id : String) : Dict β := ((document.get provider_id).join).getD ∅

/-- Enter items into the mapping of a provider. -/
def merge (provider_id : String) (items : List (String × β)) : Document β :=
  document.set provider_id
    (some (items.foldl (fun mapping item => mapping.set item.1 item.2) (document.mapping provider_id)))

/-- Put a mapping in the place of that of a provider. -/
def replace (provider_id : String) (values : Dict β) : Document β :=
  document.set provider_id (some values)

theorem get_merge_of_ne {provider_id other : String} (items : List (String × β))
    (h : provider_id ≠ other) : (document.merge provider_id items).get other = document.get other :=
  document.get_set_of_ne _ h

@[simp] theorem get_replace (provider_id : String) (values : Dict β) :
    (document.replace provider_id values).get provider_id = some (some values) :=
  document.get_set_self _ _

theorem get_replace_of_ne {provider_id other : String} (values : Dict β)
    (h : provider_id ≠ other) : (document.replace provider_id values).get other = document.get other :=
  document.get_set_of_ne _ h

/-- Replacing what was merged, or replaced, is replacing. -/
theorem replace_set (provider_id : String) (section_ : Option (Dict β)) (values : Dict β) :
    replace (document.set provider_id section_) provider_id values =
      document.replace provider_id values := by
  apply Dict.ext
  intro key
  unfold replace
  by_cases h : provider_id = key
  · simp [h]
  · rw [Dict.get_set_of_ne _ _ h, Dict.get_set_of_ne _ _ h, Dict.get_set_of_ne _ _ h]

/-- Replacing a mapping by itself changes nothing. -/
theorem replace_self {document : Document β} {provider_id : String} {values : Dict β}
    (h : document.get provider_id = some (some values)) :
    document.replace provider_id values = document :=
  Dict.set_get_self h

end Document

/-! ## Connection values -/

/-- `get_provider_connection_values` -/
def getConnectionValues (document : Document Json) (provider_id : String) :
    Except PyError (Dict Json) := do
  let normalized ← validateProviderId provider_id
  return document.mapping normalized

/-- `_validate_connection_values` -/
def validateConnectionValues (keys : List String) : Except PyError Unit :=
  keys.forM fun key => do
    require (decide (strip key ≠ "")) (.valueError "connection value keys must be non-empty strings.")
    require (pathFree key) (.valueError "connection value keys must not contain path separators.")

/-- `update_provider_connection_values`, up to the write of the document. -/
def updateConnectionValues (document : Document Json) (provider_id : String) (values : Fields) :
    Except PyError (Document Json) := do
  let normalized ← validateProviderId provider_id
  validateConnectionValues values.keys
  return document.merge normalized values

/-- `replace_provider_connection_values`, up to the write of the document. -/
def replaceConnectionValues (document : Document Json) (provider_id : String) (values : Dict Json) :
    Except PyError (Document Json) := do
  let normalized ← validateProviderId provider_id
  validateConnectionValues (values.items.map Prod.fst)
  return document.replace normalized values

/-! ## Secret values -/

/-- `_validate_replacements` -/
def validateReplacements (replacements : List (String × String)) :
    Except PyError (List (String × String)) :=
  replacements.mapM fun item => do
    let normalized ← validateIdentifier item.1 "secret_name"
    require (decide (item.2 ≠ "")) (.valueError "secret replacement values must be non-empty strings.")
    return (normalized, item.2)

/-- `update_provider_secrets` with replacements only, up to the write of the document. -/
def updateProviderSecrets (document : Document String) (provider_id : String)
    (replacements : List (String × String)) : Except PyError (Document String) := do
  let normalized ← validateProviderId provider_id
  let items ← validateReplacements replacements
  return document.merge normalized items

/-- `replace_provider_secret_values`, up to the write of the document. -/
def replaceProviderSecretValues (document : Document String) (provider_id : String)
    (secrets : Dict String) : Except PyError (Document String) := do
  let normalized ← validateProviderId provider_id
  let items ← validateReplacements secrets.items
  return document.replace normalized (Dict.ofItems items)

/-- `get_provider_secret_value` -/
def getProviderSecretValue (document : Document String) (provider_id secret_name : String) :
    Except PyError (Option String) := do
  let normalized ← validateProviderId provider_id
  let name ← validateIdentifier secret_name "secret_name"
  return (document.mapping normalized).get name

/-- One round of `_read_provider_secrets`. -/
def readSecret (document : Document String) (provider_id : String) (secrets : Dict String)
    (name : String) : Except PyError (Dict String) := do
  match ← getProviderSecretValue document provider_id name with
  | some value => return secrets.set name value
  | none => return secrets

/-- `_read_provider_secrets`: each configured name is looked up under its stripped form. -/
def readProviderSecrets (document : Document String) (provider_id : String) :
    Except PyError (Dict String) := do
  let normalized ← validateProviderId provider_id
  ((document.mapping normalized).items.map Prod.fst).foldlM (readSecret document provider_id) ∅

/-! ## Provider identifiers -/

/-- An identifier of a provider is accepted as it is. -/
theorem validateProviderId_of_isSlug {provider_id : String} (h : isSlug provider_id = true) :
    validateProviderId provider_id = .ok provider_id := by
  obtain ⟨hne, hchars⟩ := chars_of_isSlug h
  have hstrip : strip provider_id = provider_id :=
    strip_eq_self fun c hc => isSpace_of_isIdChar (hchars c hc)
  have hfree : pathFree provider_id = true := by
    have hslash : '/' ∉ provider_id.toList := fun hmem => absurd (hchars _ hmem) (by decide)
    have hback : '\\' ∉ provider_id.toList := fun hmem => absurd (hchars _ hmem) (by decide)
    have hdot : '.' ∉ provider_id.toList := fun hmem => absurd (hchars _ hmem) (by decide)
    have hnames : provider_id ∉ [".", ".."] := by
      intro hmem
      rcases List.mem_cons.mp hmem with rfl | hmem
      · exact hdot (by decide)
      · obtain rfl := List.mem_singleton.mp hmem
        exact hdot (by decide)
    simp [pathFree, hnames, hslash, hback]
  have hnonempty : provider_id ≠ "" := fun heq => hne (by rw [heq]; rfl)
  simp [validateProviderId, validateIdentifier, hstrip, hfree, hnonempty]

end AtlasOS.Connections
