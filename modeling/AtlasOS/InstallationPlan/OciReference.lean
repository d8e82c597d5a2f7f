import AtlasOS.Lib.Json
import AtlasOS.Lib.Path
import AtlasOS.Lib.Text

/-!
# Names of container images

`normalize_oci_reference` turns a reference to a container image into its
repository, its digest and whether it carries a tag. It works on characters, so
that a text is the list of them here.
-/

namespace AtlasOS.InstallationPlan

/-- A text as its characters. -/
abbrev Text := List Char

/-! ## Patterns -/

/-- `text.isascii()` -/
def isAscii (text : Text) : Bool := text.all fun c => c.toNat < 128

/-- `re.compile(r"sha256:[0-9a-f]{64}")` -/
def isDigest (text : Text) : Bool :=
  text.take 7 = "sha256:".toList && (text.drop 7).length = 64 &&
    (text.drop 7).all (· ∈ "0123456789abcdef".toList)

/-- `_digest` -/
def digest (value : Text) : Except PyError Text := do
  require (isAscii value) (.valueError "ASCII required")
  require (isDigest value) (.valueError "invalid Sha256Digest")
  return value

/-- `[A-Za-z0-9_]` -/
def isTagStart (c : Char) : Bool := c.isAlphanum || c = '_'

/-- `[A-Za-z0-9_][A-Za-z0-9_.-]{0,127}` -/
def isTag : Text → Bool
  | [] => false
  | c :: rest => isTagStart c && rest.length ≤ 127 && rest.all fun d =>
      isTagStart d || d = '.' || d = '-'

/-- `[a-z0-9](?:[a-z0-9-]{0,61}[a-z0-9])?` -/
def isLabel (label : Text) : Bool :=
  label.length ≤ 63 && label.all isIdChar && label.head?.any isSlugChar &&
    label.getLast?.any isSlugChar

/-- The host of a registry. -/
def isHost (host : Text) : Bool :=
  host = "localhost".toList || host.length ≤ 253 && (host.splitOn '.').all isLabel

/-- `int(digits)` -/
def number (digits : Text) : ℕ := digits.foldl (fun n c => 10 * n + (c.toNat - '0'.toNat)) 0

/-- `port.isdecimal() and 1 <= int(port) <= 65535` -/
def isPort (port : Text) : Bool :=
  !port.isEmpty && port.all Char.isDigit && 1 ≤ number port && number port ≤ 65535

/-- `[._-]` -/
def isSeparator (c : Char) : Bool := c = '.' || c = '_' || c = '-'

/-- What may follow a character of `[a-z0-9]+(?:[._-][a-z0-9]+)*`. -/
def componentRest : Text → Bool
  | [] => true
  | c :: rest =>
      (isSlugChar c || isSeparator c && rest.head?.any isSlugChar) && componentRest rest

/-- `[a-z0-9]+(?:[._-][a-z0-9]+)*` -/
def isComponent (component : Text) : Bool :=
  component.head?.any isSlugChar && componentRest component

/-! ## The function -/

/-- `text.rfind(c)` -/
def rfind (c : Char) : Text → ℤ
  | [] => -1
  | d :: text =>
      let found := rfind c text
      if 0 ≤ found then found + 1 else if d = c then 0 else -1

/-- What a reference may not contain. -/
def FORBIDDEN : List String := ["://", "@/", "?", "#", "%"]

/-- Whether a component names a registry. -/
def namesRegistry (first : Text) : Bool :=
  '.' ∈ first || ':' ∈ first || first = "localhost".toList

/-- `docker.io` -/
def DOCKER : Text := "docker.io".toList

/-- `library` -/
def LIBRARY : Text := "library".toList

/-- The name and the digest of a reference. -/
def splitDigest (value : Text) : Except PyError (Text × Option Text) :=
  if '@' ∈ value then
    match value.splitOn '@' with
    | [name, suffix] => return (name, some (← digest suffix))
    | _ => .error (.valueError "invalid OCI reference")
  else .ok (value, none)

/-- The name without its tag, and whether it has one. -/
def splitTag (value : Text) : Except PyError (Text × Bool) :=
  let slash := rfind '/' value
  let colon := rfind ':' value
  if colon > slash then do
    require (isTag (value.drop (colon + 1).toNat)) (.valueError "invalid OCI tag")
    return (value.take colon.toNat, true)
  else .ok (value, false)

/-- The components of a name, the first of them a registry. -/
def located (parts : List Text) : List Text :=
  if parts.head?.all namesRegistry then parts else DOCKER :: parts

/-- The components below a registry; an image of Docker is one of the library. -/
def placed (registry : Text) (repos : List Text) : List Text :=
  if registry = DOCKER && repos.length = 1 then LIBRARY :: repos else repos

/-- The registry of a name and the components below it. -/
def coordinates (parts : List Text) : Text × List Text :=
  let parts := located parts
  let registry := (parts.headD []).map Char.toLower
  (registry, placed registry parts.tail)

/-- The check of the port in `host, sep, port = registry.partition(":")`. -/
def checkPort (registry : Text) : Except PyError Unit :=
  match registry.dropWhile (· ≠ ':') with
  | [] => .ok ()
  | _ :: port => require (isPort port) (.valueError "invalid OCI port")

/-- The checks of a registry. -/
def checkRegistry (registry : Text) : Except PyError Unit := do
  checkPort registry
  require (isHost (registry.takeWhile (· ≠ ':'))) (.valueError "invalid OCI registry")

/-- `normalize_oci_reference` -/
def normalizeOciReference (value : Text) : Except PyError (Text × Option Text × Bool) := do
  require (isAscii value) (.valueError "ASCII required")
  require (1 ≤ value.length && value.length ≤ 512 &&
      !value.any (fun c => isSpace c || c.toNat < 32) &&
      !FORBIDDEN.any fun part => decide (part.toList <:+: value))
    (.valueError "invalid OCI reference")
  let (name, suffix) ← splitDigest value
  let (name, isMutable) ← splitTag name
  let parts := name.splitOn '/'
  require (!parts.any List.isEmpty) (.valueError "invalid OCI reference")
  let (registry, repos) := coordinates parts
  checkRegistry registry
  require (repos.all isComponent) (.valueError "invalid OCI repository")
  let result := ['/'].intercalate (registry :: repos)
  require (result.length ≤ 512) (.valueError "invalid OCI reference")
  return (result, suffix, isMutable)

/-- The validator of `OciRepository`. -/
def ociRepository (value : Text) : Except PyError Text := do
  let result ← normalizeOciReference value
  if result = (value, none, false) then return result.1
  else .error (.valueError "repository must be canonical")

end AtlasOS.InstallationPlan
