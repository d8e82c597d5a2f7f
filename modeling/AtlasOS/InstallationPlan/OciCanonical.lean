import AtlasOS.InstallationPlan.OciReference

/-!
# Canonical repositories

A repository is canonical when it has a registry and at least one component below
it. Such a repository normalizes to itself, and the references that have one are
all those that name more than a registry.
-/

namespace AtlasOS.InstallationPlan

/-! ## Characters -/

/-- The characters of a repository. -/
def isPlain (c : Char) : Bool := isIdChar c || c = '.' || c = '_' || c = ':' || c = '/'

theorem toNat_of_isPlain {c : Char} (h : isPlain c = true) :
    45 ≤ c.toNat ∧ c.toNat ≤ 58 ∨ c.toNat = 95 ∨ 97 ≤ c.toNat ∧ c.toNat ≤ 122 := by
  simp only [isPlain, isIdChar, isSlugChar, Bool.or_eq_true, Bool.and_eq_true, decide_eq_true_eq,
    beq_iff_eq] at h
  rcases h with ((((((⟨ha, hz⟩ | ⟨h0, h9⟩) | rfl) | rfl) | rfl) | rfl) | rfl)
  · have ha : 97 ≤ c.toNat := ha
    have hz : c.toNat ≤ 122 := hz
    omega
  · have h0 : 48 ≤ c.toNat := h0
    have h9 : c.toNat ≤ 57 := h9
    omega
  all_goals decide

theorem ne_of_isPlain {c d : Char} (h : isPlain c = true) (hd : isPlain d = false) : c ≠ d := by
  rintro rfl
  rw [h] at hd
  cases hd

theorem toLower_of_isPlain {c : Char} (h : isPlain c = true) : c.toLower = c := by
  have hrange := toNat_of_isPlain h
  unfold Char.toLower
  split
  · next hupper =>
    have hA : 65 ≤ c.toNat := hupper.1
    have hZ : c.toNat ≤ 90 := hupper.2
    omega
  · rfl

theorem isPlain_of_isIdChar {c : Char} (h : isIdChar c = true) : isPlain c = true := by
  simp [isPlain, h]

theorem isIdChar_of_isSlugChar {c : Char} (h : isSlugChar c = true) : isIdChar c = true := by
  simp [isIdChar, h]

theorem isIdChar_of_isDigit {c : Char} (h : c.isDigit = true) : isIdChar c = true := by
  have hdigit : 48 ≤ c.toNat ∧ c.toNat ≤ 57 := by
    simp only [Char.isDigit, Bool.and_eq_true, decide_eq_true_eq] at h
    exact ⟨h.1, h.2⟩
  have hslug : isSlugChar c = true := by
    simp only [isSlugChar, Bool.or_eq_true, Bool.and_eq_true, decide_eq_true_eq]
    exact .inr ⟨hdigit.1, hdigit.2⟩
  exact isIdChar_of_isSlugChar hslug

theorem mem_isHost {host : Text} (h : isHost host = true) {c : Char} (hc : c ∈ host) :
    isIdChar c = true ∨ c = '.' := by
  simp only [isHost, Bool.or_eq_true, decide_eq_true_eq, Bool.and_eq_true, List.all_eq_true] at h
  rcases h with rfl | ⟨-, hlabels⟩
  · have hletters : ("localhost".toList.all isIdChar) = true := rfl
    exact .inl (List.all_eq_true.mp hletters c hc)
  · rcases mem_splitOn hc with heq | ⟨label, hlabel, hmem⟩
    · exact .inr heq
    · have hlabel := hlabels label hlabel
      simp only [isLabel, Bool.and_eq_true, List.all_eq_true] at hlabel
      exact .inl (hlabel.1.1.2 c hmem)

theorem mem_isPort {port : Text} (h : isPort port = true) {c : Char} (hc : c ∈ port) :
    isIdChar c = true := by
  simp only [isPort, Bool.and_eq_true, List.all_eq_true] at h
  exact isIdChar_of_isDigit (h.1.1.2 c hc)

theorem mem_componentRest {rest : Text} (h : componentRest rest = true) {c : Char} (hc : c ∈ rest) :
    isIdChar c = true ∨ c = '.' ∨ c = '_' := by
  induction rest with
  | nil => cases hc
  | cons d rest ih =>
    simp only [componentRest, Bool.and_eq_true, Bool.or_eq_true, isSeparator, decide_eq_true_eq] at h
    rcases List.mem_cons.mp hc with rfl | hc
    · rcases h.1 with hslug | ⟨(rfl | rfl) | rfl, -⟩
      · exact .inl (isIdChar_of_isSlugChar hslug)
      · exact .inr (.inl rfl)
      · exact .inr (.inr rfl)
      · exact .inl (by decide)
    · exact ih h.2 hc

theorem mem_isComponent {component : Text} (h : isComponent component = true) {c : Char}
    (hc : c ∈ component) : isIdChar c = true ∨ c = '.' ∨ c = '_' := by
  rw [isComponent, Bool.and_eq_true] at h
  exact mem_componentRest h.2 hc

theorem isComponent_ne_nil {component : Text} (h : isComponent component = true) :
    component ≠ [] := by
  rintro rfl
  cases h

/-! ## Tags -/

/-- The last place of a character, when there is one. -/
theorem rfind_cases (c : Char) (text : Text) :
    c ∉ text ∧ rfind c text = -1 ∨
      ∃ front back, text = front ++ c :: back ∧ c ∉ back ∧ rfind c text = front.length := by
  induction text with
  | nil => exact .inl ⟨by simp, rfl⟩
  | cons d text ih =>
    rcases ih with ⟨hnot, hfound⟩ | ⟨front, back, rfl, hback, hfound⟩
    · by_cases hd : d = c
      · refine .inr ⟨[], text, by rw [hd]; rfl, hnot, ?_⟩
        simp [rfind, hfound, hd]
      · refine .inl ⟨by simp [Ne.symm hd, hnot], ?_⟩
        simp [rfind, hfound, hd]
    · refine .inr ⟨d :: front, back, rfl, hback, ?_⟩
      simp [rfind, hfound]

theorem le_rfind (c : Char) (front back : Text) : (front.length : ℤ) ≤ rfind c (front ++ c :: back) := by
  induction front with
  | nil =>
    simp only [List.nil_append, rfind, List.length_nil]
    split <;> simp
    omega
  | cons d front ih =>
    have hfound : 0 ≤ rfind c (front ++ c :: back) := le_trans (by simp) ih
    simp only [List.cons_append, rfind, List.length_cons, if_pos hfound]
    omega

theorem rfind_lt {c : Char} {back : Text} (h : c ∉ back) (front : Text) :
    rfind c (front ++ back) < front.length := by
  induction front with
  | nil =>
    rcases rfind_cases c back with ⟨-, hfound⟩ | ⟨front', back', rfl, -, -⟩
    · simp [hfound]
    · simp at h
  | cons d front ih =>
    simp only [List.cons_append, rfind, List.length_cons]
    split
    · omega
    · split <;> omega

/-- The last colon comes after the last slash exactly when no slash follows some colon. -/
theorem rfind_lt_iff (name : Text) :
    rfind '/' name < rfind ':' name ↔ ∃ image tag, name = image ++ ':' :: tag ∧ '/' ∉ tag := by
  constructor
  · intro h
    rcases rfind_cases ':' name with ⟨-, hcolon⟩ | ⟨image, tag, hname, -, hcolon⟩
    · rcases rfind_cases '/' name with ⟨-, hslash⟩ | ⟨front, back, -, -, hslash⟩ <;> omega
    · refine ⟨image, tag, hname, fun hin => ?_⟩
      obtain ⟨front, back, rfl⟩ := List.append_of_mem hin
      have hle := le_rfind '/' (image ++ ':' :: front) back
      rw [show image ++ ':' :: front ++ '/' :: back = name by rw [hname]; simp] at hle
      simp only [List.length_append, List.length_cons] at hle
      omega
  · rintro ⟨image, tag, rfl, htag⟩
    have hslash : '/' ∉ ':' :: tag := by simp [htag]
    have hlt := rfind_lt hslash image
    have hle := le_rfind ':' image tag
    omega

/-! ## What a reference names -/

/-- A reference without its digest. -/
def undigested (value : Text) : Text := value.takeWhile (· ≠ '@')

/-- A name without its tag. -/
def untagged (name : Text) : Text :=
  if rfind '/' name < rfind ':' name then name.take (rfind ':' name).toNat else name

/-- The name of a reference, without its digest and its tag. -/
def nameOf (value : Text) : Text := untagged (undigested value)

/-- Whether a reference names a registry and nothing below it. -/
def bareRegistry (value : Text) : Bool :=
  '/' ∉ nameOf value && namesRegistry (nameOf value)

/-- The registry of a reference and the components below it. -/
def coordinatesOf (value : Text) : Text × List Text := coordinates ((nameOf value).splitOn '/')

theorem splitDigest_eq_ok {value name : Text} {suffix : Option Text}
    (h : splitDigest value = .ok (name, suffix)) :
    name = undigested value ∧ value = name ++ suffix.elim [] ('@' :: ·) := by
  unfold splitDigest at h
  split at h
  · split at h
    · next front back hsplit =>
      simp only [bind_eq_ok, pure_eq_ok, Except.ok.injEq, Prod.mk.injEq] at h
      obtain ⟨checked, hchecked, rfl, rfl⟩ := h
      have hsame : checked = back := by
        simp only [digest, require_bind_eq_ok, pure_eq_ok, Except.ok.injEq] at hchecked
        exact hchecked.2.2.symm
      have hvalue : value = front ++ '@' :: back := by
        rw [← @List.intercalate_splitOn _ value _ _ '@', hsplit]
        simp [List.intercalate_cons_cons]
      have hfront : '@' ∉ front := not_mem_of_mem_splitOn (by rw [hsplit]; simp)
      have htake : front.takeWhile (fun c => decide (c ≠ '@')) = front :=
        List.takeWhile_eq_self_iff.mpr fun c hc => by
          rw [decide_eq_true_eq]
          rintro rfl
          exact hfront hc
      refine ⟨?_, by rw [hsame]; exact hvalue⟩
      rw [undigested, hvalue, List.takeWhile_append, htake]
      simp
    · cases h
  · next hnot =>
    cases h
    refine ⟨(List.takeWhile_eq_self_iff.mpr fun c hc => ?_).symm, by simp⟩
    rw [decide_eq_true_eq]
    rintro rfl
    exact hnot hc

theorem splitTag_eq_ok {name image : Text} {isMutable : Bool}
    (h : splitTag name = .ok (image, isMutable)) :
    image = untagged name ∧ (isMutable = true ↔ rfind '/' name < rfind ':' name) := by
  simp only [splitTag, gt_iff_lt] at h
  unfold untagged
  split at h
  · next htagged =>
    simp only [require_bind_eq_ok, pure_eq_ok, Except.ok.injEq, Prod.mk.injEq] at h
    obtain ⟨-, rfl, rfl⟩ := h
    simp [htagged]
  · next huntagged =>
    cases h
    simp [huntagged]

/-- What an accepted reference has passed. -/
structure Accepted (value repository : Text) (suffix : Option Text) (isMutable : Bool) : Prop where
  digest : value = undigested value ++ suffix.elim [] ('@' :: ·)
  tag : isMutable = true ↔ rfind '/' (undigested value) < rfind ':' (undigested value)
  parts : [] ∉ (nameOf value).splitOn '/'
  registry : checkRegistry (coordinatesOf value).1 = .ok ()
  components : ∀ component ∈ (coordinatesOf value).2, isComponent component = true
  text : repository = ['/'].intercalate ((coordinatesOf value).1 :: (coordinatesOf value).2)
  bounded : repository.length ≤ 512

theorem accepted_of_ok {value repository : Text} {suffix : Option Text} {isMutable : Bool}
    (h : normalizeOciReference value = .ok (repository, suffix, isMutable)) :
    Accepted value repository suffix isMutable := by
  simp only [normalizeOciReference, bind_eq_ok, exists_unit, require_eq_ok, Prod.exists, pure_eq_ok,
    Except.ok.injEq, Prod.mk.injEq] at h
  obtain ⟨-, -, name, suffix', hdigest, image, isMutable', htag, hparts, hregistry, hcomponents,
    hbounded, rfl, rfl, rfl⟩ := h
  obtain ⟨hname, hvalue⟩ := splitDigest_eq_ok hdigest
  obtain ⟨himage, hmutable⟩ := splitTag_eq_ok htag
  have hnameOf : image = nameOf value := by rw [himage, hname, nameOf]
  subst hnameOf
  refine ⟨hname ▸ hvalue, hname ▸ hmutable, fun hin => ?_, hregistry, ?_, rfl, ?_⟩
  · simp only [Bool.not_eq_true', List.any_eq_false] at hparts
    exact hparts [] hin rfl
  · exact List.all_eq_true.mp hcomponents
  · exact of_decide_eq_true hbounded

/-- What fails raises a `ValueError`. -/
def RaisesValueError {α : Type} (m : Except PyError α) : Prop :=
  ∀ e, m = .error e → ∃ message, e = .valueError message

namespace RaisesValueError

variable {α β : Type}

theorem ok (a : α) : RaisesValueError (.ok a) := fun _ h => by cases h

theorem valueError (message : String) : RaisesValueError (.error (.valueError message) : Except _ α) :=
  fun _ h => ⟨message, (Except.error.inj h).symm⟩

theorem require (condition : Bool) (message : String) :
    RaisesValueError (require condition (.valueError message)) := by
  cases condition
  · exact valueError message
  · exact ok ()

theorem bind {m : Except PyError α} {f : α → Except PyError β} (hm : RaisesValueError m)
    (hf : ∀ a, RaisesValueError (f a)) : RaisesValueError (m >>= f) := by
  cases m with
  | error e =>
    obtain ⟨message, rfl⟩ := hm e rfl
    exact valueError message
  | ok a => exact hf a

end RaisesValueError

theorem raisesValueError_normalizeOciReference (value : Text) :
    RaisesValueError (normalizeOciReference value) := by
  refine .bind (.require _ _) fun _ => .bind (.require _ _) fun _ => .bind ?_ fun ⟨name, suffix⟩ =>
    .bind ?_ fun ⟨image, isMutable⟩ => .bind (.require _ _) fun _ => .bind ?_ fun _ =>
    .bind (.require _ _) fun _ => .bind (.require _ _) fun _ => .ok _
  · unfold splitDigest
    split
    · split
      · exact .bind (.bind (.require _ _) fun _ => .bind (.require _ _) fun _ => .ok _) fun _ => .ok _
      · exact .valueError _
    · exact .ok _
  · unfold splitTag
    simp only
    split
    · exact .bind (.require _ _) fun _ => .ok _
    · exact .ok _
  · refine .bind ?_ fun _ => .require _ _
    generalize (coordinates _).1 = registry
    unfold checkPort
    split
    · exact .ok _
    · exact .require _ _

/-! ## Canonical repositories -/

/-- A host with its port. -/
def registryText (host : Text) (port : Option Text) : Text := host ++ port.elim [] (':' :: ·)

theorem checkRegistry_eq_ok {registry : Text} :
    checkRegistry registry = .ok () ↔ ∃ host port, registry = registryText host port ∧
      isHost host = true ∧ ∀ digits ∈ port, isPort digits = true := by
  simp only [checkRegistry, bind_eq_ok, exists_unit, require_eq_ok]
  constructor
  · rintro ⟨hport, hhost⟩
    have hsplit := List.takeWhile_append_dropWhile (p := fun c => decide (c ≠ ':')) (l := registry)
    unfold checkPort at hport
    split at hport
    · next hnil =>
      rw [hnil] at hsplit
      exact ⟨_, none, hsplit.symm, hhost, by simp⟩
    · next colon port hcons =>
      have hcolon : colon = ':' := by
        have := List.head?_dropWhile_not (fun c => decide (c ≠ ':')) registry
        rw [hcons] at this
        simpa using this
      rw [hcons, hcolon] at hsplit
      exact ⟨_, some port, hsplit.symm, hhost, by simpa using hport⟩
  · rintro ⟨host, port, rfl, hhost, hport⟩
    have hplain (c : Char) (hc : c ∈ host) : decide (c ≠ ':') = true := by
      rw [decide_eq_true_eq]
      rintro rfl
      rcases mem_isHost hhost hc with h | h <;> revert h <;> decide
    rw [checkPort, registryText, List.dropWhile_append_of_pos hplain,
      List.takeWhile_append_of_pos hplain]
    cases port with
    | none => exact ⟨rfl, by simpa using hhost⟩
    | some digits =>
      have hdigits := hport digits rfl
      exact ⟨by simpa using hdigits, by simpa using hhost⟩

theorem plain_registryText {host : Text} {port : Option Text} (hhost : isHost host = true)
    (hport : ∀ digits ∈ port, isPort digits = true) {c : Char} (h : c ∈ registryText host port) :
    isPlain c = true ∧ c ≠ '/' := by
  have hid {c : Char} (h : isIdChar c = true) : isPlain c = true ∧ c ≠ '/' :=
    ⟨isPlain_of_isIdChar h, by rintro rfl; revert h; decide⟩
  rcases List.mem_append.mp h with hmem | hmem
  · rcases mem_isHost hhost hmem with h | rfl
    · exact hid h
    · decide
  · cases port with
    | none => cases hmem
    | some digits =>
      rcases List.mem_cons.mp hmem with rfl | hmem
      · decide
      · exact hid (mem_isPort (hport digits rfl) hmem)

theorem plain_component {component : Text} (h : isComponent component = true) {c : Char}
    (hc : c ∈ component) : isPlain c = true ∧ c ≠ '/' ∧ c ≠ ':' := by
  rcases mem_isComponent h hc with h | rfl | rfl
  · exact ⟨isPlain_of_isIdChar h, by rintro rfl; revert h; decide, by rintro rfl; revert h; decide⟩
  · decide
  · decide

/-- A repository in canonical form. -/
structure Repository where
  host : Text
  port : Option Text
  path : List Text
  host_valid : isHost host = true
  port_valid : ∀ digits ∈ port, isPort digits = true
  /-- The registry is not taken for a component. -/
  named : namesRegistry (registryText host port) = true
  path_valid : ∀ component ∈ path, isComponent component = true
  /-- There is a component. -/
  nonempty : path ≠ []
  /-- Images of Docker have two components. -/
  official : registryText host port = DOCKER → path.length ≠ 1
  bounded : (['/'].intercalate (registryText host port :: path)).length ≤ 512

namespace Repository

variable (r : Repository)

/-- The registry of a repository. -/
def registry : Text := registryText r.host r.port

/-- The text of a repository. -/
def text : Text := ['/'].intercalate (r.registry :: r.path)

theorem plain_registry {c : Char} (h : c ∈ r.registry) : isPlain c = true ∧ c ≠ '/' :=
  plain_registryText r.host_valid r.port_valid h

theorem plain_path {component : Text} (h : component ∈ r.path) {c : Char} (hc : c ∈ component) :
    isPlain c = true ∧ c ≠ '/' ∧ c ≠ ':' :=
  plain_component (r.path_valid component h) hc

theorem slash_not_mem {part : Text} (h : part ∈ r.registry :: r.path) : '/' ∉ part := by
  intro hslash
  rcases List.mem_cons.mp h with rfl | h
  · exact (r.plain_registry hslash).2 rfl
  · exact (r.plain_path h hslash).2.1 rfl

theorem splitOn_text : r.text.splitOn '/' = r.registry :: r.path :=
  List.splitOn_intercalate '/' (fun _ h => r.slash_not_mem h) (by simp)

theorem plain_text {c : Char} (h : c ∈ r.text) : isPlain c = true := by
  rcases mem_intercalate h with rfl | ⟨part, hpart, hc⟩
  · decide
  · rcases List.mem_cons.mp hpart with rfl | hpart
    · exact (r.plain_registry hc).1
    · exact (r.plain_path hpart hc).1

theorem not_mem_text {c : Char} (h : isPlain c = false) : c ∉ r.text := fun hc =>
  ne_of_isPlain (r.plain_text hc) h rfl

theorem registry_ne_nil : r.registry ≠ [] := by
  intro hnil
  have hnamed := r.named
  rw [show registryText r.host r.port = [] from hnil] at hnamed
  cases hnamed

theorem nil_not_mem : [] ∉ r.registry :: r.path := by
  intro h
  rcases List.mem_cons.mp h with h | h
  · exact r.registry_ne_nil h.symm
  · exact isComponent_ne_nil (r.path_valid _ h) rfl

/-- A text with two slashes in a row has an empty piece. -/
theorem slashes_not_mem : ¬"//".toList <:+: r.text := by
  rintro ⟨front, back, htext⟩
  have hsplit := r.splitOn_text
  rw [← htext, show front ++ "//".toList ++ back = front ++ '/' :: '/' :: back by simp,
    List.splitOn_append_cons_self, splitOn_slash_cons] at hsplit
  apply r.nil_not_mem
  rw [← hsplit]
  simp

/-- There is no tag behind the last slash. -/
theorem untagged_text : ¬rfind '/' r.text < rfind ':' r.text := by
  rw [rfind_lt_iff]
  rintro ⟨image, tag, htext, htag⟩
  obtain ⟨first, rest, hpath⟩ := List.exists_cons_of_ne_nil r.nonempty
  have hcut : r.text = r.registry ++ '/' :: ['/'].intercalate r.path := by
    rw [text, hpath, List.intercalate_cons_cons]
    simp
  rw [hcut] at htext
  rcases List.append_eq_append_iff.mp htext with ⟨middle, -, hmiddle⟩ | ⟨middle, -, hmiddle⟩
  · -- the colon is in the path
    have hcolon : ':' ∈ ['/'].intercalate r.path := by
      have hmem : ':' ∈ '/' :: ['/'].intercalate r.path := by rw [hmiddle]; simp
      simpa using hmem
    rcases mem_intercalate hcolon with h | ⟨component, hcomponent, h⟩
    · cases h
    · exact (r.plain_path hcomponent h).2.2 rfl
  · -- the slash is in the tag
    have hslash : '/' ∈ ':' :: tag := by rw [hmiddle]; simp
    exact htag (by simpa using hslash)

theorem toLower_registry : r.registry.map Char.toLower = r.registry := by
  conv_rhs => rw [← List.map_id r.registry]
  exact List.map_congr_left fun c hc => toLower_of_isPlain (r.plain_registry hc).1

theorem coordinates_text : coordinates (r.registry :: r.path) = (r.registry, r.path) := by
  have hlocated : located (r.registry :: r.path) = r.registry :: r.path := by
    have hnamed : namesRegistry r.registry = true := r.named
    rw [located, if_pos (by simpa using hnamed)]
  have hplaced : placed r.registry r.path = r.path := by
    rw [placed, if_neg]
    simp only [Bool.and_eq_true, decide_eq_true_eq, not_and]
    exact r.official
  rw [coordinates, hlocated]
  simp only [List.headD_cons, List.tail_cons, toLower_registry, hplaced]

/-- A canonical repository normalizes to itself. -/
theorem normalize_text : normalizeOciReference r.text = .ok (r.text, none, false) := by
  have hplain {c : Char} (h : c ∈ r.text) := toNat_of_isPlain (r.plain_text h)
  have hascii : isAscii r.text = true :=
    List.all_eq_true.mpr fun c hc => decide_eq_true (by have := hplain hc; omega)
  have hlength : 1 ≤ r.text.length := by
    rw [Nat.one_le_iff_ne_zero, ne_eq, List.length_eq_zero_iff]
    intro hnil
    have hsplit := r.splitOn_text
    rw [hnil, List.splitOn_nil] at hsplit
    exact r.nil_not_mem (hsplit ▸ List.mem_singleton_self _)
  have hbounded : r.text.length ≤ 512 := r.bounded
  have hspaces : r.text.any (fun c => isSpace c || c.toNat < 32) = false := by
    rw [List.any_eq_false]
    intro c hc
    have := hplain hc
    simp only [isSpace, Bool.or_eq_true, Bool.and_eq_true, decide_eq_true_eq, beq_iff_eq]
    omega
  have hforbidden : FORBIDDEN.any (fun part => decide (part.toList <:+: r.text)) = false := by
    have hsingle {part : String} {c : Char} (hc : c ∈ part.toList) (hnot : isPlain c = false) :
        ¬part.toList <:+: r.text := fun h => r.not_mem_text hnot (h.subset hc)
    rw [List.any_eq_false]
    intro part hpart
    rw [decide_eq_true_eq]
    simp only [FORBIDDEN, List.mem_cons, List.not_mem_nil, or_false] at hpart
    rcases hpart with rfl | rfl | rfl | rfl | rfl
    · exact fun h => r.slashes_not_mem (List.IsInfix.trans ⟨[':'], [], by decide⟩ h)
    · exact hsingle (c := '@') (by decide) (by decide)
    · exact hsingle (c := '?') (by decide) (by decide)
    · exact hsingle (c := '#') (by decide) (by decide)
    · exact hsingle (c := '%') (by decide) (by decide)
  have hdigest : splitDigest r.text = .ok (r.text, none) := by
    rw [splitDigest, if_neg (r.not_mem_text (by decide))]
  have htag : splitTag r.text = .ok (r.text, false) := by
    rw [splitTag]
    exact if_neg r.untagged_text
  have hregistry : checkRegistry r.registry = .ok () :=
    checkRegistry_eq_ok.mpr ⟨r.host, r.port, rfl, r.host_valid, r.port_valid⟩
  have hempty : (r.registry :: r.path).any List.isEmpty = false := by
    rw [List.any_eq_false]
    intro part hpart hnil
    exact r.nil_not_mem (List.isEmpty_iff.mp hnil ▸ hpart)
  have hcomponents : r.path.all isComponent = true := List.all_eq_true.mpr r.path_valid
  have htext : ['/'].intercalate (r.registry :: r.path) = r.text := rfl
  simp only [normalizeOciReference, hascii, hlength, hbounded, hspaces, hforbidden, hdigest, htag,
    r.splitOn_text, hempty, r.coordinates_text, hregistry, hcomponents, htext, decide_true,
    Bool.not_false, Bool.and_self, require_true, ok_bind, pure_eq_ok]

end Repository

/-! ## Coordinates -/

theorem namesRegistry_toLower {first : Text} (h : namesRegistry first = true) :
    namesRegistry (first.map Char.toLower) = true := by
  simp only [namesRegistry, Bool.or_eq_true, decide_eq_true_eq] at *
  rcases h with (h | h) | rfl
  · exact .inl (.inl (List.mem_map.mpr ⟨'.', h, by decide⟩))
  · exact .inl (.inr (List.mem_map.mpr ⟨':', h, by decide⟩))
  · exact .inr (by decide)

/-- The registry of a name is named by its first component, or it is the one of Docker. -/
theorem namesRegistry_coordinates {parts : List Text} (h : parts ≠ []) :
    namesRegistry (coordinates parts).1 = true := by
  obtain ⟨first, rest, rfl⟩ := List.exists_cons_of_ne_nil h
  apply namesRegistry_toLower
  unfold located
  split
  · next hfirst => simpa using hfirst
  · exact (by decide : namesRegistry DOCKER = true)

/-- Below the registry of Docker there is not just one component. -/
theorem length_coordinates (parts : List Text) (h : (coordinates parts).1 = DOCKER) :
    (coordinates parts).2.length ≠ 1 := by
  have hpath : (coordinates parts).2 = placed DOCKER (located parts).tail := by
    rw [← h]
    rfl
  rw [hpath, placed]
  split
  · next hlibrary =>
    simp only [decide_true, Bool.true_and, decide_eq_true_eq] at hlibrary
    simp [hlibrary]
  · next hnot => simpa using hnot

/-- A component is placed below every registry but a bare one. -/
theorem placed_eq_nil_iff {registry : Text} {repos : List Text} :
    placed registry repos = [] ↔ repos = [] := by
  unfold placed
  split
  · next hlibrary =>
    simp only [Bool.and_eq_true, decide_eq_true_eq] at hlibrary
    refine iff_of_false (by simp) fun hnil => ?_
    rw [hnil] at hlibrary
    cases hlibrary.2
  · exact Iff.rfl

/-- A reference that names a registry only has nothing below it. -/
theorem path_eq_nil_iff (value : Text) :
    (coordinatesOf value).2 = [] ↔ bareRegistry value = true := by
  have hne := List.splitOn_ne_nil '/' (nameOf value)
  have hjoin := @List.intercalate_splitOn _ (nameOf value) _ _ '/'
  have hslash {part : Text} (hpart : part ∈ (nameOf value).splitOn '/') : '/' ∉ part :=
    not_mem_of_mem_splitOn hpart
  simp only [bareRegistry, Bool.and_eq_true, decide_eq_true_eq]
  constructor
  · intro hnil
    obtain ⟨first, rest, hparts⟩ := List.exists_cons_of_ne_nil hne
    have hnil : (located (first :: rest)).tail = [] := by
      rw [coordinatesOf, hparts] at hnil
      exact placed_eq_nil_iff.mp hnil
    obtain ⟨hfirst, rfl⟩ : namesRegistry first = true ∧ rest = [] := by
      unfold located at hnil
      split at hnil
      · next hfirst => exact ⟨by simpa using hfirst, hnil⟩
      · cases hnil
    have hname : nameOf value = first := by
      rw [← hjoin, hparts]
      simp
    rw [hname]
    exact ⟨hslash (by rw [hparts]; simp), hfirst⟩
  · rintro ⟨hnoslash, hnames⟩
    rw [coordinatesOf, List.splitOn_eq_singleton hnoslash]
    refine placed_eq_nil_iff.mpr ?_
    rw [located, if_pos (by simpa using hnames)]
    rfl

namespace Accepted

variable {value repository : Text} {suffix : Option Text} {isMutable : Bool}

/-- The pieces of an accepted repository are its coordinates. -/
theorem splitOn_repository (h : Accepted value repository suffix isMutable) :
    repository.splitOn '/' = (coordinatesOf value).1 :: (coordinatesOf value).2 := by
  rw [h.text]
  refine List.splitOn_intercalate '/' (fun part hpart hslash => ?_) (by simp)
  rcases List.mem_cons.mp hpart with rfl | hpart
  · obtain ⟨host, port, hregistry, hhost, hport⟩ := checkRegistry_eq_ok.mp h.registry
    rw [hregistry] at hslash
    exact (plain_registryText hhost hport hslash).2 rfl
  · exact (plain_component (h.components part hpart) hslash).2.1 rfl

/-- An accepted reference with more than a registry has a canonical repository. -/
theorem exists_repository (h : Accepted value repository suffix isMutable)
    (hbare : bareRegistry value = false) : ∃ r : Repository, repository = r.text := by
  obtain ⟨host, port, hregistry, hhost, hport⟩ := checkRegistry_eq_ok.mp h.registry
  refine ⟨⟨host, port, (coordinatesOf value).2, hhost, hport, ?_, h.components, ?_, ?_, ?_⟩, ?_⟩
  · rw [← hregistry]
    exact namesRegistry_coordinates (List.splitOn_ne_nil _ _)
  · intro hnil
    rw [path_eq_nil_iff, hbare] at hnil
    cases hnil
  · rw [← hregistry]
    exact length_coordinates _
  · rw [← hregistry, ← h.text]
    exact h.bounded
  · exact h.text.trans (congrArg (fun registry => ['/'].intercalate (registry :: _)) hregistry)

/-- A canonical repository has a component below its registry. -/
theorem not_bareRegistry (h : Accepted value repository suffix isMutable) (r : Repository)
    (hr : repository = r.text) : bareRegistry value = false := by
  rw [Bool.eq_false_iff, ne_eq, ← path_eq_nil_iff]
  intro hnil
  have hsplit := h.splitOn_repository
  rw [hr, r.splitOn_text, hnil, List.cons.injEq] at hsplit
  exact r.nonempty hsplit.2

end Accepted

/-! ## Spellings -/

theorem undigested_append {front : Text} (h : '@' ∉ front) (value : Text) :
    undigested (front ++ value) = front ++ undigested value := by
  refine List.takeWhile_append_of_pos fun c hc => ?_
  rw [decide_eq_true_eq]
  rintro rfl
  exact h hc

/-- A tag is found behind a path as it is without one. -/
theorem untagged_append {front name : Text} (hcolon : ':' ∉ front) (hslash : '/' ∉ name) :
    untagged (front ++ '/' :: name) = front ++ '/' :: untagged name := by
  have hnone : rfind '/' name = -1 := by
    rcases rfind_cases '/' name with ⟨-, h⟩ | ⟨a, b, rfl, -, -⟩
    · exact h
    · simp at hslash
  unfold untagged
  rcases rfind_cases ':' name with ⟨hnot, hfound⟩ | ⟨image, tag, hname, htag, hfound⟩
  · rw [if_neg, if_neg (by omega)]
    rw [rfind_lt_iff]
    rintro ⟨image, tag, heq, -⟩
    have hmem : ':' ∈ front ++ '/' :: name := by rw [heq]; simp
    simp [hcolon, hnot] at hmem
  · have htagslash : '/' ∉ tag := fun hin => hslash (by rw [hname]; simp [hin])
    have hwhole : front ++ '/' :: name = (front ++ '/' :: image) ++ ':' :: tag := by rw [hname]; simp
    have hlast : rfind ':' (front ++ '/' :: name) = (front ++ '/' :: image).length := by
      have hle := le_rfind ':' (front ++ '/' :: image) tag
      have hlt := rfind_lt (c := ':') htag ((front ++ '/' :: image) ++ [':'])
      rw [← hwhole] at hle
      rw [show (front ++ '/' :: image) ++ [':'] ++ tag = front ++ '/' :: name by rw [hwhole]; simp] at hlt
      simp only [List.length_append, List.length_cons, List.length_nil] at *
      omega
    rw [if_pos ((rfind_lt_iff _).mpr ⟨_, tag, hwhole, htagslash⟩), if_pos (by omega), hlast, hfound]
    rw [Int.toNat_natCast, Int.toNat_natCast, hwhole, List.take_left, hname, List.take_left]

theorem coordinates_docker (rest : List Text) :
    coordinates (DOCKER :: rest) = (DOCKER, placed DOCKER rest) := by
  have hlocated : located (DOCKER :: rest) = DOCKER :: rest :=
    if_pos (by decide : namesRegistry DOCKER = true)
  have hlower : DOCKER.map Char.toLower = DOCKER := by decide
  rw [coordinates, hlocated]
  simp only [List.headD_cons, List.tail_cons, hlower]

theorem placed_docker (component : Text) : placed DOCKER [component] = [LIBRARY, component] :=
  if_pos (by simp)

/-- The short spelling of an image names what the two long ones do. -/
theorem coordinatesOf_spellings {short : Text} (hslash : '/' ∉ short)
    (hnames : bareRegistry short = false) :
    coordinatesOf (DOCKER ++ '/' :: short) = coordinatesOf short ∧
      coordinatesOf (DOCKER ++ '/' :: (LIBRARY ++ '/' :: short)) = coordinatesOf short := by
  have hname : '/' ∉ undigested short := fun hin =>
    hslash ((List.takeWhile_sublist _).subset hin)
  have hshort : '/' ∉ nameOf short := by
    intro hin
    unfold nameOf untagged at hin
    split at hin
    · exact hname ((List.take_sublist _ _).subset hin)
    · exact hname hin
  have hregistry : namesRegistry (nameOf short) = false := by simpa [bareRegistry, hshort] using hnames
  have hsplit : (nameOf short).splitOn '/' = [nameOf short] := List.splitOn_eq_singleton hshort
  have hdocker : DOCKER.splitOn '/' = [DOCKER] := by decide
  have hlibrary : LIBRARY.splitOn '/' = [LIBRARY] := by decide
  have hfirst : coordinatesOf short = (DOCKER, [LIBRARY, nameOf short]) := by
    have hlocated : located [nameOf short] = located [DOCKER, nameOf short] := by
      rw [located, if_neg (by simp [hregistry])]
      exact (if_pos (by decide : namesRegistry DOCKER = true)).symm
    rw [coordinatesOf, hsplit, coordinates, hlocated]
    exact (coordinates_docker _).trans (by rw [placed_docker])
  constructor
  · have hnameOf : nameOf (DOCKER ++ '/' :: short) = DOCKER ++ '/' :: nameOf short := by
      have hfront : '@' ∉ DOCKER ++ ['/'] := by decide
      have hundigested := undigested_append hfront short
      rw [List.append_assoc, List.append_assoc, List.singleton_append, List.singleton_append] at hundigested
      rw [nameOf, hundigested, untagged_append (by decide) hname, nameOf]
    rw [hfirst, coordinatesOf, hnameOf, List.splitOn_append_cons_self, hsplit, hdocker,
      List.singleton_append, coordinates_docker, placed_docker]
  · have hnameOf : nameOf (DOCKER ++ '/' :: (LIBRARY ++ '/' :: short)) =
        DOCKER ++ '/' :: (LIBRARY ++ '/' :: nameOf short) := by
      have hfront : '@' ∉ DOCKER ++ '/' :: (LIBRARY ++ ['/']) := by decide
      have hundigested := undigested_append hfront short
      have hcolon : ':' ∉ DOCKER ++ '/' :: LIBRARY := by decide
      have huntagged := untagged_append hcolon hname
      have hassoc (rest : Text) : DOCKER ++ '/' :: (LIBRARY ++ ['/']) ++ rest =
          DOCKER ++ '/' :: (LIBRARY ++ '/' :: rest) := by simp
      have hassoc' (rest : Text) : DOCKER ++ '/' :: LIBRARY ++ '/' :: rest =
          DOCKER ++ '/' :: (LIBRARY ++ '/' :: rest) := by simp
      rw [hassoc, hassoc] at hundigested
      rw [hassoc', hassoc'] at huntagged
      rw [nameOf, hundigested, huntagged, nameOf]
    have hplaced : placed DOCKER [LIBRARY, nameOf short] = [LIBRARY, nameOf short] := if_neg (by simp)
    rw [hfirst, coordinatesOf, hnameOf, List.splitOn_append_cons_self, List.splitOn_append_cons_self,
      hsplit, hdocker, hlibrary, List.singleton_append, List.singleton_append, coordinates_docker, hplaced]

/-! ## The function as a whole -/

/-- The repository is canonical, and it is the one that it normalizes to. -/
def IsCanonical (repository : Text) : Prop :=
  (∃ r : Repository, repository = r.text) ∧
    normalizeOciReference repository = .ok (repository, none, false)

theorem isCanonical_iff {value repository : Text} {suffix : Option Text} {isMutable : Bool}
    (h : normalizeOciReference value = .ok (repository, suffix, isMutable)) :
    IsCanonical repository ↔ bareRegistry value = false := by
  have haccepted := accepted_of_ok h
  constructor
  · rintro ⟨⟨r, hr⟩, -⟩
    exact haccepted.not_bareRegistry r hr
  · intro hbare
    obtain ⟨r, rfl⟩ := haccepted.exists_repository hbare
    exact ⟨⟨r, rfl⟩, r.normalize_text⟩

theorem ociRepository_eq_ok {value : Text} :
    ociRepository value = .ok value ↔ normalizeOciReference value = .ok (value, none, false) := by
  rw [ociRepository]
  constructor
  · intro h
    simp only [bind_eq_ok] at h
    obtain ⟨result, hresult, h⟩ := h
    split at h
    · next heq => rw [hresult, heq]
    · cases h
  · intro h
    rw [h, ok_bind, if_pos rfl, pure_eq_ok]

end AtlasOS.InstallationPlan
