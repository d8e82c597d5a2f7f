import AtlasOS.Backup.Verification
import AtlasOS.Lib.Calendar
import AtlasOS.Lib.Newest
import AtlasOS.Lib.Runtime
import Mathlib.Data.Prod.Lex
import Mathlib.Data.String.Basic

/-!
# Backup retention

`prune_backups` removes the backups of a directory that are older than a cutoff,
except for a number of the newest ones. Each backup is verified before it is
removed, and the first one that is not accepted ends the run.
-/

namespace AtlasOS.Backup

open Restore

variable {Bytes : Type}

/-! ## Names -/

/-- The decimal digits that `\d` matches, with the values that `int` gives them. -/
structure Digits where
  value : Char → Option ℕ
  value_ascii : ∀ c, c.isDigit = true → value c = some (c.toNat - 48)

/-- The digits of ASCII only. -/
def Digits.ascii : Digits where
  value c := if c.isDigit then some (c.toNat - 48) else none
  value_ascii _ h := if_pos h

/-- An entry of the directory that holds the backups. -/
inductive RootEntry (Bytes : Type) where
  | directory (backup : Disk Bytes)
  /-- A link to a directory. -/
  | linked (backup : Disk Bytes)
  /-- What is not a directory. -/
  | other

/-- The directory that holds the backups, in the order in which it is listed. -/
structure BackupRoot (Bytes : Type) where
  entries : List (String × RootEntry Bytes)
  distinct : (entries.map Prod.fst).Nodup

section Names

variable (digits : Digits)

/-- Whether the characters are `\d{8}T\d{6}Z`. -/
def isTimestamp (chars : List Char) : Bool :=
  decide (chars.length = 16) && (List.range 16).all fun i =>
    let c := chars.getD i ' '
    if i = 8 then c = 'T' else if i = 15 then c = 'Z' else (digits.value c).isSome

/-- The timestamp in a name that `BACKUP_NAME_PATTERN` matches. -/
def matchName (name : String) : Option (List Char) :=
  let chars := name.toList
  if chars.take 11 = "atlas-data-".toList ∧ isTimestamp digits (chars.drop 11) = true then
    some (chars.drop 11)
  else none

/-- A digit that is written in a regular expression of `strptime` itself. -/
def asciiDigit (c : Char) : Option ℕ := if c.isDigit then some (c.toNat - 48) else none

/-- Two characters that `strptime` reads as a number: after some digits any digit may follow,
after others some. -/
def readField (anyAfter : List ℕ) (someAfter : List (ℕ × List ℕ)) (a b : Char) : Option ℕ :=
  (asciiDigit a).bind fun tens =>
    if tens ∈ anyAfter then (digits.value b).map (10 * tens + ·)
    else (asciiDigit b).bind fun units =>
      if (someAfter.lookup tens).any (units ∈ ·) then some (10 * tens + units) else none

/-- `datetime.strptime(timestamp, "%Y%m%dT%H%M%SZ")` on a timestamp that matched. -/
def strptime : List Char → Option CivilSecond
  | [y₁, y₂, y₃, y₄, m₁, m₂, d₁, d₂, _, h₁, h₂, n₁, n₂, s₁, s₂, _] => do
      let thousands ← digits.value y₁
      let hundreds ← digits.value y₂
      let tens ← digits.value y₃
      let units ← digits.value y₄
      let month ← readField digits [] [(1, [0, 1, 2]), (0, [1, 2, 3, 4, 5, 6, 7, 8, 9])] m₁ m₂
      let day ← readField digits [1, 2] [(3, [0, 1]), (0, [1, 2, 3, 4, 5, 6, 7, 8, 9])] d₁ d₂
      let hour ← readField digits [0, 1] [(2, [0, 1, 2, 3])] h₁ h₂
      let minute ← readField digits [0, 1, 2, 3, 4, 5] [] n₁ n₂
      let second ← readField digits [0, 1, 2, 3, 4, 5] [(6, [0, 1])] s₁ s₂
      CivilSecond.ofNumbers (1000 * thousands + 100 * hundreds + 10 * tens + units) month day hour
        minute second
  | _ => none

/-- The name and the timestamp of an entry that is taken for a backup. -/
def backupName (entry : String × RootEntry Bytes) : Option (String × List Char) :=
  match entry.2 with
  | .other => none
  | _ => (matchName digits entry.1).map (entry.1, ·)

/-- A pair of `backups`: the timestamp in microseconds since the start of the calendar, and the
path, which is given by its name. -/
abbrev Stamp := ℕ ×ₗ String

/-- The timestamp of a pair. -/
def Stamp.micros (stamp : Stamp) : ℕ := (ofLex stamp).1

/-- The name of a pair. -/
def Stamp.name (stamp : Stamp) : String := (ofLex stamp).2

/-- The pair of a name and the characters of its timestamp. -/
def stampOf (named : String × List Char) : Option Stamp :=
  (strptime digits named.2).map fun t => toLex ((t.instant - 86400) * 1000000, named.1)

end Names

/-! ## Pruning -/

/-- A day in microseconds. -/
def DAY_MICROS : ℕ := 86400000000

/-- `datetime.now(timezone.utc) - timedelta(days=retention_days)` -/
def cutoffOf (now : Fin MAX_MICROS) (retention_days : ℕ) : Except Error ℕ := do
  Restore.demand (retention_days ≤ 999999999) (.builtin .overflowError)
  Restore.demand (retention_days * DAY_MICROS ≤ now.val) (.builtin .overflowError)
  return now.val - retention_days * DAY_MICROS

/-- What `shutil.rmtree` does. -/
inductive Removal (Bytes : Type) where
  | removed
  /-- It raises, and leaves some of the directory. -/
  | failed (error : Error) (left : RootEntry Bytes)

section Prune

variable (tools : Tools Bytes) (digits : Digits) (rmtree : String → Removal Bytes)

/-- `verify_backup(path)` on an entry of the directory. -/
def verifyListed : Option (RootEntry Bytes) → Except Error Unit
  | some (.directory backup) => do
      let _ ← verifyBackup tools backup false none
  | some (.linked backup) => do
      let _ ← verifyBackup tools backup true none
  | _ => .error osError

/-- The directory without an entry. -/
def erased (entries : List (String × RootEntry Bytes)) (name : String) :
    List (String × RootEntry Bytes) :=
  entries.filter fun entry => entry.1 ≠ name

/-- The directory with what is left of an entry. -/
def replaced (entries : List (String × RootEntry Bytes)) (name : String) (left : RootEntry Bytes) :
    List (String × RootEntry Bytes) :=
  entries.map fun entry => if entry.1 = name then (name, left) else entry

/-- The loop over the candidates. -/
def pruneLoop (dry_run : Bool) : List String → List (String × RootEntry Bytes) →
    Except Error Unit × List (String × RootEntry Bytes)
  | [], entries => (.ok (), entries)
  | name :: names, entries =>
      match verifyListed tools (entries.lookup name) with
      | .error error => (.error error, entries)
      | .ok () =>
          if dry_run then pruneLoop dry_run names entries
          else
            match rmtree name with
            | .removed => pruneLoop dry_run names (erased entries name)
            | .failed error left => (.error error, replaced entries name left)

/-- The expired backups of a directory. -/
def candidatesOf (now : Fin MAX_MICROS) (root : BackupRoot Bytes) (retention_days minimum_count : ℤ) :
    Except Error (List String) := do
  Restore.demand (1 ≤ retention_days) (.builtin (.valueError "retention days must be at least 1"))
  Restore.demand (1 ≤ minimum_count) (.builtin (.valueError "minimum count must be at least 1"))
  let backups ← (root.entries.filterMap (backupName digits)).mapM fun named =>
    obtainOr (stampOf digits named) (.builtin (.valueError "time data does not match format"))
  let cutoff ← cutoffOf now retention_days.toNat
  return (((descending backups).drop minimum_count.toNat).filter fun stamp =>
    stamp.micros < cutoff).map Stamp.name

/-- `prune_backups` of a directory that exists. -/
def pruneBackups (now : Fin MAX_MICROS) (root : BackupRoot Bytes) (retention_days minimum_count : ℤ)
    (dry_run : Bool) : Except Error Unit × List (String × RootEntry Bytes) :=
  match candidatesOf digits now root retention_days minimum_count with
  | .error error => (.error error, root.entries)
  | .ok candidates => pruneLoop tools rmtree dry_run candidates root.entries

end Prune

/-! ## What is kept -/

section Kept

variable (tools : Tools Bytes) (digits : Digits) (now : Fin MAX_MICROS) (root : BackupRoot Bytes)
  (retention_days minimum_count : ℤ)

/-- The backups of a directory whose timestamps are times. -/
def stamps : List Stamp := (root.entries.filterMap (backupName digits)).filterMap (stampOf digits)

/-- A backup is among the newest. -/
def IsNewest (stamp : Stamp) : Prop := rank (stamps digits root) stamp < minimum_count.toNat

/-- A backup is older than the cutoff. -/
def IsOld (stamp : Stamp) : Prop := stamp.micros + retention_days.toNat * DAY_MICROS < now.val

/-- An entry is kept: it is no backup, or it is among the newest or not older than the cutoff. -/
def Keeps (name : String) : Prop := ∀ stamp ∈ stamps digits root, stamp.name = name →
  IsNewest digits root minimum_count stamp ∨ ¬IsOld now retention_days stamp

/-- A backup that `create_backup` made with the given activation. -/
def CreatedWith (activation : ProviderIntentActivation) (backup : Disk Bytes) : Prop :=
  ∃ source options destination, options.provider_intent_activation = activation ∧
    createBackup tools source options destination = .ok backup

/-- Every entry that is taken for a backup was made by `create_backup`. -/
def AllCreated : Prop := ∀ entry ∈ root.entries, (backupName digits entry).isSome →
  ∃ backup activation, entry.2 = .directory backup ∧ CreatedWith tools activation backup

/-- A run of `prune_backups` ends without an exception and keeps what is to be kept. -/
structure Retains (outcome : Except Error Unit × List (String × RootEntry Bytes)) : Prop where
  completes : outcome.1 = .ok ()
  exact : ∀ entry, entry ∈ outcome.2 ↔
    entry ∈ root.entries ∧ Keeps digits now root retention_days minimum_count entry.1

/-- The condition under which a directory can be pruned. -/
structure Prunable (rmtree : String → Removal Bytes) : Prop where
  /-- The timestamps in the names are times. -/
  timestamps : ∀ entry ∈ root.entries, ∀ named, backupName digits entry = some named →
    (stampOf digits named).isSome
  /-- The cutoff is in the calendar. -/
  calendar : retention_days.toNat ≤ 999999999 ∧ retention_days.toNat * DAY_MICROS ≤ now.val
  /-- The backups to remove were made before the provider intents were activated. -/
  inactive : ∀ entry ∈ root.entries, ¬Keeps digits now root retention_days minimum_count entry.1 →
    ∃ backup, entry.2 = .directory backup ∧ CreatedWith tools .notActivated backup
  /-- They can be removed. -/
  removable : ∀ entry ∈ root.entries, ¬Keeps digits now root retention_days minimum_count entry.1 →
    rmtree entry.1 = .removed

end Kept

/-! ## Verification of what was created -/

section Created

variable {tools : Tools Bytes} {backup : Disk Bytes}

theorem demand_bind_eq_ok {α : Type} {condition : Bool} {error : Error}
    {next : Unit → Except Error α} {a : α} :
    (Restore.demand condition error >>= next) = .ok a ↔ condition = true ∧ next () = .ok a := by
  cases condition <;> simp [Restore.demand]

/-- What was created was verified with the options it was created with. -/
theorem verifyBackup_of_createBackup {source : Source Bytes} {options : CreateOptions}
    {destination : Disk Bytes} (h : createBackup tools source options destination = .ok backup) :
    validateActivationOptions options.provider_intent_activation
        options.expected_legacy_import_id = .ok () ∧
      ∃ manifest, verifyBackup tools backup false options.expected_legacy_import_id =
        .ok manifest := by
  simp only [createBackup, checkSource, bind_eq_ok, exists_unit] at h
  obtain ⟨_, _, _, ⟨_, hoptions, _⟩, _, _, _, _, _, _, _, _, manifest, hverify, hresult⟩ := h
  cases hresult
  exact ⟨hoptions, manifest, hverify⟩

/-- A verification with an import can only be repeated with one. -/
theorem verifyBackup_activated {expected : String} {manifest : Json}
    (h : verifyBackup tools backup false (some expected) = .ok manifest) :
    ∃ error, verifyBackup tools backup false none = .error error := by
  cases hnone : verifyBackup tools backup false none with
  | error error => exact ⟨error, rfl⟩
  | ok other =>
    simp only [verifyBackup, bind_eq_ok] at h hnone
    obtain ⟨⟨content, metadata⟩, hfile, value, hvalue, fields, hfields, _, _, _, _, h⟩ := h
    obtain ⟨⟨content', metadata'⟩, hfile', value', hvalue', fields', hfields', _, _, _, _, hnone⟩ :=
      hnone
    rw [hfile] at hfile'
    cases hfile'
    rw [hvalue] at hvalue'
    cases hvalue'
    rw [hfields] at hfields'
    cases hfields'
    split_ifs at h hnone
    · -- the activation in the manifest goes with an import or without one
      simp only [verifyV3Backup, bind_eq_ok, exists_unit] at h hnone
      obtain ⟨manifest', hmanifest, hoptions, -⟩ := h
      obtain ⟨manifest'', hmanifest', hoptions', -⟩ := hnone
      rw [hmanifest] at hmanifest'
      cases hmanifest'
      cases hactivation : manifest'.provider_intent_activation <;>
        simp [validateActivationOptions, hactivation] at hoptions hoptions'
    · rw [demand_bind_eq_ok] at h
      simp at h

/-- A backup that was made before the activation is verified without an import. -/
theorem verifyListed_notActivated (h : CreatedWith tools .notActivated backup) :
    verifyListed tools (some (.directory backup)) = .ok () := by
  obtain ⟨source, options, destination, hactivation, hcreated⟩ := h
  obtain ⟨hoptions, manifest, hverify⟩ := verifyBackup_of_createBackup hcreated
  rw [hactivation, validateActivationOptions, Restore.demand_eq_ok,
    Option.isNone_iff_eq_none] at hoptions
  rw [hoptions] at hverify
  rw [verifyListed, hverify, ok_bind]
  rfl

/-- One that was made after it is not. -/
theorem verifyListed_activated (h : CreatedWith tools .activated backup) :
    ∃ error, verifyListed tools (some (.directory backup)) = .error error := by
  obtain ⟨source, options, destination, hactivation, hcreated⟩ := h
  obtain ⟨hoptions, manifest, hverify⟩ := verifyBackup_of_createBackup hcreated
  rw [hactivation, validateActivationOptions, Restore.demand_eq_ok, Option.any_eq_true] at hoptions
  obtain ⟨expected, hexpected, -⟩ := hoptions
  rw [hexpected] at hverify
  obtain ⟨error, herror⟩ := verifyBackup_activated hverify
  exact ⟨error, by rw [verifyListed, herror, error_bind]⟩

end Created

/-! ## The candidates -/

/-- Values of the expected type are obtained one by one exactly when each is of that type. -/
theorem mapM_obtainOr_eq_ok {α β : Type} {f : α → Option β} {error : Error} {items : List α}
    {values : List β} :
    (items.mapM fun item => obtainOr (f item) error) = .ok values ↔
      (∀ item ∈ items, (f item).isSome) ∧ items.filterMap f = values := by
  induction items generalizing values with
  | nil => simp
  | cons item items ih =>
    cases hitem : f item with
    | none => simp [List.mapM_cons, hitem, obtainOr]
    | some value =>
      simp only [List.mapM_cons, hitem, obtainOr_some, ok_bind, bind_eq_ok, ih, pure_eq_ok,
        Except.ok.injEq, List.forall_mem_cons, Option.isSome_some, true_and,
        List.filterMap_cons_some hitem]
      constructor
      · rintro ⟨rest, ⟨hsome, rfl⟩, rfl⟩
        exact ⟨hsome, rfl⟩
      · rintro ⟨hsome, rfl⟩
        exact ⟨_, ⟨hsome, rfl⟩, rfl⟩

section Candidates

variable {digits : Digits} {now : Fin MAX_MICROS} {root : BackupRoot Bytes}
  {retention_days minimum_count : ℤ} {stamp : Stamp} {name : String}

theorem backupName_fst {entry : String × RootEntry Bytes} {named : String × List Char}
    (h : backupName digits entry = some named) : named.1 = entry.1 := by
  obtain ⟨name, kind⟩ := entry
  unfold backupName at h
  cases kind
  case other => simp at h
  all_goals
    obtain ⟨chars, -, rfl⟩ := Option.map_eq_some_iff.mp h
    rfl

theorem stampOf_name {named : String × List Char} (h : stampOf digits named = some stamp) :
    stamp.name = named.1 := by
  obtain ⟨t, -, rfl⟩ := Option.map_eq_some_iff.mp h
  rfl

/-- A backup is listed under the name of an entry. -/
theorem mem_stamps : stamp ∈ stamps digits root ↔ ∃ entry ∈ root.entries, ∃ named,
    backupName digits entry = some named ∧ stampOf digits named = some stamp := by
  simp only [stamps, List.mem_filterMap]
  constructor
  · rintro ⟨named, ⟨entry, hmem, hnamed⟩, hstamp⟩
    exact ⟨entry, hmem, named, hnamed, hstamp⟩
  · rintro ⟨entry, hmem, named, hnamed, hstamp⟩
    exact ⟨named, ⟨entry, hmem, hnamed⟩, hstamp⟩

/-- The names of the backups are distinct. -/
theorem nodup_names (root : BackupRoot Bytes) : ((stamps digits root).map Stamp.name).Nodup := by
  have hpairs : root.entries.Pairwise fun a b => a.1 ≠ b.1 := List.pairwise_map.mp root.distinct
  have hnamed : (root.entries.filterMap (backupName digits)).Pairwise fun a b => a.1 ≠ b.1 := by
    refine hpairs.filterMap _ fun a b hne named hnamed named' hnamed' => ?_
    rw [backupName_fst hnamed, backupName_fst hnamed']
    exact hne
  refine List.pairwise_map.mpr (hnamed.filterMap _ fun a b hne stamp hstamp stamp' hstamp' => ?_)
  rw [stampOf_name hstamp, stampOf_name hstamp']
  exact hne

theorem nodup_stamps (root : BackupRoot Bytes) : (stamps digits root).Nodup :=
  (nodup_names root).of_map _

/-- What is not kept is a backup that is neither among the newest nor recent. -/
theorem not_keeps : ¬Keeps digits now root retention_days minimum_count name ↔
    ∃ stamp ∈ stamps digits root, stamp.name = name ∧
      ¬IsNewest digits root minimum_count stamp ∧ IsOld now retention_days stamp := by
  unfold Keeps
  push Not
  rfl

theorem cutoffOf_eq_ok {days cutoff : ℕ} :
    cutoffOf now days = .ok cutoff ↔
      (days ≤ 999999999 ∧ days * DAY_MICROS ≤ now.val) ∧ now.val - days * DAY_MICROS = cutoff := by
  rw [cutoffOf, demand_bind_eq_ok, demand_bind_eq_ok]
  simp [and_assoc]

/-- When the options and the timestamps are in order, the candidates are those not kept. -/
theorem candidatesOf_eq_ok {candidates : List String} (hdays : 1 ≤ retention_days)
    (hcount : 1 ≤ minimum_count) :
    candidatesOf digits now root retention_days minimum_count = .ok candidates ↔
      (∀ entry ∈ root.entries, ∀ named, backupName digits entry = some named →
        (stampOf digits named).isSome) ∧
      (retention_days.toNat ≤ 999999999 ∧ retention_days.toNat * DAY_MICROS ≤ now.val) ∧
      (((descending (stamps digits root)).drop minimum_count.toNat).filter fun stamp =>
        stamp.micros < now.val - retention_days.toNat * DAY_MICROS).map Stamp.name = candidates := by
  unfold candidatesOf
  rw [demand_bind_eq_ok, demand_bind_eq_ok, bind_eq_ok]
  simp only [decide_eq_true_eq, hdays, hcount, true_and, mapM_obtainOr_eq_ok, bind_eq_ok,
    cutoffOf_eq_ok, pure_eq_ok, Except.ok.injEq, List.mem_filterMap]
  constructor
  · rintro ⟨_, ⟨hnamed, rfl⟩, _, ⟨hcalendar, rfl⟩, hcandidates⟩
    exact ⟨fun entry hentry named h => hnamed named ⟨entry, hentry, h⟩, hcalendar, hcandidates⟩
  · rintro ⟨hnamed, hcalendar, hcandidates⟩
    exact ⟨_, ⟨fun named ⟨entry, hentry, h⟩ => hnamed entry hentry named h, rfl⟩, _,
      ⟨hcalendar, rfl⟩, hcandidates⟩

theorem mem_candidates (hcalendar : retention_days.toNat * DAY_MICROS ≤ now.val) :
    name ∈ (((descending (stamps digits root)).drop minimum_count.toNat).filter fun stamp =>
        stamp.micros < now.val - retention_days.toNat * DAY_MICROS).map Stamp.name ↔
      ¬Keeps digits now root retention_days minimum_count name := by
  simp only [not_keeps, List.mem_map, List.mem_filter, mem_drop_descending (nodup_stamps root),
    decide_eq_true_eq, IsNewest, IsOld, not_lt]
  constructor
  · rintro ⟨stamp, ⟨⟨hmem, hrank⟩, hold⟩, rfl⟩
    exact ⟨stamp, hmem, rfl, hrank, by omega⟩
  · rintro ⟨stamp, hmem, rfl, hrank, hold⟩
    exact ⟨stamp, ⟨⟨hmem, hrank⟩, by omega⟩, rfl⟩

end Candidates

/-! ## The loop -/

section Loop

variable {tools : Tools Bytes} {rmtree : String → Removal Bytes}
  {entries : List (String × RootEntry Bytes)} {names : List String}

/-- What the loop needs of a candidate. -/
def Removable (tools : Tools Bytes) (rmtree : String → Removal Bytes)
    (entries : List (String × RootEntry Bytes)) (name : String) : Prop :=
  verifyListed tools (entries.lookup name) = .ok () ∧ rmtree name = .removed

theorem lookup_erased {name other : String} (h : other ≠ name) :
    (erased entries name).lookup other = entries.lookup other := by
  induction entries with
  | nil => rfl
  | cons entry entries ih =>
    obtain ⟨key, value⟩ := entry
    by_cases hkey : key = name
    · have hother : (other == key) = false := by simpa [hkey] using h
      rw [erased, List.filter_cons_of_neg (by simp [hkey]), List.lookup_cons, hother]
      exact ih
    · rw [erased, List.filter_cons_of_pos (by simp [hkey]), List.lookup_cons, List.lookup_cons]
      rw [erased] at ih
      rw [ih]

/-- The entry of a name, where names are distinct. -/
theorem lookup_of_mem (hdistinct : (entries.map Prod.fst).Nodup) {entry : String × RootEntry Bytes}
    (h : entry ∈ entries) : entries.lookup entry.1 = some entry.2 := by
  induction entries with
  | nil => cases h
  | cons first entries ih =>
    rw [List.map_cons, List.nodup_cons] at hdistinct
    rcases List.mem_cons.mp h with rfl | h
    · exact List.lookup_cons_self
    · have hne : (entry.1 == first.1) = false := by
        rw [beq_eq_false_iff_ne]
        rintro heq
        exact hdistinct.1 (heq ▸ List.mem_map_of_mem h)
      rw [List.lookup_cons, hne]
      exact ih hdistinct.2 h

/-- The loop leaves every entry alone that is no candidate, however it ends. -/
theorem mem_pruneLoop_of_notMem {entry : String × RootEntry Bytes} (h : entry.1 ∉ names) :
    entry ∈ (pruneLoop tools rmtree false names entries).2 ↔ entry ∈ entries := by
  induction names generalizing entries with
  | nil => rfl
  | cons name names ih =>
    obtain ⟨hname, hnames⟩ := not_or.mp (List.mem_cons.not.mp h)
    unfold pruneLoop
    cases verifyListed tools (entries.lookup name) with
    | error error => rfl
    | ok _ =>
      cases rmtree name with
      | removed =>
        simp only [Bool.false_eq_true, if_false, ih hnames, erased, List.mem_filter]
        simp [hname]
      | failed error left =>
        simp only [Bool.false_eq_true, if_false, replaced, List.mem_map]
        constructor
        · rintro ⟨other, hother, heq⟩
          split_ifs at heq with hsame
          · exact absurd (heq ▸ rfl) hname
          · exact heq ▸ hother
        · intro hmem
          exact ⟨entry, hmem, if_neg hname⟩

/-- The loop ends without an exception exactly when every candidate can be removed, and then it has
removed them. -/
theorem pruneLoop_iff (hnames : names.Nodup) :
    ((pruneLoop tools rmtree false names entries).1 = .ok () ↔
      ∀ name ∈ names, Removable tools rmtree entries name) ∧
    ((pruneLoop tools rmtree false names entries).1 = .ok () →
      ∀ entry, entry ∈ (pruneLoop tools rmtree false names entries).2 ↔
        entry ∈ entries ∧ entry.1 ∉ names) := by
  induction names generalizing entries with
  | nil => simp [pruneLoop]
  | cons name names ih =>
    obtain ⟨hname, hrest⟩ := List.nodup_cons.mp hnames
    have hlater (other : String) (hother : other ∈ names) :
        Removable tools rmtree (erased entries name) other ↔ Removable tools rmtree entries other := by
      have hne : other ≠ name := fun heq => hname (heq ▸ hother)
      rw [Removable, Removable, lookup_erased hne]
    unfold pruneLoop
    cases hverify : verifyListed tools (entries.lookup name) with
    | error error => simp [Removable, hverify]
    | ok _ =>
      cases hremove : rmtree name with
      | failed error left => simp [Removable, hremove]
      | removed =>
        have hfirst : Removable tools rmtree entries name := ⟨hverify, hremove⟩
        obtain ⟨hcompletes, hexact⟩ := @ih (erased entries name) hrest
        simp only [Bool.false_eq_true, if_false]
        refine ⟨?_, fun h entry => ?_⟩
        · rw [hcompletes, List.forall_mem_cons]
          constructor
          · exact fun h => ⟨hfirst, fun other hother => (hlater other hother).mp (h other hother)⟩
          · exact fun h other hother => (hlater other hother).mpr (h.2 other hother)
        · rw [hexact h, erased, List.mem_filter, List.mem_cons]
          simp only [ne_eq, decide_not, Bool.not_eq_true', decide_eq_false_iff_not]
          tauto

end Loop

/-! ## Every run -/

section Runs

variable {tools : Tools Bytes} {digits : Digits} {rmtree : String → Removal Bytes}
  {now : Fin MAX_MICROS} {root : BackupRoot Bytes} {retention_days minimum_count : ℤ}

theorem nodup_candidates (root : BackupRoot Bytes) (count cutoff : ℕ) :
    ((((descending (stamps digits root)).drop count).filter fun stamp =>
      stamp.micros < cutoff).map Stamp.name).Nodup := by
  have hall : ((descending (stamps digits root)).map Stamp.name).Nodup :=
    ((descending_perm _).map _).nodup_iff.mpr (nodup_names root)
  exact hall.sublist ((List.filter_sublist.trans (List.drop_sublist _ _)).map _)

/-- A candidate that was created can be verified exactly when it was made before the activation. -/
theorem verifyListed_iff (hcreated : AllCreated tools digits root) {entry : String × RootEntry Bytes}
    (hentry : entry ∈ root.entries) (hnamed : (backupName digits entry).isSome) :
    verifyListed tools (root.entries.lookup entry.1) = .ok () ↔
      ∃ backup, entry.2 = .directory backup ∧ CreatedWith tools .notActivated backup := by
  rw [lookup_of_mem root.distinct hentry]
  obtain ⟨backup, activation, hkind, hmade⟩ := hcreated entry hentry hnamed
  rw [hkind]
  constructor
  · intro hverify
    cases activation with
    | notActivated => exact ⟨backup, rfl, hmade⟩
    | activated =>
      obtain ⟨error, herror⟩ := verifyListed_activated hmade
      rw [herror] at hverify
      cases hverify
  · rintro ⟨other, hother, hmade'⟩
    cases hother
    exact verifyListed_notActivated hmade'

/-- An entry that is not kept is a backup. -/
theorem isSome_backupName_of_not_keeps {entry : String × RootEntry Bytes} (hentry : entry ∈ root.entries)
    (h : ¬Keeps digits now root retention_days minimum_count entry.1) :
    (backupName digits entry).isSome := by
  obtain ⟨stamp, hstamp, hname, -⟩ := not_keeps.mp h
  obtain ⟨other, hother, named, hnamed, hstampOf⟩ := mem_stamps.mp hstamp
  have hsame : other.1 = entry.1 := by
    rw [← backupName_fst hnamed, ← stampOf_name hstampOf, hname]
  obtain rfl : other = entry := List.inj_on_of_nodup_map root.distinct hother hentry hsame
  rw [hnamed]
  rfl

/-- A name that is not kept is the name of an entry. -/
theorem exists_entry_of_not_keeps {name : String}
    (h : ¬Keeps digits now root retention_days minimum_count name) :
    ∃ entry ∈ root.entries, entry.1 = name := by
  obtain ⟨stamp, hstamp, rfl, -⟩ := not_keeps.mp h
  obtain ⟨entry, hentry, named, hnamed, hstampOf⟩ := mem_stamps.mp hstamp
  exact ⟨entry, hentry, by rw [stampOf_name hstampOf, backupName_fst hnamed]⟩

/-- Pruning a directory of created backups: what is to be kept is never removed, and the run ends
with exactly that exactly when the directory can be pruned. -/
theorem pruneBackups_iff (hdays : 1 ≤ retention_days) (hcount : 1 ≤ minimum_count)
    (hcreated : AllCreated tools digits root) :
    (∀ entry ∈ root.entries, Keeps digits now root retention_days minimum_count entry.1 →
      entry ∈ (pruneBackups tools digits rmtree now root retention_days minimum_count false).2) ∧
    (Retains digits now root retention_days minimum_count
        (pruneBackups tools digits rmtree now root retention_days minimum_count false) ↔
      Prunable tools digits now root retention_days minimum_count rmtree) := by
  cases hcandidates : candidatesOf digits now root retention_days minimum_count with
  | error error =>
    have hprune : pruneBackups tools digits rmtree now root retention_days minimum_count false =
        (.error error, root.entries) := by
      rw [pruneBackups, hcandidates]
    rw [hprune]
    refine ⟨fun entry hentry _ => hentry, iff_of_false (fun h => nomatch h.completes) fun h => ?_⟩
    have hok := (candidatesOf_eq_ok hdays hcount).mpr ⟨h.timestamps, h.calendar, rfl⟩
    rw [hcandidates] at hok
    cases hok
  | ok candidates =>
    obtain ⟨htimestamps, hcalendar, rfl⟩ := (candidatesOf_eq_ok hdays hcount).mp hcandidates
    set candidates := (((descending (stamps digits root)).drop minimum_count.toNat).filter
      fun stamp => stamp.micros < now.val - retention_days.toNat * DAY_MICROS).map Stamp.name
      with hdef
    have hmem (name : String) : name ∈ candidates ↔
        ¬Keeps digits now root retention_days minimum_count name := mem_candidates hcalendar.2
    have hprune : pruneBackups tools digits rmtree now root retention_days minimum_count false =
        pruneLoop tools rmtree false candidates root.entries := by
      rw [pruneBackups, hcandidates]
    obtain ⟨hcompletes, hexact⟩ :=
      @pruneLoop_iff _ tools rmtree root.entries candidates
        (nodup_candidates root minimum_count.toNat (now.val - retention_days.toNat * DAY_MICROS))
    rw [hprune]
    refine ⟨fun entry hentry hkeeps => ?_, fun h => ?_, fun h => ?_⟩
    · exact (mem_pruneLoop_of_notMem fun hcandidate => (hmem entry.1).mp hcandidate hkeeps).mpr hentry
    · have hremovable := hcompletes.mp h.completes
      refine ⟨htimestamps, hcalendar, fun entry hentry hgone => ?_, fun entry _ hgone => ?_⟩
      · exact (verifyListed_iff hcreated hentry (isSome_backupName_of_not_keeps hentry hgone)).mp
          (hremovable entry.1 ((hmem entry.1).mpr hgone)).1
      · exact (hremovable entry.1 ((hmem entry.1).mpr hgone)).2
    · have hcomplete := hcompletes.mpr fun name hname => by
        obtain ⟨entry, hentry, rfl⟩ := exists_entry_of_not_keeps ((hmem name).mp hname)
        have hgone := (hmem entry.1).mp hname
        exact ⟨(verifyListed_iff hcreated hentry (isSome_backupName_of_not_keeps hentry hgone)).mpr
          (h.inactive entry hentry hgone), h.removable entry hentry hgone⟩
      refine ⟨hcomplete, fun entry => ?_⟩
      rw [hexact hcomplete, hmem, not_not]

end Runs

/-! ## Backups made after the activation -/

section Activated

/-- Files without content that every validator accepts; a document is its own text. -/
def plainStorage : Storage Json where
  size _ := 0
  sha256 _ := String.ofList (List.replicate 64 '0')
  empty := .null
  drafts _ := []
  document := id
  loads := some
  integrity _ := .ok "ok"
  validateSqliteApplication _ _ _ _ := .ok ()
  validateRuntimeFile _ _ _ := .ok ()
  sha256_isHexDigest _ := by decide
  loads_document _ := rfl

/-- The tool on such files. -/
def Tools.plain : Tools Json where
  py := Python.plain
  storage := plainStorage
  manifestText := id
  sqliteBackup := .ok
  verifyLegacy _ _ := .ok ()
  fresh mode := ⟨mode, 0, 0⟩

/-- A directory with nothing in it. -/
def emptyDirectory : Disk Json where
  entries := (∅ : Std.ExtTreeMap Parts (Node Json) compare).insert [] (.directory ⟨0o700, 0, 0⟩)
  root := ⟨⟨0o700, 0, 0⟩, by simp⟩
  closed _ _ h := by simp at h

/-- A data directory, with the store of the provider intents or without it. -/
def dataDirectory (activation : ProviderIntentActivation) : Source Json where
  existsAt path := path ≠ .operatorSecurityAudit ∧ (path = .providerIntents → activation = .activated)
  file _ := some ⟨.null, 0o600, false⟩

/-- The options for a state of the provider intents. -/
def optionsFor (activation : ProviderIntentActivation) : CreateOptions :=
  ⟨false, activation, if activation = .activated then some "import-1" else none, ⟨0, zero_lt_MAX_MICROS⟩⟩

/-- The backup that is made in a state of the provider intents. -/
def madeIn (activation : ProviderIntentActivation) : Disk Json :=
  match createBackup Tools.plain (dataDirectory activation) (optionsFor activation) emptyDirectory with
  | .ok backup => backup
  | .error _ => emptyDirectory

theorem createdWith_madeIn (activation : ProviderIntentActivation) :
    CreatedWith Tools.plain activation (madeIn activation) := by
  have hok : (createBackup Tools.plain (dataDirectory activation) (optionsFor activation)
      emptyDirectory).isOk = true := by
    cases activation <;> decide +kernel
  refine ⟨dataDirectory activation, optionsFor activation, emptyDirectory, rfl, ?_⟩
  unfold madeIn
  cases hcreated : createBackup Tools.plain (dataDirectory activation) (optionsFor activation)
      emptyDirectory with
  | ok backup => rfl
  | error error =>
    rw [hcreated] at hok
    cases hok

/-- A directory with two backups and a file. -/
def twoBackups (activation : ProviderIntentActivation) : BackupRoot Json where
  entries := [("atlas-data-20250101T000000Z", .directory (madeIn activation)),
    ("atlas-data-20250201T000000Z", .directory (madeIn activation)), ("notes.txt", .other)]
  distinct := by simp

theorem allCreated_twoBackups (activation : ProviderIntentActivation) :
    AllCreated Tools.plain Digits.ascii (twoBackups activation) := by
  intro entry hentry hnamed
  simp only [twoBackups, List.mem_cons, List.not_mem_nil, or_false] at hentry
  rcases hentry with rfl | rfl | rfl
  · exact ⟨_, activation, rfl, createdWith_madeIn activation⟩
  · exact ⟨_, activation, rfl, createdWith_madeIn activation⟩
  · cases hnamed

theorem newYear_lt : 63_902_822_400_000_000 < MAX_MICROS := by decide

/-- The start of the year 2026. -/
def newYear : Fin MAX_MICROS := ⟨63_902_822_400_000_000, newYear_lt⟩

/-- Two backups made before the activation, a year later. -/
theorem pruneBackups_twoBackups :
    (∀ entry ∈ (twoBackups .notActivated).entries,
      Keeps Digits.ascii newYear (twoBackups .notActivated) 30 1 entry.1 →
        entry ∈ (pruneBackups Tools.plain Digits.ascii (fun _ => .removed) newYear
          (twoBackups .notActivated) 30 1 false).2) ∧
    (Retains Digits.ascii newYear (twoBackups .notActivated) 30 1
        (pruneBackups Tools.plain Digits.ascii (fun _ => .removed) newYear
          (twoBackups .notActivated) 30 1 false) ↔
      Prunable Tools.plain Digits.ascii newYear (twoBackups .notActivated) 30 1
        fun _ => .removed) :=
  pruneBackups_iff (by decide) (by decide) (allCreated_twoBackups .notActivated)

theorem stamps_twoBackups (activation : ProviderIntentActivation) :
    stamps Digits.ascii (twoBackups activation) =
      [toLex (63871286400000000, "atlas-data-20250101T000000Z"),
        toLex (63873964800000000, "atlas-data-20250201T000000Z")] := by
  have hfirst : matchName Digits.ascii "atlas-data-20250101T000000Z" =
      some "20250101T000000Z".toList := by decide
  have hsecond : matchName Digits.ascii "atlas-data-20250201T000000Z" =
      some "20250201T000000Z".toList := by decide
  have hnamed : (twoBackups activation).entries.filterMap (backupName Digits.ascii) =
      [("atlas-data-20250101T000000Z", "20250101T000000Z".toList),
        ("atlas-data-20250201T000000Z", "20250201T000000Z".toList)] := by
    simp only [twoBackups, backupName, List.filterMap_cons, List.filterMap_nil, hfirst, hsecond,
      Option.map_some]
  rw [stamps, hnamed]
  decide

/-- A backup that was made after the activation is not removed when it has expired: the run ends
with an exception. -/
theorem retention_incomplete :
    ¬∀ (root : BackupRoot Json) (now : Fin MAX_MICROS) (retention_days minimum_count : ℤ),
      1 ≤ retention_days → 1 ≤ minimum_count → AllCreated Tools.plain Digits.ascii root →
      Retains Digits.ascii now root retention_days minimum_count
        (pruneBackups Tools.plain Digits.ascii (fun _ => .removed) now root retention_days
          minimum_count false) := by
  intro h
  have hcreated := allCreated_twoBackups .activated
  have hretains := h (twoBackups .activated) newYear 30 1 (by decide) (by decide) hcreated
  have hprunable := (pruneBackups_iff (by decide) (by decide) hcreated).2.mp hretains
  have hgone : ¬Keeps Digits.ascii newYear (twoBackups .activated) 30 1
      "atlas-data-20250101T000000Z" := by
    refine not_keeps.mpr ⟨toLex (63871286400000000, "atlas-data-20250101T000000Z"), ?_, rfl, ?_, ?_⟩
    · rw [stamps_twoBackups]
      exact List.mem_cons_self
    · rw [IsNewest, stamps_twoBackups]
      decide
    · rw [IsOld]
      decide
  obtain ⟨backup, hbackup, hmade⟩ := hprunable.inactive _ List.mem_cons_self hgone
  obtain rfl : madeIn .activated = backup := by simpa using hbackup
  obtain ⟨error, herror⟩ := verifyListed_activated (createdWith_madeIn .activated)
  rw [verifyListed_notActivated hmade] at herror
  cases herror

end Activated

end AtlasOS.Backup
