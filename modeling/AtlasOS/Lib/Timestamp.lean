import AtlasOS.Lib.Calendar
import AtlasOS.Lib.Json
import Mathlib.Data.Nat.Find

/-!
# Texts of UTC timestamps

`datetime.isoformat` writes the fraction of a second only when there is one, so that
the texts of UTC timestamps differ in length. They are still ordered like the instants
they stand for, because the sign of the offset comes before the decimal point.
-/

namespace AtlasOS

/-! ## Dates of day numbers -/

/-- The year of a day. -/
def yearOf (day : ℕ) : ℕ := Nat.findGreatest (fun year => daysBeforeYear year < day) 9999

/-- The month of a day of a year. -/
def monthOf (year day : ℕ) : ℕ := Nat.findGreatest (fun month => daysBeforeMonth year month < day) 12

/-- The days of the years 1 to 9999. -/
def MAX_DAY : ℕ := 3652059

theorem yearOf_spec {day : ℕ} (hpos : 1 ≤ day) (hmax : day ≤ MAX_DAY) :
    1 ≤ yearOf day ∧ yearOf day ≤ 9999 ∧ daysBeforeYear (yearOf day) < day ∧
      day ≤ daysBeforeYear (yearOf day + 1) := by
  have hfirst : daysBeforeYear 1 < day := hpos
  have hle : yearOf day ≤ 9999 := Nat.findGreatest_le _
  have hbefore : daysBeforeYear (yearOf day) < day :=
    @Nat.findGreatest_spec 1 (fun year => daysBeforeYear year < day) _ 9999 (by decide) hfirst
  refine ⟨Nat.le_findGreatest (by decide) hfirst, hle, hbefore, ?_⟩
  rcases hle.lt_or_eq with hlt | heq
  · refine not_lt.mp ?_
    exact @Nat.findGreatest_is_greatest (yearOf day + 1) (fun year => daysBeforeYear year < day) _
      9999 (Nat.lt_succ_self _) hlt
  · rw [heq]
    exact hmax

theorem monthOf_spec {year day : ℕ} (hpos : 1 ≤ day) (hmax : day ≤ daysBeforeMonth year 13) :
    1 ≤ monthOf year day ∧ monthOf year day ≤ 12 ∧ daysBeforeMonth year (monthOf year day) < day ∧
      day ≤ daysBeforeMonth year (monthOf year day + 1) := by
  have hfirst : daysBeforeMonth year 1 < day := hpos
  have hle : monthOf year day ≤ 12 := Nat.findGreatest_le _
  have hbefore : daysBeforeMonth year (monthOf year day) < day :=
    @Nat.findGreatest_spec 1 (fun month => daysBeforeMonth year month < day) _ 12 (by decide) hfirst
  refine ⟨Nat.le_findGreatest (by decide) hfirst, hle, hbefore, ?_⟩
  rcases hle.lt_or_eq with hlt | heq
  · refine not_lt.mp ?_
    exact @Nat.findGreatest_is_greatest (monthOf year day + 1)
      (fun month => daysBeforeMonth year month < day) _ 12 (Nat.lt_succ_self _) hlt
  · rw [heq]
    exact hmax

/-- The days of the year up to a day of a year. -/
def dayOfYear (day : ℕ) : ℕ := day - daysBeforeYear (yearOf day)

/-- The day of the month. -/
def dayOf (day : ℕ) : ℕ := dayOfYear day - daysBeforeMonth (yearOf day) (monthOf (yearOf day) (dayOfYear day))

/-- The date of a day number, as `date.fromordinal` finds it. -/
theorem date_spec {day : ℕ} (hpos : 1 ≤ day) (hmax : day ≤ MAX_DAY) :
    let month := monthOf (yearOf day) (dayOfYear day)
    (1 ≤ yearOf day ∧ yearOf day ≤ 9999 ∧ 1 ≤ month ∧ month ≤ 12 ∧ 1 ≤ dayOf day ∧
        dayOf day ≤ daysInMonth (yearOf day) month) ∧
      ordinal (yearOf day) month (dayOf day) = day := by
  obtain ⟨hyear, hyear', hbefore, hafter⟩ := yearOf_spec hpos hmax
  rw [daysBeforeYear_succ _ hyear] at hafter
  have hthirteen := daysBeforeMonth_thirteen (yearOf day)
  have hofYear : dayOfYear day = day - daysBeforeYear (yearOf day) := rfl
  obtain ⟨hmonth, hmonth', hbefore', hafter'⟩ :=
    @monthOf_spec (yearOf day) (dayOfYear day) (by omega) (by omega)
  intro month
  have hnext : daysBeforeMonth (yearOf day) (month + 1) =
      daysBeforeMonth (yearOf day) month + daysInMonth (yearOf day) month := by
    obtain ⟨before, hmonth⟩ : ∃ before, month = before + 1 := ⟨month - 1, by omega⟩
    rw [hmonth]
    rfl
  have hday : dayOf day = dayOfYear day - daysBeforeMonth (yearOf day) month := rfl
  change daysBeforeMonth (yearOf day) month < dayOfYear day at hbefore'
  change dayOfYear day ≤ daysBeforeMonth (yearOf day) (month + 1) at hafter'
  unfold ordinal
  refine ⟨⟨hyear, hyear', hmonth, hmonth', ?_, ?_⟩, ?_⟩ <;> omega

namespace CivilSecond

theorem div_lt_MAX_DAY {seconds : ℕ} (h : seconds < MAX_DAY * 86400) : seconds / 86400 < MAX_DAY := by
  rw [Nat.mul_comm] at h
  exact Nat.div_lt_of_lt_mul h

theorem isCivil_ofSeconds {seconds : ℕ} (h : seconds < MAX_DAY * 86400) :
    isCivil (yearOf (seconds / 86400 + 1))
      (monthOf (yearOf (seconds / 86400 + 1)) (dayOfYear (seconds / 86400 + 1)))
      (dayOf (seconds / 86400 + 1)) (seconds % 86400 / 3600) (seconds % 3600 / 60)
      (seconds % 60) = true := by
  have hday : seconds / 86400 < MAX_DAY := div_lt_MAX_DAY h
  obtain ⟨⟨hyear, hyear', hmonth, hmonth', hfirst, hlast⟩, -⟩ :=
    date_spec (Nat.le_add_left 1 (seconds / 86400)) hday
  simp only [isCivil, decide_eq_true_eq]
  refine ⟨hyear, hyear', hmonth, hmonth', hfirst, hlast, ?_, ?_, ?_⟩ <;> omega

/-- The second so many seconds after the beginning of the year 1. -/
def ofSeconds (seconds : ℕ) (h : seconds < MAX_DAY * 86400) : CivilSecond where
  year := yearOf (seconds / 86400 + 1)
  month := monthOf (yearOf (seconds / 86400 + 1)) (dayOfYear (seconds / 86400 + 1))
  day := dayOf (seconds / 86400 + 1)
  hour := seconds % 86400 / 3600
  minute := seconds % 3600 / 60
  second := seconds % 60
  valid := isCivil_ofSeconds h

theorem instant_ofSeconds (seconds : ℕ) (h : seconds < MAX_DAY * 86400) :
    (ofSeconds seconds h).instant = seconds + 86400 := by
  have hday : seconds / 86400 < MAX_DAY := div_lt_MAX_DAY h
  obtain ⟨-, hordinal⟩ := date_spec (Nat.le_add_left 1 (seconds / 86400)) hday
  simp only [instant, ofSeconds, hordinal]
  omega

/-- The text without the letter of its time zone. -/
def front (t : CivilSecond) : List Char := t.chars.dropLast

theorem front_concat (t : CivilSecond) : t.front ++ ['Z'] = t.chars := by
  have hchars : t.chars = (digits 4 t.year ++ '-' :: (digits 2 t.month ++ '-' :: (digits 2 t.day ++
      'T' :: (digits 2 t.hour ++ ':' :: (digits 2 t.minute ++ ':' :: digits 2 t.second))))) ++ ['Z'] := by
    simp [chars]
  rw [front, hchars, List.dropLast_concat]

theorem length_front (t : CivilSecond) : t.front.length = 19 := by
  have hlength := congrArg List.length t.front_concat
  simp only [List.length_append, List.length_cons, List.length_nil, chars, length_digits] at hlength
  omega

end CivilSecond

/-! ## The order of texts -/

/-- Texts of one length are compared before what follows them. -/
theorem append_lt_append_of_lt {as bs : List Char} (hlength : as.length = bs.length) (h : as < bs)
    (cs ds : List Char) : as ++ cs < bs ++ ds := by
  induction as generalizing bs with
  | nil =>
    rw [List.length_nil, eq_comm, List.length_eq_zero_iff] at hlength
    rw [hlength] at h
    exact absurd h (lt_irrefl _)
  | cons a as ih =>
    cases bs with
    | nil => cases hlength
    | cons b bs =>
      rcases List.cons_lt_cons_iff.mp h with hab | ⟨rfl, hrest⟩
      · exact List.cons_lt_cons_iff.mpr (.inl hab)
      · exact List.cons_lt_cons_iff.mpr (.inr ⟨rfl, ih (Nat.succ.inj hlength) hrest⟩)

/-- The fraction of a second, if there is one. -/
def fraction (micros : ℕ) : List Char := if micros = 0 then [] else '.' :: digits 6 micros

theorem fraction_lt {m n : ℕ} (hn : n < 10 ^ 6) (h : m < n) (cs ds : List Char) :
    fraction m ++ '+' :: cs < fraction n ++ '+' :: ds := by
  have hne : n ≠ 0 := by omega
  rw [fraction, fraction, if_neg hne]
  split_ifs with hm
  · exact List.cons_lt_cons_iff.mpr (.inl (by decide))
  · exact List.cons_lt_cons_iff.mpr (.inr ⟨rfl, digits_append_lt hn h _ _⟩)

/-! ## The UTC clock -/

namespace DateTime

/-- The reading of the UTC clock, in microseconds, a naive value being one already. -/
def utcMicros (t : DateTime) : Int :=
  t.micros.val + 86400000000 - (t.offset.map (·.val : _ → Int)).getD 86400000000

/-- `timestamp.astimezone(timezone.utc)`; `none` when it leaves the calendar. -/
def toUtc (t : DateTime) : Option (Fin MAX_MICROS) :=
  if h : 0 ≤ t.utcMicros ∧ t.utcMicros < MAX_MICROS then some ⟨t.utcMicros.toNat, by omega⟩ else none

theorem toUtc_eq_some {t : DateTime} {micros : Fin MAX_MICROS} :
    t.toUtc = some micros ↔ t.utcMicros = micros.val := by
  have hlt := micros.isLt
  unfold toUtc
  split
  · next h =>
    rw [Option.some.injEq, Fin.ext_iff]
    change t.utcMicros.toNat = micros.val ↔ _
    omega
  · constructor
    · rintro ⟨⟩
    · omega

@[simp] theorem utcMicros_utc (micros : Fin MAX_MICROS) : (utc micros).utcMicros = micros.val := by
  simp [utcMicros, utc]

@[simp] theorem toUtc_utc (micros : Fin MAX_MICROS) : (utc micros).toUtc = some micros :=
  toUtc_eq_some.mpr (utcMicros_utc micros)

end DateTime

/-! ## Timestamps -/

namespace Timestamp

/-- The second of a timestamp. -/
def civil (t : Fin MAX_MICROS) : CivilSecond :=
  .ofSeconds (t.val / 1000000) (by
    have hlt := t.isLt
    unfold MAX_MICROS at hlt
    unfold MAX_DAY
    omega)

/-- `datetime.isoformat` for a reading of the UTC clock. -/
def isoformat (t : Fin MAX_MICROS) : String :=
  String.ofList ((civil t).front ++ (fraction (t.val % 1000000) ++ "+00:00".toList))

theorem isoformat_lt {a b : Fin MAX_MICROS} (h : a < b) : isoformat a < isoformat b := by
  rw [Fin.lt_def] at h
  simp only [isoformat, String.lt_iff_toList_lt, String.toList_ofList]
  rcases (Nat.div_le_div_right h.le : a.val / 1000000 ≤ b.val / 1000000).lt_or_eq with hlt | heq
  · have hinstant : (civil a).instant < (civil b).instant := by
      simp only [civil, CivilSecond.instant_ofSeconds]
      omega
    have htext := CivilSecond.text_lt_iff.mpr hinstant
    rw [String.lt_iff_toList_lt, CivilSecond.text, CivilSecond.text, String.toList_ofList,
      String.toList_ofList, ← CivilSecond.front_concat, ← CivilSecond.front_concat] at htext
    have hlength : (civil a).front.length = (civil b).front.length := by
      rw [CivilSecond.length_front, CivilSecond.length_front]
    refine append_lt_append_of_lt hlength ?_ _ _
    by_contra hge
    rcases (not_lt.mp hge).lt_or_eq with hba | heq
    · exact absurd htext (append_lt_append_of_lt hlength.symm hba _ _).not_gt
    · rw [heq] at htext
      exact lt_irrefl _ htext
  · have hcivil : civil a = civil b := by
      simp only [civil, heq]
    have hmicros : a.val % 1000000 < b.val % 1000000 := by omega
    rw [hcivil]
    exact List.append_left_lt (fraction_lt (Nat.mod_lt _ (by decide)) hmicros _ _)

/-- Texts are ordered like the instants. -/
theorem isoformat_le_iff {a b : Fin MAX_MICROS} : isoformat a ≤ isoformat b ↔ a ≤ b := by
  constructor
  · intro h
    by_contra hba
    exact absurd (isoformat_lt (Fin.not_le.mp hba)) h.not_gt
  · intro h
    rcases Nat.lt_or_eq_of_le (Fin.le_def.mp h) with hlt | heq
    · exact (isoformat_lt hlt).le
    · rw [Fin.ext heq]

/-- The fraction that is read between the second and the offset. -/
def readFraction : List Char → Option ℕ
  | '.' :: rest => if rest.drop 6 = "+00:00".toList then some (readNumber (rest.take 6)) else none
  | rest => if rest = "+00:00".toList then some 0 else none

/-- `datetime.fromisoformat` for texts with the offset of UTC. -/
def fromisoformat (text : String) : Option (Fin MAX_MICROS) := do
  let second ← CivilSecond.parse (String.ofList (text.toList.take 19 ++ ['Z']))
  let micros ← readFraction (text.toList.drop 19)
  let value := (second.instant - 86400) * 1000000 + micros
  if h : value < MAX_MICROS then some ⟨value, h⟩ else none

theorem readFraction_fraction {micros : ℕ} (h : micros < 10 ^ 6) :
    readFraction (fraction micros ++ "+00:00".toList) = some micros := by
  rw [fraction]
  split_ifs with hzero
  · rw [hzero]
    rfl
  · have htake : (digits 6 micros ++ "+00:00".toList).take 6 = digits 6 micros :=
      List.take_left' (length_digits 6 micros)
    have hdrop : (digits 6 micros ++ "+00:00".toList).drop 6 = "+00:00".toList :=
      List.drop_left' (length_digits 6 micros)
    rw [List.cons_append, readFraction, hdrop, if_pos rfl, htake, readNumber_digits h]

@[simp] theorem fromisoformat_isoformat (t : Fin MAX_MICROS) :
    fromisoformat (isoformat t) = some t := by
  have htake (rest : List Char) : ((civil t).front ++ rest).take 19 = (civil t).front :=
    List.take_left' (civil t).length_front
  have hdrop (rest : List Char) : ((civil t).front ++ rest).drop 19 = rest :=
    List.drop_left' (civil t).length_front
  have hparse : CivilSecond.parse (String.ofList ((civil t).front ++ ['Z'])) = some (civil t) := by
    rw [CivilSecond.front_concat]
    exact CivilSecond.parse_text (civil t)
  have hvalue : ((civil t).instant - 86400) * 1000000 + t.val % 1000000 = t.val := by
    rw [civil, CivilSecond.instant_ofSeconds]
    omega
  have hmicros : readFraction (fraction (t.val % 1000000) ++ "+00:00".toList) = some (t.val % 1000000) :=
    readFraction_fraction (Nat.mod_lt t.val (by decide))
  simp only [fromisoformat, isoformat, String.toList_ofList, htake, hdrop, hparse, Option.bind_eq_bind,
    Option.bind_some]
  rw [hmicros, Option.bind_some, dif_pos (hvalue.trans_lt t.isLt)]
  exact congrArg some (Fin.ext hvalue)

end Timestamp

end AtlasOS
