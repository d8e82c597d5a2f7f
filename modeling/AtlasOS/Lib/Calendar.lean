import Mathlib.Algebra.Order.Ring.Nat
import Mathlib.Data.List.Lex
import Mathlib.Data.String.Basic
import Mathlib.Tactic.Ring
import Mathlib.Tactic.IntervalCases

/-!
# Whole seconds of the Gregorian calendar

A `CivilSecond` is a date and a time of day in the years 1 to 9999, as Python's
`datetime` keeps it. Its text has fixed width, so that texts are ordered like the
instants they stand for.
-/

namespace AtlasOS

/-! ## Decimal texts of fixed width -/

/-- The decimal digits of a number, the highest first. -/
def digits : ℕ → ℕ → List Char
  | 0, _ => []
  | width + 1, n => Char.ofNat (48 + n / 10 ^ width) :: digits width (n % 10 ^ width)

/-- The number that decimal digits stand for, the highest digit first. -/
def readNumber (cs : List Char) : ℕ := cs.foldl (fun n c => 10 * n + (c.toNat - 48)) 0

@[simp] theorem length_digits (width n : ℕ) : (digits width n).length = width := by
  induction width generalizing n with
  | zero => rfl
  | succ width ih => simp [digits, ih]

theorem toNat_digit {n : ℕ} (h : n < 10) : (Char.ofNat (48 + n)).toNat = 48 + n := by
  interval_cases n <;> rfl

theorem div_pow_lt_ten {width n : ℕ} (h : n < 10 ^ (width + 1)) : n / 10 ^ width < 10 := by
  rw [Nat.div_lt_iff_lt_mul (by positivity), mul_comm, ← pow_succ]
  exact h

/-- Reading more digits after a number. -/
theorem foldl_digits {width n : ℕ} (h : n < 10 ^ width) (start : ℕ) :
    (digits width n).foldl (fun n c => 10 * n + (c.toNat - 48)) start = start * 10 ^ width + n := by
  induction width generalizing n start with
  | zero =>
    have hzero : n = 0 := by simpa using h
    simp [digits, hzero]
  | succ width ih =>
    have hlow : n % 10 ^ width < 10 ^ width := Nat.mod_lt _ (by positivity)
    have hsplit : 10 ^ width * (n / 10 ^ width) + n % 10 ^ width = n := Nat.div_add_mod _ _
    rw [digits, List.foldl_cons, toNat_digit (div_pow_lt_ten h), ih hlow, pow_succ]
    calc (10 * start + (48 + n / 10 ^ width - 48)) * 10 ^ width + n % 10 ^ width
        = start * (10 ^ width * 10) + (10 ^ width * (n / 10 ^ width) + n % 10 ^ width) := by
          rw [Nat.add_sub_cancel_left]
          ring
      _ = start * (10 ^ width * 10) + n := by rw [hsplit]

theorem readNumber_digits {width n : ℕ} (h : n < 10 ^ width) : readNumber (digits width n) = n := by
  rw [readNumber, foldl_digits h, Nat.zero_mul, Nat.zero_add]

/-- A smaller number has the smaller text, whatever follows. -/
theorem digits_append_lt {width m n : ℕ} (hn : n < 10 ^ width) (h : m < n) (cs ds : List Char) :
    digits width m ++ cs < digits width n ++ ds := by
  induction width generalizing m n with
  | zero =>
    have hzero : n = 0 := by simpa using hn
    omega
  | succ width ih =>
    have hhigh : m / 10 ^ width ≤ n / 10 ^ width := Nat.div_le_div_right h.le
    have hdigit := div_pow_lt_ten hn
    rw [digits, digits, List.cons_append, List.cons_append, List.cons_lt_cons_iff]
    rcases hhigh.lt_or_eq with hlt | heq
    · left
      rw [Char.lt_def, UInt32.lt_iff_toNat_lt]
      change (Char.ofNat _).toNat < (Char.ofNat _).toNat
      rw [toNat_digit (hlt.trans hdigit), toNat_digit hdigit]
      omega
    · right
      refine ⟨by rw [heq], ih (Nat.mod_lt _ (by positivity)) ?_⟩
      have hm : 10 ^ width * (m / 10 ^ width) + m % 10 ^ width = m := Nat.div_add_mod _ _
      have hn : 10 ^ width * (n / 10 ^ width) + n % 10 ^ width = n := Nat.div_add_mod _ _
      rw [heq] at hm
      omega

/-! ## Dates -/

/-- `calendar.isleap` -/
def isLeap (year : ℕ) : Bool := year % 4 = 0 && (year % 100 ≠ 0 || year % 400 = 0)

/-- The number of days of a month. -/
def daysInMonth (year month : ℕ) : ℕ :=
  if month = 2 then if isLeap year then 29 else 28
  else if month = 4 ∨ month = 6 ∨ month = 9 ∨ month = 11 then 30
  else 31

/-- The days of the year before a month. -/
def daysBeforeMonth (year : ℕ) : ℕ → ℕ
  | 0 | 1 => 0
  | month + 2 => daysBeforeMonth year (month + 1) + daysInMonth year (month + 1)

/-- The days before the first day of a year. -/
def daysBeforeYear (year : ℕ) : ℕ :=
  (year - 1) * 365 + (year - 1) / 4 - (year - 1) / 100 + (year - 1) / 400

/-- The number of a date, the first of January of the year 1 being the first day. -/
def ordinal (year month day : ℕ) : ℕ := daysBeforeYear year + daysBeforeMonth year month + day

theorem isLeap_iff {year : ℕ} : isLeap year = true ↔ 4 ∣ year ∧ (¬100 ∣ year ∨ 400 ∣ year) := by
  simp only [isLeap, Bool.and_eq_true, Bool.or_eq_true, decide_eq_true_eq, Nat.dvd_iff_mod_eq_zero, ne_eq]

theorem daysBeforeYear_succ (year : ℕ) (h : 1 ≤ year) :
    daysBeforeYear (year + 1) = daysBeforeYear year + 365 + if isLeap year then 1 else 0 := by
  obtain ⟨before, rfl⟩ : ∃ before, year = before + 1 := ⟨year - 1, by omega⟩
  have hcentury : before / 100 ≤ before / 4 := Nat.div_le_div_left (by decide) (by decide)
  have h100 : 400 ∣ before + 1 → 100 ∣ before + 1 := Nat.dvd_trans (by decide)
  have h4 : 100 ∣ before + 1 → 4 ∣ before + 1 := Nat.dvd_trans (by decide)
  simp only [daysBeforeYear, isLeap_iff, Nat.add_sub_cancel, Nat.succ_div]
  split_ifs <;> omega

theorem daysBeforeYear_mono {year year' : ℕ} (h : 1 ≤ year) (hle : year ≤ year') :
    daysBeforeYear year ≤ daysBeforeYear year' := by
  induction year', hle using Nat.le_induction with
  | base => exact le_refl _
  | succ year' hle ih =>
    rw [daysBeforeYear_succ year' (h.trans hle)]
    omega

theorem daysBeforeMonth_mono (year : ℕ) {month month' : ℕ} (h : month ≤ month') :
    daysBeforeMonth year month ≤ daysBeforeMonth year month' := by
  induction month', h using Nat.le_induction with
  | base => exact le_refl _
  | succ month' _ ih =>
    cases month' with
    | zero => simpa [daysBeforeMonth] using ih
    | succ month' =>
      rw [daysBeforeMonth]
      omega

theorem daysBeforeMonth_thirteen (year : ℕ) :
    daysBeforeMonth year 13 = 365 + if isLeap year then 1 else 0 := by
  simp only [daysBeforeMonth, daysInMonth]
  cases isLeap year <;> rfl

/-- A day of an earlier month comes before the first day of a later one. -/
theorem daysBeforeMonth_add_le {year month month' day : ℕ} (hmonth : 1 ≤ month)
    (hlt : month < month') (hday : day ≤ daysInMonth year month) :
    daysBeforeMonth year month + day ≤ daysBeforeMonth year month' := by
  have hnext : daysBeforeMonth year (month + 1) =
      daysBeforeMonth year month + daysInMonth year month := by
    obtain ⟨before, rfl⟩ : ∃ before, month = before + 1 := ⟨month - 1, by omega⟩
    rfl
  have hmono := daysBeforeMonth_mono year (Nat.succ_le_of_lt hlt)
  rw [Nat.succ_eq_add_one, hnext] at hmono
  omega

/-! ## Seconds -/

/-- Whether the numbers are a date and a time of day. -/
def isCivil (year month day hour minute second : ℕ) : Bool :=
  decide (1 ≤ year ∧ year ≤ 9999 ∧ 1 ≤ month ∧ month ≤ 12 ∧ 1 ≤ day ∧ day ≤ daysInMonth year month ∧
    hour < 24 ∧ minute < 60 ∧ second < 60)

/-- A second of the calendar. -/
structure CivilSecond where
  year : ℕ
  month : ℕ
  day : ℕ
  hour : ℕ
  minute : ℕ
  second : ℕ
  valid : isCivil year month day hour minute second = true
  deriving DecidableEq

namespace CivilSecond

/-- The seconds since the last midnight before the year 1. -/
def instant (t : CivilSecond) : ℕ :=
  ordinal t.year t.month t.day * 86400 + t.hour * 3600 + t.minute * 60 + t.second

/-- The last second of the year 9999. -/
def maxInstant : ℕ := ordinal 9999 12 31 * 86400 + 86399

/-- The characters of the text. -/
def chars (t : CivilSecond) : List Char :=
  digits 4 t.year ++ '-' :: (digits 2 t.month ++ '-' :: (digits 2 t.day ++ 'T' ::
    (digits 2 t.hour ++ ':' :: (digits 2 t.minute ++ ':' :: (digits 2 t.second ++ ['Z'])))))

/-- The text in the format `%Y-%m-%dT%H:%M:%SZ`. -/
def text (t : CivilSecond) : String := String.ofList t.chars

/-- The second with the given numbers. -/
def ofNumbers (year month day hour minute second : ℕ) : Option CivilSecond :=
  if h : isCivil year month day hour minute second then some ⟨_, _, _, _, _, _, h⟩ else none

/-- The numbers of a text, read at their positions. -/
def readChars : List Char → Option CivilSecond
  | [y₁, y₂, y₃, y₄, _, m₁, m₂, _, d₁, d₂, _, h₁, h₂, _, n₁, n₂, _, s₁, s₂, _] =>
      ofNumbers (readNumber [y₁, y₂, y₃, y₄]) (readNumber [m₁, m₂]) (readNumber [d₁, d₂])
        (readNumber [h₁, h₂]) (readNumber [n₁, n₂]) (readNumber [s₁, s₂])
  | _ => none

/-- The second that a text in this format stands for: the text of the second read from it is
compared with it. -/
def parse (text : String) : Option CivilSecond :=
  (readChars text.toList).filter fun t => t.text = text

variable {a b t : CivilSecond}

theorem bounds (t : CivilSecond) :
    1 ≤ t.year ∧ t.year ≤ 9999 ∧ 1 ≤ t.month ∧ t.month ≤ 12 ∧ 1 ≤ t.day ∧
      t.day ≤ daysInMonth t.year t.month ∧ t.hour < 24 ∧ t.minute < 60 ∧ t.second < 60 := by
  simpa only [isCivil, decide_eq_true_eq] using t.valid

theorem day_lt (t : CivilSecond) : t.day < 10 ^ 2 := by
  obtain ⟨-, -, -, -, -, hday, -⟩ := t.bounds
  unfold daysInMonth at hday
  split_ifs at hday <;> omega

theorem ofNumbers_self (t : CivilSecond) :
    ofNumbers t.year t.month t.day t.hour t.minute t.second = some t := by
  rw [ofNumbers, dif_pos t.valid]

theorem readChars_chars (t : CivilSecond) : readChars t.chars = some t := by
  have hday := t.day_lt
  obtain ⟨-, hyear, -, hmonth, -, -, hhour, hminute, hsecond⟩ := t.bounds
  change ofNumbers (readNumber (digits 4 t.year)) (readNumber (digits 2 t.month))
    (readNumber (digits 2 t.day)) (readNumber (digits 2 t.hour)) (readNumber (digits 2 t.minute))
    (readNumber (digits 2 t.second)) = some t
  rw [readNumber_digits (by omega), readNumber_digits (by omega), readNumber_digits hday,
    readNumber_digits (by omega), readNumber_digits (by omega), readNumber_digits (by omega),
    ofNumbers_self]

@[simp] theorem parse_text (t : CivilSecond) : parse t.text = some t := by
  rw [parse, text, String.toList_ofList, readChars_chars, Option.filter_some,
    if_pos (by simp [text])]

theorem parse_eq_some {text : String} : parse text = some t ↔ t.text = text := by
  constructor
  · intro h
    simpa using (Option.filter_eq_some_iff.mp h).2
  · rintro rfl
    exact parse_text t

theorem text_injective (h : a.text = b.text) : a = b := by
  have hb := parse_text b
  rw [← h, parse_text, Option.some.injEq] at hb
  exact hb

/-! ## Order -/

/-- The second that comes first in the calendar. -/
def Before (a b : CivilSecond) : Prop :=
  a.year < b.year ∨ a.year = b.year ∧ (a.month < b.month ∨ a.month = b.month ∧
    (a.day < b.day ∨ a.day = b.day ∧ (a.hour < b.hour ∨ a.hour = b.hour ∧
      (a.minute < b.minute ∨ a.minute = b.minute ∧ a.second < b.second))))

theorem before_trichotomy (a b : CivilSecond) : a.Before b ∨ a = b ∨ b.Before a := by
  have hext : a = b ↔ a.year = b.year ∧ a.month = b.month ∧ a.day = b.day ∧ a.hour = b.hour ∧
      a.minute = b.minute ∧ a.second = b.second := by
    cases a
    cases b
    simp
  rw [hext]
  unfold Before
  omega

theorem ordinal_lt_of_year_lt (h : a.year < b.year) :
    ordinal a.year a.month a.day < ordinal b.year b.month b.day := by
  obtain ⟨hyear, -, hmonth, hmonth', -, hday, -⟩ := a.bounds
  obtain ⟨-, -, -, -, hday', -⟩ := b.bounds
  have hrest := daysBeforeMonth_add_le hmonth (Nat.lt_succ_of_le hmonth') hday
  have hnext := daysBeforeYear_mono (Nat.le_add_left 1 a.year) (Nat.succ_le_of_lt h)
  rw [daysBeforeYear_succ _ hyear] at hnext
  rw [Nat.succ_eq_add_one, daysBeforeMonth_thirteen] at hrest
  unfold ordinal
  omega

theorem ordinal_lt_of_month_lt (hyear : a.year = b.year) (h : a.month < b.month) :
    ordinal a.year a.month a.day < ordinal b.year b.month b.day := by
  obtain ⟨-, -, hmonth, -, -, hday, -⟩ := a.bounds
  obtain ⟨-, -, -, -, hday', -⟩ := b.bounds
  have hrest := daysBeforeMonth_add_le hmonth h hday
  unfold ordinal
  rw [← hyear]
  omega

theorem Before.instant_lt (h : a.Before b) : a.instant < b.instant := by
  obtain ⟨-, -, -, -, -, -, hhour, hminute, hsecond⟩ := a.bounds
  unfold instant
  rcases h with hyear | ⟨hyear, hmonth | ⟨hmonth, hday⟩⟩
  · have := ordinal_lt_of_year_lt hyear
    omega
  · have := ordinal_lt_of_month_lt hyear hmonth
    omega
  · have hordinal (d : ℕ) : ordinal a.year a.month d = ordinal b.year b.month 0 + d := by
      rw [hyear, hmonth]
      rfl
    have hordinal' : ordinal b.year b.month b.day = ordinal b.year b.month 0 + b.day := rfl
    rw [hordinal, hordinal']
    omega

theorem Before.text_lt (h : a.Before b) : a.text < b.text := by
  have hday := b.day_lt
  obtain ⟨-, hyear', -, hmonth', -, -, hhour', hminute', hsecond'⟩ := b.bounds
  rw [String.lt_iff_toList_lt, text, text, String.toList_ofList, String.toList_ofList, chars, chars]
  have hskip {cs ds es : List Char} {c : Char} (h : ds < es) : cs ++ c :: ds < cs ++ c :: es :=
    List.append_left_lt (List.cons_lt_cons_self.mpr h)
  rcases h with h | ⟨heq, h⟩
  · exact digits_append_lt (by omega) h _ _
  rw [heq]
  apply hskip
  rcases h with h | ⟨heq, h⟩
  · exact digits_append_lt (by omega) h _ _
  rw [heq]
  apply hskip
  rcases h with h | ⟨heq, h⟩
  · exact digits_append_lt hday h _ _
  rw [heq]
  apply hskip
  rcases h with h | ⟨heq, h⟩
  · exact digits_append_lt (by omega) h _ _
  rw [heq]
  apply hskip
  rcases h with h | ⟨heq, h⟩
  · exact digits_append_lt (by omega) h _ _
  rw [heq]
  apply hskip
  exact digits_append_lt (by omega) h _ _

/-- Instants are ordered like the calendar. -/
theorem before_iff : a.Before b ↔ a.instant < b.instant := by
  refine ⟨Before.instant_lt, fun h => ?_⟩
  rcases before_trichotomy a b with hab | rfl | hba
  · exact hab
  · exact absurd h (lt_irrefl _)
  · exact absurd (h.trans hba.instant_lt) (lt_irrefl _)

/-- Texts are ordered like the instants. -/
theorem text_lt_iff : a.text < b.text ↔ a.instant < b.instant := by
  rw [← before_iff]
  refine ⟨fun h => ?_, Before.text_lt⟩
  rcases before_trichotomy a b with hab | rfl | hba
  · exact hab
  · exact absurd h (lt_irrefl _)
  · exact absurd (h.trans hba.text_lt) (lt_irrefl _)

theorem text_le_iff : a.text ≤ b.text ↔ a.instant ≤ b.instant := by
  rw [← not_lt, text_lt_iff, not_lt]

theorem instant_injective (h : a.instant = b.instant) : a = b := by
  rcases before_trichotomy a b with hab | hab | hba
  · exact absurd hab.instant_lt h.not_lt
  · exact hab
  · exact absurd hba.instant_lt h.not_gt

end CivilSecond

end AtlasOS
