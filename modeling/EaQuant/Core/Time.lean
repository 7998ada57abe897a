import Mathlib.Algebra.GroupWithZero.Nat
import Mathlib.Data.Prod.Lex
import Mathlib.Tactic.Common

/-!
# Canonical UTC instants

A `datetime` that has passed `require_utc` (`core/time.py`): its fields, its text, and its place on
the time line. `instant` counts microseconds from the start of year 1, so that the difference of two
values is the difference of their instants, and `text` is the canonical wire form.
-/

namespace EaQuant

/-- Whether a year has a leap day. -/
def isLeapYear (year : ℕ) : Bool := year % 4 = 0 && (year % 100 ≠ 0 || year % 400 = 0)

/-- The days of a month. -/
def daysInMonth (year : ℕ) : ℕ → ℕ
  | 2 => if isLeapYear year then 29 else 28
  | 4 | 6 | 9 | 11 => 30
  | _ => 31

theorem daysInMonth_le (year month : ℕ) : daysInMonth year month ≤ 31 := by
  unfold daysInMonth
  split
  · split_ifs <;> decide
  all_goals decide

/-- An exact `datetime` in UTC. -/
structure Datetime where
  year : ℕ
  month : ℕ
  day : ℕ
  hour : ℕ
  minute : ℕ
  second : ℕ
  microsecond : ℕ
  valid : (1 ≤ year ∧ year ≤ 9999) ∧ (1 ≤ month ∧ month ≤ 12) ∧
    (1 ≤ day ∧ day ≤ daysInMonth year month) ∧ hour < 24 ∧ minute < 60 ∧ second < 60 ∧
    microsecond < 1000000
  deriving DecidableEq

/-- A `datetime` as a caller gives it: its fields, and its offset from UTC in microseconds unless it
has no zone. -/
structure OffsetDatetime where
  fields : Datetime
  utcOffset : Option ℤ
  deriving DecidableEq

/-- `require_utc`: the fields of a time with the offset of UTC, or the text of its error. -/
def requireUtc (value : OffsetDatetime) (field : String) : Except String Datetime :=
  if value.utcOffset = some 0 then .ok value.fields
  else .error s!"{field} must be timezone-aware UTC"

namespace Datetime

/-- A number with leading zeros. -/
def padded (width value : ℕ) : List Char :=
  let digits := Nat.toDigits 10 value
  List.replicate (width - digits.length) '0' ++ digits

/-- The characters of `text`. -/
def characters (time : Datetime) : List Char :=
  padded 4 time.year ++ '-' :: (padded 2 time.month ++ '-' :: (padded 2 time.day ++
    'T' :: (padded 2 time.hour ++ ':' :: (padded 2 time.minute ++ ':' :: (padded 2 time.second ++
      '.' :: (padded 6 time.microsecond ++ ['Z']))))))

/-- `%Y-%m-%dT%H:%M:%S.%fZ`, with the year in four digits as `%Y` is documented. -/
def text (time : Datetime) : String := String.ofList time.characters

/-- The days before a month of a year. -/
def daysBeforeMonth (year month : ℕ) : ℕ :=
  ((List.range (month - 1)).map fun before ↦ daysInMonth year (before + 1)).sum

/-- The days before a year. -/
def daysBeforeYear (year : ℕ) : ℕ :=
  (year - 1) * 365 + (year - 1) / 4 - (year - 1) / 100 + (year - 1) / 400

/-- Microseconds since the start of year 1. -/
def instant (time : Datetime) : ℕ :=
  let days := daysBeforeYear time.year + daysBeforeMonth time.year time.month + (time.day - 1)
  (((days * 24 + time.hour) * 60 + time.minute) * 60 + time.second) * 1000000 + time.microsecond

/-! ### Reading a text -/

/-- A number of a fixed width at the front of a text, and the text behind it. -/
def readNumber (width : ℕ) (input : List Char) : Option (ℕ × List Char) :=
  if (input.take width).length = width ∧ (input.take width).all Char.isDigit then
    some (Nat.ofDigitChars 10 (input.take width) 0, input.drop width)
  else none

/-- The text behind a given character. -/
def readMark (mark : Char) : List Char → Option (List Char)
  | [] => none
  | head :: rest => if head = mark then some rest else none

/-- The instant that a canonical text denotes. -/
def readText (input : List Char) : Option Datetime := do
  let (year, rest) ← readNumber 4 input
  let rest ← readMark '-' rest
  let (month, rest) ← readNumber 2 rest
  let rest ← readMark '-' rest
  let (day, rest) ← readNumber 2 rest
  let rest ← readMark 'T' rest
  let (hour, rest) ← readNumber 2 rest
  let rest ← readMark ':' rest
  let (minute, rest) ← readNumber 2 rest
  let rest ← readMark ':' rest
  let (second, rest) ← readNumber 2 rest
  let rest ← readMark '.' rest
  let (microsecond, rest) ← readNumber 6 rest
  if rest = ['Z'] then
    if h : (1 ≤ year ∧ year ≤ 9999) ∧ (1 ≤ month ∧ month ≤ 12) ∧
        (1 ≤ day ∧ day ≤ daysInMonth year month) ∧ hour < 24 ∧ minute < 60 ∧ second < 60 ∧
        microsecond < 1000000 then
      some ⟨year, month, day, hour, minute, second, microsecond, h⟩
    else none
  else none

variable {value width year : ℕ} {mark : Char} {first second : Datetime}

theorem length_padded (hwidth : 0 < width) (h : value < 10 ^ width) :
    (padded width value).length = width := by
  have hle : (Nat.toDigits 10 value).length ≤ width :=
    (Nat.length_toDigits_le_iff (by decide) hwidth).mpr h
  simp only [padded, List.length_append, List.length_replicate]
  omega

theorem isDigit_of_mem_padded {character : Char}
    (h : character ∈ padded width value) : character.isDigit = true := by
  rcases List.mem_append.mp h with hzero | hdigit
  · rw [(List.mem_replicate.mp hzero).2]
    rfl
  · exact Nat.isDigit_of_mem_toDigits (by decide) (by decide) hdigit

/-- A padded number is read back. -/
theorem readNumber_padded (hwidth : 0 < width) (h : value < 10 ^ width)
    (rest : List Char) : readNumber width (padded width value ++ rest) = some (value, rest) := by
  have hlength := length_padded hwidth h
  have htake : (padded width value ++ rest).take width = padded width value :=
    List.take_left' hlength
  have hdrop : (padded width value ++ rest).drop width = rest := List.drop_left' hlength
  have hdigits : (padded width value).all Char.isDigit = true :=
    List.all_eq_true.mpr fun _ hmem ↦ isDigit_of_mem_padded hmem
  have hvalue : Nat.ofDigitChars 10 (padded width value) 0 = value := by
    rw [padded, Nat.ofDigitChars_append, Nat.ofDigitChars_replicate_zero, Nat.mul_zero,
      Nat.ofDigitChars_ten_toDigits]
  unfold readNumber
  rw [htake, hdrop, if_pos ⟨hlength, hdigits⟩, hvalue]

theorem readMark_self (mark : Char) (rest : List Char) : readMark mark (mark :: rest) = some rest :=
  if_pos rfl

/-- The parts of an instant fit the widths of its text. -/
theorem fits_widths (time : Datetime) : time.year < 10 ^ 4 ∧ time.month < 10 ^ 2 ∧
    time.day < 10 ^ 2 ∧ time.hour < 10 ^ 2 ∧ time.minute < 10 ^ 2 ∧ time.second < 10 ^ 2 ∧
      time.microsecond < 10 ^ 6 := by
  obtain ⟨⟨-, hyear⟩, ⟨-, hmonth⟩, ⟨-, hday⟩, hhour, hminute, hsecond, hmicrosecond⟩ := time.valid
  have hdays := daysInMonth_le time.year time.month
  omega

/-- The text of an instant is read back. -/
theorem readText_characters (time : Datetime) : readText time.characters = some time := by
  obtain ⟨hyear, hmonth, hday, hhour, hminute, hsecond, hmicrosecond⟩ := time.fits_widths
  unfold readText characters
  refine Option.bind_eq_some_iff.mpr ⟨_, readNumber_padded (by decide) hyear _, ?_⟩
  refine Option.bind_eq_some_iff.mpr ⟨_, readMark_self _ _, ?_⟩
  refine Option.bind_eq_some_iff.mpr ⟨_, readNumber_padded (by decide) hmonth _, ?_⟩
  refine Option.bind_eq_some_iff.mpr ⟨_, readMark_self _ _, ?_⟩
  refine Option.bind_eq_some_iff.mpr ⟨_, readNumber_padded (by decide) hday _, ?_⟩
  refine Option.bind_eq_some_iff.mpr ⟨_, readMark_self _ _, ?_⟩
  refine Option.bind_eq_some_iff.mpr ⟨_, readNumber_padded (by decide) hhour _, ?_⟩
  refine Option.bind_eq_some_iff.mpr ⟨_, readMark_self _ _, ?_⟩
  refine Option.bind_eq_some_iff.mpr ⟨_, readNumber_padded (by decide) hminute _, ?_⟩
  refine Option.bind_eq_some_iff.mpr ⟨_, readMark_self _ _, ?_⟩
  refine Option.bind_eq_some_iff.mpr ⟨_, readNumber_padded (by decide) hsecond _, ?_⟩
  refine Option.bind_eq_some_iff.mpr ⟨_, readMark_self _ _, ?_⟩
  refine Option.bind_eq_some_iff.mpr ⟨_, readNumber_padded (by decide) hmicrosecond _, ?_⟩
  exact (if_pos rfl).trans (dif_pos time.valid)

/-- An instant is determined by its text. -/
theorem text_injective : Function.Injective text := by
  intro first second h
  have hread := congrArg readText (String.ofList_injective h)
  rw [readText_characters, readText_characters] at hread
  exact Option.some.inj hread

example : (⟨2024, 2, 29, 23, 59, 58, 7, by decide⟩ : Datetime).text =
    "2024-02-29T23:59:58.000007Z" := by decide

/-! ### Reading with fewer digits -/

/-- A number of at most a width at the front of a text, and the text behind it. -/
def readDigits (width : ℕ) (input : List Char) : Option (ℕ × List Char) :=
  let digits := input.takeWhile Char.isDigit
  if 1 ≤ digits.length ∧ digits.length ≤ width then
    some (Nat.ofDigitChars 10 digits 0, input.dropWhile Char.isDigit)
  else none

/-- `%f`: one to six decimal places of a second. -/
def readFraction (input : List Char) : Option (ℕ × List Char) := do
  let (value, rest) ← readDigits 6 input
  some (value * 10 ^ (6 - (input.takeWhile Char.isDigit).length), rest)

/-- `strptime` with the format of `text`: only the year must have all of its digits. -/
def strptime (input : List Char) : Option Datetime := do
  let (year, rest) ← readNumber 4 input
  let rest ← readMark '-' rest
  let (month, rest) ← readDigits 2 rest
  let rest ← readMark '-' rest
  let (day, rest) ← readDigits 2 rest
  let rest ← readMark 'T' rest
  let (hour, rest) ← readDigits 2 rest
  let rest ← readMark ':' rest
  let (minute, rest) ← readDigits 2 rest
  let rest ← readMark ':' rest
  let (second, rest) ← readDigits 2 rest
  let rest ← readMark '.' rest
  let (microsecond, rest) ← readFraction rest
  if rest = ['Z'] then
    if h : (1 ≤ year ∧ year ≤ 9999) ∧ (1 ≤ month ∧ month ≤ 12) ∧
        (1 ≤ day ∧ day ≤ daysInMonth year month) ∧ hour < 24 ∧ minute < 60 ∧ second < 60 ∧
        microsecond < 1000000 then
      some ⟨year, month, day, hour, minute, second, microsecond, h⟩
    else none
  else none

theorem takeWhile_padded (hmark : mark.isDigit = false)
    (rest : List Char) : (padded width value ++ mark :: rest).takeWhile Char.isDigit =
      padded width value := by
  rw [List.takeWhile_append_of_pos fun _ hmem ↦ isDigit_of_mem_padded hmem,
    List.takeWhile_cons_of_neg (by simp [hmark]), List.append_nil]

theorem readDigits_padded (hwidth : 0 < width)
    (h : value < 10 ^ width) (hmark : mark.isDigit = false) (rest : List Char) :
    readDigits width (padded width value ++ mark :: rest) = some (value, mark :: rest) := by
  have hlength := length_padded hwidth h
  have hdrop : (padded width value ++ mark :: rest).dropWhile Char.isDigit = mark :: rest := by
    rw [List.dropWhile_append_of_pos fun _ hmem ↦ isDigit_of_mem_padded hmem,
      List.dropWhile_cons_of_neg (by simp [hmark])]
  have hvalue : Nat.ofDigitChars 10 (padded width value) 0 = value := by
    rw [padded, Nat.ofDigitChars_append, Nat.ofDigitChars_replicate_zero, Nat.mul_zero,
      Nat.ofDigitChars_ten_toDigits]
  unfold readDigits
  rw [takeWhile_padded hmark, hdrop, if_pos ⟨hlength.symm ▸ hwidth, hlength.le⟩, hvalue]

theorem readFraction_padded (h : value < 10 ^ 6)
    (hmark : mark.isDigit = false) (rest : List Char) :
    readFraction (padded 6 value ++ mark :: rest) = some (value, mark :: rest) := by
  have hlength : ((padded 6 value ++ mark :: rest).takeWhile Char.isDigit).length = 6 := by
    rw [takeWhile_padded hmark, length_padded (by decide) h]
  refine Option.bind_eq_some_iff.mpr ⟨_, readDigits_padded (by decide) h hmark rest, ?_⟩
  rw [hlength]
  simp

/-- A canonical text is read as well. -/
theorem strptime_characters (time : Datetime) : strptime time.characters = some time := by
  obtain ⟨hyear, hmonth, hday, hhour, hminute, hsecond, hmicrosecond⟩ := time.fits_widths
  unfold strptime characters
  refine Option.bind_eq_some_iff.mpr ⟨_, readNumber_padded (by decide) hyear _, ?_⟩
  refine Option.bind_eq_some_iff.mpr ⟨_, readMark_self _ _, ?_⟩
  refine Option.bind_eq_some_iff.mpr ⟨_, readDigits_padded (by decide) hmonth (by decide) _, ?_⟩
  refine Option.bind_eq_some_iff.mpr ⟨_, readMark_self _ _, ?_⟩
  refine Option.bind_eq_some_iff.mpr ⟨_, readDigits_padded (by decide) hday (by decide) _, ?_⟩
  refine Option.bind_eq_some_iff.mpr ⟨_, readMark_self _ _, ?_⟩
  refine Option.bind_eq_some_iff.mpr ⟨_, readDigits_padded (by decide) hhour (by decide) _, ?_⟩
  refine Option.bind_eq_some_iff.mpr ⟨_, readMark_self _ _, ?_⟩
  refine Option.bind_eq_some_iff.mpr ⟨_, readDigits_padded (by decide) hminute (by decide) _, ?_⟩
  refine Option.bind_eq_some_iff.mpr ⟨_, readMark_self _ _, ?_⟩
  refine Option.bind_eq_some_iff.mpr ⟨_, readDigits_padded (by decide) hsecond (by decide) _, ?_⟩
  refine Option.bind_eq_some_iff.mpr ⟨_, readMark_self _ _, ?_⟩
  refine Option.bind_eq_some_iff.mpr ⟨_, readFraction_padded hmicrosecond (by decide) _, ?_⟩
  exact (if_pos rfl).trans (dif_pos time.valid)

/-! ### The order of instants

Two values in UTC are compared field by field, and the order is that of their instants. -/

/-- The fields, as they are compared. -/
def fields (time : Datetime) : ℕ ×ₗ ℕ ×ₗ ℕ ×ₗ ℕ ×ₗ ℕ ×ₗ ℕ ×ₗ ℕ :=
  toLex (time.year, toLex (time.month, toLex (time.day, toLex (time.hour, toLex (time.minute,
    toLex (time.second, time.microsecond))))))

theorem fields_injective : Function.Injective fields := by
  rintro ⟨year, month, day, hour, minute, second, microsecond, _⟩
    ⟨year', month', day', hour', minute', second', microsecond', _⟩ h
  simp only [fields, toLex_inj, Prod.mk.injEq] at h
  obtain ⟨rfl, rfl, rfl, rfl, rfl, rfl, rfl⟩ := h
  rfl

instance : LinearOrder Datetime := LinearOrder.lift' fields fields_injective

theorem lt_iff_fields : first < second ↔ first.fields < second.fields :=
  Iff.rfl

theorem daysBeforeMonth_succ {month : ℕ} (h : 1 ≤ month) :
    daysBeforeMonth year (month + 1) = daysBeforeMonth year month + daysInMonth year month := by
  obtain ⟨before, rfl⟩ : ∃ before, month = before + 1 := ⟨month - 1, by omega⟩
  simp [daysBeforeMonth, List.range_succ]

/-- A later month begins behind the end of an earlier one. -/
theorem daysBeforeMonth_lt {month later : ℕ} (h : 1 ≤ month) (hlater : month < later) :
    daysBeforeMonth year month + daysInMonth year month ≤ daysBeforeMonth year later := by
  induction later with
  | zero => omega
  | succ last ih =>
    by_cases heq : month = last
    · rw [heq, daysBeforeMonth_succ (heq ▸ h)]
    · have hle := ih (by omega)
      rw [daysBeforeMonth_succ (by omega)]
      omega

/-- The days of a whole year. -/
theorem daysBeforeMonth_year (year : ℕ) :
    daysBeforeMonth year 13 = if isLeapYear year then 366 else 365 := by
  by_cases hleap : isLeapYear year <;>
    simp [daysBeforeMonth, List.range_succ, daysInMonth, hleap]

theorem daysBeforeYear_succ (h : 1 ≤ year) :
    daysBeforeYear (year + 1) = daysBeforeYear year + daysBeforeMonth year 13 := by
  obtain ⟨before, rfl⟩ : ∃ before, year = before + 1 := ⟨year - 1, by omega⟩
  have hfour : (before + 1) / 4 = before / 4 + if (before + 1) % 4 = 0 then 1 else 0 := by
    split_ifs <;> omega
  have hhundred : (before + 1) / 100 = before / 100 + if (before + 1) % 100 = 0 then 1 else 0 := by
    split_ifs <;> omega
  have hcentury : (before + 1) / 400 = before / 400 + if (before + 1) % 400 = 0 then 1 else 0 := by
    split_ifs <;> omega
  have hle : before / 100 ≤ before / 4 := by omega
  rw [daysBeforeMonth_year]
  simp only [daysBeforeYear, isLeapYear, Nat.add_sub_cancel, hfour, hhundred, hcentury,
    Bool.and_eq_true, Bool.or_eq_true, decide_eq_true_eq]
  split_ifs <;> omega

theorem daysBeforeYear_lt {later : ℕ} (h : 1 ≤ year) (hlater : year < later) :
    daysBeforeYear year + daysBeforeMonth year 13 ≤ daysBeforeYear later := by
  induction later with
  | zero => omega
  | succ last ih =>
    by_cases heq : year = last
    · rw [heq, daysBeforeYear_succ (heq ▸ h)]
    · have hle := ih (by omega)
      rw [daysBeforeYear_succ (by omega)]
      omega

/-- The day of a value, counted from the start of year 1. -/
def dayNumber (time : Datetime) : ℕ :=
  daysBeforeYear time.year + daysBeforeMonth time.year time.month + (time.day - 1)

theorem dayNumber_lt (h : first.year < second.year ∨ first.year = second.year ∧
      (first.month < second.month ∨ first.month = second.month ∧ first.day < second.day)) :
    first.dayNumber < second.dayNumber := by
  obtain ⟨⟨hyear, -⟩, ⟨hmonth, hmonth'⟩, ⟨hday, hday'⟩, -⟩ := first.valid
  obtain ⟨-, -, ⟨hsecond, -⟩, -⟩ := second.valid
  unfold dayNumber
  rcases h with h | ⟨heq, h⟩
  · have hbefore := daysBeforeYear_lt hyear h
    have hwithin : daysBeforeMonth first.year first.month + daysInMonth first.year first.month ≤
        daysBeforeMonth first.year 13 := daysBeforeMonth_lt hmonth (Nat.lt_succ_of_le hmonth')
    omega
  · rw [← heq]
    rcases h with h | ⟨hsame, h⟩
    · have hwithin : daysBeforeMonth first.year first.month + daysInMonth first.year first.month ≤
          daysBeforeMonth first.year second.month := daysBeforeMonth_lt hmonth h
      omega
    · rw [← hsame]
      omega

/-- Values are ordered as their instants are. -/
theorem instant_lt_of_lt (h : first < second) :
    first.instant < second.instant := by
  obtain ⟨-, -, -, hhour, hminute, hsecond, hmicrosecond⟩ := first.valid
  have hday : first.dayNumber < second.dayNumber ∨ first.dayNumber = second.dayNumber ∧
      (first.hour < second.hour ∨ first.hour = second.hour ∧
        (first.minute < second.minute ∨ first.minute = second.minute ∧
          (first.second < second.second ∨ first.second = second.second ∧
            first.microsecond < second.microsecond))) := by
    simp only [lt_iff_fields, fields, Prod.Lex.toLex_lt_toLex] at h
    rcases h with h | ⟨hyear, h | ⟨hmonth, h | ⟨hday, h⟩⟩⟩
    · exact .inl (dayNumber_lt (.inl h))
    · exact .inl (dayNumber_lt (.inr ⟨hyear, .inl h⟩))
    · exact .inl (dayNumber_lt (.inr ⟨hyear, .inr ⟨hmonth, h⟩⟩))
    · exact .inr ⟨by rw [dayNumber, dayNumber, hyear, hmonth, hday], h⟩
  simp only [instant, ← dayNumber.eq_1]
  omega

theorem lt_iff_instant :
    first < second ↔ first.instant < second.instant := by
  constructor
  · exact instant_lt_of_lt
  · intro h
    by_contra hnot
    rcases (not_lt.mp hnot).lt_or_eq with hlt | heq
    · exact absurd (instant_lt_of_lt hlt) (by omega)
    · exact absurd (heq ▸ h) (lt_irrefl _)

end Datetime

end EaQuant
