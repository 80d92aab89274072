import Guildhall.Time.Calendar
import Mathlib.Order.Monotone.Basic

/-!
The calendar. Days and dates stand for each other: the date of a day number has that number
(`Date.dayNumber_ofDayNumber`) and is a date of the calendar if its year is
(`Date.isValid_ofDayNumber`). Both rest on the days of one era of 400 years, where the year of a
day is found by a division that the leap days are taken out of first.
-/

set_option autoImplicit false

namespace Guildhall.Date

/-! ### An era of 400 years -/

/-- The days of an era before one of its years, which begin in March. -/
def daysBeforeYear (year : Nat) : Nat := 365 * year + year / 4 - year / 100

/-- The leap day at the end of a year of an era, if there is one. -/
def leapDays (year : Nat) : Nat := if isLeapYear (year + 1 : Nat) then 1 else 0

/-- The days of an era up to a day, but for the leap days among them. -/
def commonDays (day : Nat) : Nat := day - day / 1460 + day / 36524 - day / 146096

theorem commonDays_mono : Monotone commonDays := by
  refine monotone_nat_of_le_succ fun day ↦ ?_
  simp only [commonDays]
  omega

/-- At the first day of a year as many common days have passed as the years before it have, and at
the last not as many as with that year. -/
theorem commonDays_of_year : ∀ year < 400,
    commonDays (daysBeforeYear year - 1) < 365 * year + (if year = 0 then 1 else 0) ∧
      365 * (year + 1) ≤ commonDays (daysBeforeYear year + 365 + leapDays year) := by
  decide +kernel

variable {day : Nat}

theorem year_lt (hday : day < 146097) : commonDays day / 365 < 400 := by
  have hle : commonDays day ≤ commonDays 146096 := commonDays_mono (by omega)
  have hlast : commonDays 146096 = 145999 := rfl
  omega

/-- The year of a day begins at that day or before it. -/
theorem daysBeforeYear_le (hday : day < 146097) : daysBeforeYear (commonDays day / 365) ≤ day := by
  by_contra hlt
  have hpassed := (commonDays_of_year _ (year_lt hday)).1
  generalize hyear : commonDays day / 365 = year at hlt hpassed
  rcases Nat.eq_zero_or_pos year with rfl | hpos
  · exact hlt (Nat.zero_le day)
  · have hle : commonDays day ≤ commonDays (daysBeforeYear year - 1) :=
      commonDays_mono (by omega)
    rw [if_neg hpos.ne'] at hpassed
    omega

/-- The year of a day ends after that day. -/
theorem lt_daysAfterYear (hday : day < 146097) :
    day < daysBeforeYear (commonDays day / 365) + 365 + leapDays (commonDays day / 365) := by
  by_contra hle
  have hpassed := (commonDays_of_year _ (year_lt hday)).2
  have hmono := commonDays_mono (not_lt.mp hle)
  omega

/-! ### A year -/

/-- The month of a day of a year, counted from March. -/
def monthOfDay (day : Nat) : Nat := (5 * day + 2) / 153

/-- The day of the month of a day of a year. -/
def dayOfMonth (day : Nat) : Nat := day - daysBeforeMonth (monthOfDay day) + 1

/-- The month of the calendar of a month that is counted from March. -/
def calendarMonth (month : Nat) : Nat := if month < 10 then month + 3 else month - 9

theorem calendarMonth_spec {month : Nat} (hmonth : month < 12) :
    1 ≤ calendarMonth month ∧ calendarMonth month ≤ 12 ∧
      (calendarMonth month ≤ 2 ↔ 10 ≤ month) ∧
      (if calendarMonth month ≤ 2 then calendarMonth month + 9 else calendarMonth month - 3) =
        month := by
  revert month
  decide

theorem monthOfDay_lt (hday : day < 366) : monthOfDay day < 12 := by
  simp only [monthOfDay]
  omega

theorem daysBeforeMonth_le (day : Nat) : daysBeforeMonth (monthOfDay day) ≤ day := by
  simp only [monthOfDay, daysBeforeMonth]
  omega

/-- Whether a year is a leap year decides the lengths of its months. -/
theorem daysInMonth_congr {year year' : Int} (hleap : isLeapYear year = isLeapYear year')
    (month : Nat) : daysInMonth year month = daysInMonth year' month := by
  simp only [daysInMonth, hleap]

/-- A month other than February has one length in every year. -/
theorem daysInMonth_of_ne {month : Nat} (hmonth : month ≠ 2) (year year' : Int) :
    daysInMonth year month = daysInMonth year' month := by
  unfold daysInMonth
  split
  · exact absurd rfl hmonth
  all_goals rfl

/-- Eras are alike in their leap years. -/
theorem isLeapYear_add (era year : Int) : isLeapYear (era * 400 + year) = isLeapYear year := by
  rw [isLeapYear, isLeapYear, Bool.eq_iff_iff]
  simp only [Bool.and_eq_true, Bool.or_eq_true, beq_iff_eq, bne_iff_ne]
  omega

/-- The last day of February is the last day of a leap year alone. -/
theorem dayOfMonth_le_daysInMonth : ∀ day < 366, ∀ year ∈ [(2000 : Int), 2001],
    day < 365 + (if isLeapYear year then 1 else 0) →
      dayOfMonth day ≤ daysInMonth year (calendarMonth (monthOfDay day)) := by
  decide +kernel

theorem dayOfMonth_le {year : Int} (hday : day < 365 + if isLeapYear year then 1 else 0) :
    dayOfMonth day ≤ daysInMonth year (calendarMonth (monthOfDay day)) := by
  cases hleap : isLeapYear year with
  | true =>
    rw [hleap, if_pos rfl] at hday
    rw [daysInMonth_congr (hleap.trans (by decide : true = isLeapYear 2000))]
    exact dayOfMonth_le_daysInMonth day hday 2000 (by decide) hday
  | false =>
    rw [hleap, if_neg Bool.false_ne_true] at hday
    rw [daysInMonth_congr (hleap.trans (by decide : false = isLeapYear 2001))]
    exact dayOfMonth_le_daysInMonth day (by omega) 2001 (by decide) hday

/-! ### Day numbers -/

/-- The era that a day number is in. -/
def era (n : Int) : Int := (n + 719468) / 146097

/-- The day of the era that a day number stands for. -/
def dayOfEra (n : Int) : Nat := ((n + 719468) % 146097).toNat

/-- The year of the era that a day number is in. -/
def yearOfEra (n : Int) : Nat := commonDays (dayOfEra n) / 365

/-- The day of the year that a day number stands for. -/
def dayOfYear (n : Int) : Nat := dayOfEra n - daysBeforeYear (yearOfEra n)

theorem dayOfEra_lt (n : Int) : dayOfEra n < 146097 := by
  simp only [dayOfEra]
  omega

theorem ofDayNumber_eq (n : Int) :
    ofDayNumber n =
      { year := era n * 400 + yearOfEra n + if monthOfDay (dayOfYear n) < 10 then 0 else 1
        month := calendarMonth (monthOfDay (dayOfYear n))
        day := dayOfMonth (dayOfYear n) } := rfl

theorem dayOfYear_lt (n : Int) : dayOfYear n < 365 + leapDays (yearOfEra n) := by
  have hlt := lt_daysAfterYear (dayOfEra_lt n)
  have hle := daysBeforeYear_le (dayOfEra_lt n)
  simp only [dayOfYear, yearOfEra]
  omega

theorem leapDays_le (year : Nat) : leapDays year ≤ 1 := by
  simp only [leapDays]
  split_ifs <;> decide

/-- The year that a date is in if years begin in March. -/
def marchYear (d : Date) : Int := if d.month ≤ 2 then d.year - 1 else d.year

/-- The month that a date is in if months are counted from March. -/
def marchMonth (d : Date) : Nat := if d.month ≤ 2 then d.month + 9 else d.month - 3

theorem dayNumber_eq (d : Date) :
    d.dayNumber = 365 * d.marchYear + d.marchYear / 4 - d.marchYear / 100 + d.marchYear / 400 +
      (daysBeforeMonth d.marchMonth + d.day : Nat) - 719469 := rfl

theorem dayOfYear_lt_366 (n : Int) : dayOfYear n < 366 := by
  have hlt := dayOfYear_lt n
  have hleap := leapDays_le (yearOfEra n)
  omega

theorem marchMonth_ofDayNumber (n : Int) :
    (ofDayNumber n).marchMonth = monthOfDay (dayOfYear n) := by
  obtain ⟨-, -, -, hmonth⟩ := calendarMonth_spec (monthOfDay_lt (dayOfYear_lt_366 n))
  exact hmonth

theorem marchYear_ofDayNumber (n : Int) :
    (ofDayNumber n).marchYear = era n * 400 + yearOfEra n := by
  obtain ⟨-, -, hearly, -⟩ := calendarMonth_spec (monthOfDay_lt (dayOfYear_lt_366 n))
  rw [marchYear, ofDayNumber_eq]
  dsimp only
  by_cases hlate : 10 ≤ monthOfDay (dayOfYear n)
  · rw [if_pos (hearly.mpr hlate), if_neg (by omega)]
    omega
  · rw [if_neg (mt hearly.mp hlate), if_pos (by omega)]
    omega

/-- Days and dates stand for each other. -/
theorem dayNumber_ofDayNumber (n : Int) : (ofDayNumber n).dayNumber = n := by
  have hyear : yearOfEra n < 400 := year_lt (dayOfEra_lt n)
  have hstart : daysBeforeYear (yearOfEra n) ≤ dayOfEra n := daysBeforeYear_le (dayOfEra_lt n)
  have hera : era n * 146097 + dayOfEra n = n + 719468 := by
    simp only [era, dayOfEra]
    omega
  have hdays : daysBeforeMonth (monthOfDay (dayOfYear n)) + (ofDayNumber n).day =
      dayOfYear n + 1 := by
    have hbefore := daysBeforeMonth_le (dayOfYear n)
    rw [ofDayNumber_eq]
    simp only [dayOfMonth]
    omega
  rw [dayNumber_eq, marchYear_ofDayNumber, marchMonth_ofDayNumber, hdays]
  simp only [dayOfYear, daysBeforeYear] at hstart ⊢
  omega

/-- The date of a day number is one of the calendar, if its year is. -/
theorem isValid_ofDayNumber {n : Int} (hfirst : -9999 ≤ (ofDayNumber n).year)
    (hlast : (ofDayNumber n).year ≤ 9999) : (ofDayNumber n).isValid = true := by
  have hlt := dayOfYear_lt n
  obtain ⟨hpos, hle, -, -⟩ := calendarMonth_spec (monthOfDay_lt (dayOfYear_lt_366 n))
  have hlength : (ofDayNumber n).day ≤ daysInMonth (ofDayNumber n).year (ofDayNumber n).month := by
    have hend : dayOfYear n < 365 +
        if isLeapYear (era n * 400 + yearOfEra n + 1) then 1 else 0 := by
      rwa [Int.add_assoc, isLeapYear_add]
    rw [ofDayNumber_eq]
    dsimp only
    split_ifs with hearly
    · have hmonth : calendarMonth (monthOfDay (dayOfYear n)) ≠ 2 := by
        rw [calendarMonth, if_pos hearly]
        omega
      rw [daysInMonth_of_ne hmonth _ (era n * 400 + yearOfEra n + 1)]
      exact dayOfMonth_le hend
    · exact dayOfMonth_le hend
  simp only [isValid, Bool.and_eq_true, decide_eq_true_eq]
  exact ⟨⟨⟨⟨⟨hfirst, hlast⟩, hpos⟩, hle⟩, Nat.le_add_left 1 _⟩, hlength⟩

end Guildhall.Date
