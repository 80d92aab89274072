import Guildhall.Text.Number

/-!
The proleptic Gregorian calendar. Days are numbered from the first of January 1970; years are
counted from March so that the leap day is the last of its year.
-/

set_option autoImplicit false

namespace Guildhall

structure Date where
  year : Int
  month : Nat
  day : Nat
  deriving Repr, DecidableEq, Inhabited

namespace Date

def isLeapYear (year : Int) : Bool :=
  year % 4 == 0 && (year % 100 != 0 || year % 400 == 0)

def daysInMonth (year : Int) (month : Nat) : Nat :=
  match month with
  | 2 => if isLeapYear year then 29 else 28
  | 4 | 6 | 9 | 11 => 30
  | _ => 31

/-- The dates of the years that the calendar holds. -/
def isValid (d : Date) : Bool :=
  -9999 ≤ d.year && d.year ≤ 9999 && 1 ≤ d.month && d.month ≤ 12 && 1 ≤ d.day &&
    d.day ≤ daysInMonth d.year d.month

/-- Days of a year that begins in March before its month `m`, counted from zero. -/
def daysBeforeMonth (m : Nat) : Nat := (153 * m + 2) / 5

/-- The number of days from the first of January 1970. -/
def dayNumber (d : Date) : Int :=
  let year := if d.month ≤ 2 then d.year - 1 else d.year
  let month := if d.month ≤ 2 then d.month + 9 else d.month - 3
  365 * year + year / 4 - year / 100 + year / 400 + (daysBeforeMonth month + d.day : Nat) - 719469

/-- The date of a day number. -/
def ofDayNumber (n : Int) : Date :=
  let fromMarch := n + 719468
  let era := fromMarch / 146097
  let dayOfEra := (fromMarch % 146097).toNat
  let yearOfEra := (dayOfEra - dayOfEra / 1460 + dayOfEra / 36524 - dayOfEra / 146096) / 365
  let dayOfYear := dayOfEra - (365 * yearOfEra + yearOfEra / 4 - yearOfEra / 100)
  let month := (5 * dayOfYear + 2) / 153
  { year := era * 400 + yearOfEra + if month < 10 then 0 else 1
    month := if month < 10 then month + 3 else month - 9
    day := dayOfYear - daysBeforeMonth month + 1 }

/-- Reads a number of exactly `count` ASCII digits, and what follows it. -/
def digits? (count : Nat) (s : List Char) : Option (Nat × List Char) := do
  let head := s.take count
  if head.length = count then
    let n ← Text.natural? head
    some (n, s.drop count)
  else none

/-- Reads one given character, and what follows it. -/
def char? (c : Char) : List Char → Option (List Char)
  | d :: s => if c = d then some s else none
  | [] => none

/-- Reads `YYYY-MM-DD`, which a sign may precede. -/
def parse? (s : List Char) : Option Date := do
  let (negative, s) := match s with
    | '-' :: t => (true, t)
    | '+' :: t => (false, t)
    | t => (false, t)
  let (year, s) ← digits? 4 s
  let s ← char? '-' s
  let (month, s) ← digits? 2 s
  let s ← char? '-' s
  let (day, s) ← digits? 2 s
  let date : Date := { year := if negative then -(year : Int) else year, month, day }
  if s.isEmpty && date.isValid then some date else none

/-- How many days lie between two dates, in either order. -/
def daysBetween (a b : Date) : Nat := (a.dayNumber - b.dayNumber).natAbs

end Date

end Guildhall
