import Guildhall.Time.Basic
import Guildhall.Time.Calendar

/-!
Timestamps in the form of RFC 3339: an instant and the offset from UTC at which it is written.
Written years have four digits, a fraction of a second is written without trailing zeros, and
`Z` stands for no offset. Readers take any character between date and time, and a leap second at
the end of a month as the nanosecond before it.
-/

set_option autoImplicit false

namespace Guildhall

/-- An instant and the minutes that the clock it was written by is ahead of UTC. -/
structure Timestamp where
  instant : Instant
  offset : Int := 0
  deriving Repr, DecidableEq, Inhabited

namespace Timestamp

def secondsPerDay : Int := 86400

/-- The last `count` decimal digits of `n`. -/
def padded (count n : Nat) : String :=
  let digits := toString (n % Nat.pow 10 count)
  String.ofList (List.replicate (count - digits.length) '0') ++ digits

/-- Drops the zeros that a fraction ends in. -/
def fraction (nanos : Nat) : String :=
  if nanos = 0 then ""
  else "." ++ String.ofList ((padded 9 nanos).toList.reverse.dropWhile (· == '0')).reverse

def zone (offset : Int) : String :=
  if offset = 0 then "Z"
  else
    let size := offset.natAbs
    (if offset < 0 then "-" else "+") ++ padded 2 (size / 60) ++ ":" ++ padded 2 (size % 60)

/-- The written form; there is none for a year outside 0 to 9999 or an offset of a day. -/
def format? (t : Timestamp) : Option String :=
  let seconds := t.instant.seconds + 60 * t.offset
  let date := Date.ofDayNumber (seconds.fdiv secondsPerDay)
  let second := (seconds.fmod secondsPerDay).toNat
  if 0 ≤ date.year ∧ date.year ≤ 9999 ∧ t.offset.natAbs < 24 * 60 then
    some (padded 4 date.year.toNat ++ "-" ++ padded 2 date.month ++ "-" ++ padded 2 date.day ++
      "T" ++ padded 2 (second / 3600) ++ ":" ++ padded 2 (second / 60 % 60) ++ ":" ++
      padded 2 (second % 60) ++ fraction t.instant.subsecond ++ zone t.offset)
  else none

/-- Reads the digits of a fraction of a second; those beyond the ninth count for nothing. -/
def readFraction (s : List Char) : Option (Nat × List Char) :=
  match s with
  | '.' :: t =>
    let digits := t.takeWhile Text.isAsciiDigit
    if digits.isEmpty then none
    else some (Text.digitsValue ((digits ++ List.replicate 9 '0').take 9), t.drop digits.length)
  | t => some (0, t)

/-- Reads an offset in minutes: `Z` or a signed `hh:mm` of at most 25 hours and 59 minutes. -/
def readZone (s : List Char) : Option (Int × List Char) :=
  match s with
  | 'Z' :: t | 'z' :: t => some (0, t)
  | sign :: t => do
    if sign = '+' ∨ sign = '-' then
      let (hours, t) ← Date.digits? 2 t
      let t ← Date.char? ':' t
      let (minutes, t) ← Date.digits? 2 t
      if hours ≤ 25 ∧ minutes ≤ 59 then
        let size : Int := (60 * hours + minutes : Nat)
        some (if sign = '-' then -size else size, t)
      else none
    else none
  | [] => none

/-- Any one ASCII character stands between date and time. -/
def separator? (s : List Char) : Option (List Char) :=
  match s with
  | c :: t => if c.toNat < 128 then some t else none
  | [] => none

def parse? (s : List Char) : Option Timestamp := do
  let (year, s) ← Date.digits? 4 s
  let s ← Date.char? '-' s
  let (month, s) ← Date.digits? 2 s
  let s ← Date.char? '-' s
  let (day, s) ← Date.digits? 2 s
  let s ← separator? s
  let (hour, s) ← Date.digits? 2 s
  let s ← Date.char? ':' s
  let (minute, s) ← Date.digits? 2 s
  let s ← Date.char? ':' s
  let (second, s) ← Date.digits? 2 s
  let (nanos, s) ← readFraction s
  let (offset, s) ← readZone s
  let date : Date := { year, month, day }
  let isLeap := second == 60
  let second := if isLeap then 59 else second
  let nanos := if isLeap then nanosPerSecond - 1 else nanos
  if s.isEmpty && date.isValid && hour < 24 && minute < 60 && second < 60 then
    let seconds := date.dayNumber * secondsPerDay + (3600 * hour + 60 * minute + second : Nat) -
      60 * offset
    let utc := Date.ofDayNumber (seconds.fdiv secondsPerDay)
    let endsMonth := seconds.fmod secondsPerDay == secondsPerDay - 1 &&
      utc.day == Date.daysInMonth utc.year utc.month
    if isLeap && !endsMonth then none else some ⟨.ofParts seconds nanos, offset⟩
  else none

end Timestamp

end Guildhall
