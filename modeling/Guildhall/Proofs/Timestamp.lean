import Guildhall.Proofs.Calendar
import Guildhall.Proofs.Numeral
import Guildhall.Time.Timestamp
import Mathlib.Data.List.TakeWhile

/-!
Time stamps. What is written for an instant and an offset reads back as that instant at that offset
(`Timestamp.parse?_of_format?`), part by part: numbers of a fixed width, the fraction of a second
without the zeros at its end, and the offset.
-/

set_option autoImplicit false

namespace Guildhall

open Text

/-! ### Numbers of a fixed width -/

namespace Timestamp

theorem toList_padded (count n : Nat) :
    (padded count n).toList =
      List.replicate (count - (Nat.toDigits 10 (n % 10 ^ count)).length) '0' ++
        Nat.toDigits 10 (n % 10 ^ count) := by
  have hlength : (toString (n % 10 ^ count)).length =
      (Nat.toDigits 10 (n % 10 ^ count)).length := by
    rw [← String.length_toList, toList_toString]
  have hpow : Nat.pow 10 count = 10 ^ count := rfl
  simp only [padded, hpow, String.toList_append, String.toList_ofList, toList_toString, hlength]

theorem length_padded {count : Nat} (hpos : 0 < count) (n : Nat) :
    (padded count n).toList.length = count := by
  have hlt : n % 10 ^ count < 10 ^ count := Nat.mod_lt n (by positivity)
  have hle := (Nat.length_toDigits_le_iff (by decide) hpos).mpr hlt
  rw [toList_padded, List.length_append, List.length_replicate]
  omega

theorem allDigits_padded (count n : Nat) : AllDigits (padded count n).toList := by
  rw [toList_padded]
  intro c hc
  rcases List.mem_append.mp hc with hzero | hdigit
  · rw [List.eq_of_mem_replicate hzero]
    rfl
  · exact allDigits_toDigits _ c hdigit

theorem digitsValue_padded {count n : Nat} (hlt : n < 10 ^ count) :
    digitsValue (padded count n).toList = n := by
  rw [toList_padded, digitsValue_eq, Nat.ofDigitChars_append, Nat.ofDigitChars_replicate_zero,
    Nat.mul_zero, Nat.ofDigitChars_ten_toDigits, Nat.mod_eq_of_lt hlt]

/-- A number of a fixed width is read back, whatever follows it. -/
theorem digits?_padded {count n : Nat} (hpos : 0 < count) (hlt : n < 10 ^ count)
    (rest : List Char) : Date.digits? count ((padded count n).toList ++ rest) = some (n, rest) := by
  have hlength := length_padded hpos n
  have htake : ((padded count n).toList ++ rest).take count = (padded count n).toList :=
    List.take_left' hlength
  have hdrop : ((padded count n).toList ++ rest).drop count = rest := List.drop_left' hlength
  have hne : (padded count n).toList ≠ [] := fun heq ↦ by
    rw [heq, List.length_nil] at hlength
    omega
  have hvalue := natural?_of_allDigits hne (allDigits_padded count n)
  rw [digitsValue_padded hlt] at hvalue
  simp only [Date.digits?, htake, hdrop, hlength, if_true, hvalue]
  rfl

/-! ### Fractions of a second -/

/-- The digits of a fraction of a second, without the zeros at their end. -/
def fractionDigits (nanos : Nat) : List Char :=
  ((padded 9 nanos).toList.reverse.dropWhile (· == '0')).reverse

theorem fractionDigits_append (nanos : Nat) :
    fractionDigits nanos ++ List.replicate (9 - (fractionDigits nanos).length) '0' =
      (padded 9 nanos).toList := by
  have hlength := length_padded (by decide : 0 < 9) nanos
  simp only [fractionDigits]
  generalize (padded 9 nanos).toList = digits at hlength ⊢
  have hsplit := congrArg List.reverse
    (List.takeWhile_append_dropWhile (p := (· == '0')) (l := digits.reverse))
  rw [List.reverse_append, List.reverse_reverse] at hsplit
  have hzeros : (digits.reverse.takeWhile (· == '0')).reverse =
      List.replicate (9 - (digits.reverse.dropWhile (· == '0')).reverse.length) '0' := by
    refine List.eq_replicate_iff.mpr ⟨?_, fun c hc ↦ ?_⟩
    · have hsum := congrArg List.length hsplit
      rw [List.length_append] at hsum
      omega
    · simpa using List.mem_takeWhile_imp (List.mem_reverse.mp hc)
  rw [← hzeros, hsplit]

theorem allDigits_fractionDigits (nanos : Nat) : AllDigits (fractionDigits nanos) := fun c hc ↦ by
  refine allDigits_padded 9 nanos c ?_
  rw [← fractionDigits_append]
  exact List.mem_append_left _ hc

/-- The digits of a fraction of a second that is not zero. -/
theorem digitsValue_fractionDigits {nanos : Nat} (hlt : nanos < nanosPerSecond) :
    digitsValue ((fractionDigits nanos ++ List.replicate 9 '0').take 9) = nanos := by
  have hlength := length_padded (by decide : 0 < 9) nanos
  have happend := fractionDigits_append nanos
  have hle : (fractionDigits nanos).length ≤ 9 := by
    rw [← happend, List.length_append] at hlength
    omega
  rw [List.take_append, List.take_of_length_le hle, List.take_replicate,
    Nat.min_eq_left (Nat.sub_le 9 _), happend, digitsValue_padded hlt]

theorem fractionDigits_ne_nil {nanos : Nat} (hlt : nanos < nanosPerSecond) (hne : nanos ≠ 0) :
    fractionDigits nanos ≠ [] := fun hnil ↦ by
  have hvalue := digitsValue_fractionDigits hlt
  rw [hnil] at hvalue
  exact hne hvalue.symm

theorem toList_fraction {nanos : Nat} (hne : nanos ≠ 0) :
    (fraction nanos).toList = '.' :: fractionDigits nanos := by
  simp [fraction, hne, fractionDigits]

/-- What may follow a fraction of a second: no digit and no point. -/
def EndsFraction (rest : List Char) : Prop :=
  ∀ c, rest.head? = some c → isAsciiDigit c = false ∧ c ≠ '.'

theorem takeWhile_of_endsFraction {digits rest : List Char} (hdigits : AllDigits digits)
    (hrest : EndsFraction rest) : (digits ++ rest).takeWhile isAsciiDigit = digits := by
  rw [List.takeWhile_append_of_pos hdigits]
  cases rest with
  | nil => simp
  | cons c rest => simp [(hrest c rfl).1]

/-- A fraction of a second is read back, whatever follows it. -/
theorem readFraction_fraction {nanos : Nat} (hlt : nanos < nanosPerSecond) {rest : List Char}
    (hrest : EndsFraction rest) :
    readFraction ((fraction nanos).toList ++ rest) = some (nanos, rest) := by
  by_cases hzero : nanos = 0
  · subst hzero
    have hnone : (fraction 0).toList = [] := rfl
    rw [hnone, List.nil_append, readFraction]
    exact fun t ht ↦ (hrest '.' (by rw [ht, List.head?_cons])).2 rfl
  · have hempty : (fractionDigits nanos).isEmpty = false :=
      List.isEmpty_eq_false_iff.mpr (fractionDigits_ne_nil hlt hzero)
    have hdigits := takeWhile_of_endsFraction (allDigits_fractionDigits nanos) hrest
    rw [toList_fraction hzero, List.cons_append]
    simp only [readFraction, hdigits, hempty, digitsValue_fractionDigits hlt]
    simp

/-! ### Offsets -/

theorem toList_zone {offset : Int} (hne : offset ≠ 0) :
    (zone offset).toList =
      (if offset < 0 then '-' else '+') :: ((padded 2 (offset.natAbs / 60)).toList ++
        (':' :: (padded 2 (offset.natAbs % 60)).toList)) := by
  rw [zone, if_neg hne]
  split_ifs <;> simp

theorem endsFraction_zone (offset : Int) : EndsFraction (zone offset).toList := by
  intro c hhead
  by_cases hzero : offset = 0
  · subst hzero
    obtain rfl : 'Z' = c := Option.some.inj hhead
    decide
  · rw [toList_zone hzero, List.head?_cons] at hhead
    obtain rfl := Option.some.inj hhead
    split_ifs <;> decide

theorem readZone_cons {sign : Char} (hsign : sign = '+' ∨ sign = '-') (s : List Char) :
    readZone (sign :: s) = (Date.digits? 2 s).bind fun hours ↦
      (Date.char? ':' hours.2).bind fun s ↦ (Date.digits? 2 s).bind fun minutes ↦
        if hours.1 ≤ 25 ∧ minutes.1 ≤ 59 then
          let size : Int := (60 * hours.1 + minutes.1 : Nat)
          some (if sign = '-' then -size else size, minutes.2)
        else none := by
  rcases hsign with rfl | rfl <;> rfl

theorem readZone_of_sign {sign : Char} (hsign : sign = '+' ∨ sign = '-') {size : Nat}
    (hlt : size < 24 * 60) :
    readZone (sign :: ((padded 2 (size / 60)).toList ++
      (':' :: (padded 2 (size % 60)).toList))) =
        some (if sign = '-' then -(size : Int) else size, []) := by
  have hhours (rest : List Char) := digits?_padded (by decide : 0 < 2)
    (by omega : size / 60 < 10 ^ 2) rest
  have hminutes := digits?_padded (by decide : 0 < 2) (by omega : size % 60 < 10 ^ 2) []
  rw [List.append_nil] at hminutes
  have hsize : (60 * (size / 60) + size % 60 : Nat) = size := Nat.div_add_mod size 60
  have hbounds : size / 60 ≤ 25 ∧ size % 60 ≤ 59 := by omega
  simp only [readZone_cons hsign, hhours, hminutes, Date.char?, Option.bind_some, if_true,
    if_pos hbounds, hsize]

/-- An offset of less than a day is read back. -/
theorem readZone_zone {offset : Int} (hlt : offset.natAbs < 24 * 60) :
    readZone (zone offset).toList = some (offset, []) := by
  by_cases hzero : offset = 0
  · subst hzero
    rfl
  · rw [toList_zone hzero]
    by_cases hneg : offset < 0
    · have hback : -(offset.natAbs : Int) = offset := by omega
      rw [if_pos hneg, readZone_of_sign (Or.inr rfl) hlt, if_pos rfl, hback]
    · have hback : (offset.natAbs : Int) = offset := by omega
      rw [if_neg hneg, readZone_of_sign (Or.inl rfl) hlt, if_neg (by decide), hback]

/-! ### Time stamps -/

/-- The time stamp that parts make which were read, if nothing follows them. -/
def ofParts? (rest : List Char) (date : Date) (hour minute second nanos : Nat) (offset : Int) :
    Option Timestamp :=
  let isLeap := second == 60
  let second := if isLeap then 59 else second
  let nanos := if isLeap then nanosPerSecond - 1 else nanos
  if rest.isEmpty && date.isValid && hour < 24 && minute < 60 && second < 60 then
    let seconds := date.dayNumber * secondsPerDay + (3600 * hour + 60 * minute + second : Nat) -
      60 * offset
    let utc := Date.ofDayNumber (seconds.fdiv secondsPerDay)
    let endsMonth := seconds.fmod secondsPerDay == secondsPerDay - 1 &&
      utc.day == Date.daysInMonth utc.year utc.month
    if isLeap && !endsMonth then none else some ⟨.ofParts seconds nanos, offset⟩
  else none

theorem parse?_eq (s : List Char) :
    parse? s = (Date.digits? 4 s).bind fun year ↦ (Date.char? '-' year.2).bind fun s ↦
      (Date.digits? 2 s).bind fun month ↦ (Date.char? '-' month.2).bind fun s ↦
      (Date.digits? 2 s).bind fun day ↦ (separator? day.2).bind fun s ↦
      (Date.digits? 2 s).bind fun hour ↦ (Date.char? ':' hour.2).bind fun s ↦
      (Date.digits? 2 s).bind fun minute ↦ (Date.char? ':' minute.2).bind fun s ↦
      (Date.digits? 2 s).bind fun second ↦ (readFraction second.2).bind fun nanos ↦
      (readZone nanos.2).bind fun offset ↦
        ofParts? offset.2 { year := year.1, month := month.1, day := day.1 } hour.1 minute.1
          second.1 nanos.1 offset.1 := rfl

/-- The parts of a time stamp as they are written one after the other. -/
theorem parse?_of_parts {date : Date} {second nanos : Nat} {offset : Int}
    (hdate : date.isValid = true) (hyear : 0 ≤ date.year) (hsecond : second < 86400)
    (hnanos : nanos < nanosPerSecond) (hoffset : offset.natAbs < 24 * 60) :
    parse? ((padded 4 date.year.toNat).toList ++ ('-' :: ((padded 2 date.month).toList ++
      ('-' :: ((padded 2 date.day).toList ++ ('T' :: ((padded 2 (second / 3600)).toList ++
        (':' :: ((padded 2 (second / 60 % 60)).toList ++ (':' ::
          ((padded 2 (second % 60)).toList ++ ((fraction nanos).toList ++
            (zone offset).toList)))))))))))) =
      some ⟨.ofParts (date.dayNumber * secondsPerDay + second - 60 * offset) nanos, offset⟩ := by
  have hbounds := hdate
  simp only [Date.isValid, Bool.and_eq_true, decide_eq_true_eq] at hbounds
  have hlength : Date.daysInMonth date.year date.month ≤ 31 := by
    unfold Date.daysInMonth
    split <;> (try split_ifs) <;> decide
  have htwo {n : Nat} (hlt : n < 100) (rest : List Char) :=
    digits?_padded (by decide : 0 < 2) (hlt : n < 10 ^ 2) rest
  have hfour := digits?_padded (by decide : 0 < 4) (by omega : date.year.toNat < 10 ^ 4)
  have hchar (c : Char) (rest : List Char) : Date.char? c (c :: rest) = some rest := if_pos rfl
  have hseparator (rest : List Char) : separator? ('T' :: rest) = some rest := rfl
  have hfraction := readFraction_fraction hnanos (endsFraction_zone offset)
  rw [parse?_eq, hfour]
  simp only [Option.bind_some, hchar, htwo (by omega : date.month < 100),
    htwo (by omega : date.day < 100), hseparator, htwo (by omega : second / 3600 < 100),
    htwo (by omega : second / 60 % 60 < 100), htwo (by omega : second % 60 < 100), hfraction,
    readZone_zone hoffset]
  have hleap : (second % 60 == 60) = false := beq_eq_false_iff_ne.mpr (by omega)
  have hsame : ({ year := (date.year.toNat : Int), month := date.month, day := date.day } : Date) =
      date := by
    rw [Int.toNat_of_nonneg hyear]
  have hsum : 3600 * (second / 3600) + 60 * (second / 60 % 60) + second % 60 = second := by omega
  have hhour : second / 3600 < 24 := by omega
  have hminute : second / 60 % 60 < 60 := by omega
  have hmoment : second % 60 < 60 := by omega
  rw [hsame]
  simp only [ofParts?, hleap, hsum, hdate, hhour, hminute, hmoment, List.isEmpty_nil,
    Bool.false_eq_true, Bool.false_and, Bool.and_self, decide_true, if_true, if_false]

/-- What is written for an instant reads back as that instant at its offset. -/
theorem parse?_of_format? {t : Timestamp} {s : String} (hformat : t.format? = some s) :
    parse? s.toList = some t := by
  simp only [format?] at hformat
  generalize hseconds : t.instant.seconds + 60 * t.offset = seconds at hformat
  split_ifs at hformat with hwritten
  obtain ⟨hfirst, hlast, hoffset⟩ := hwritten
  obtain rfl := Option.some.inj hformat
  have hvalid := Date.isValid_ofDayNumber (by omega) hlast
  have hday : (0 : Int) < secondsPerDay := by decide
  have hnanos : (0 : Int) < nanosPerSecond := by decide
  have hsecond : (seconds.fmod secondsPerDay).toNat < 86400 := by
    have hlt := Int.fmod_lt_of_pos seconds hday
    have hspan : secondsPerDay = 86400 := rfl
    omega
  have hsubsecond : t.instant.subsecond < nanosPerSecond := by
    have hlt := Int.fmod_lt_of_pos t.instant.nanos hnanos
    have hnonneg := Int.fmod_nonneg_of_pos t.instant.nanos hnanos
    simp only [Instant.subsecond]
    omega
  have hparts := parse?_of_parts hvalid hfirst hsecond hsubsecond hoffset
  rw [Date.dayNumber_ofDayNumber] at hparts
  have hinstant : seconds.fdiv secondsPerDay * secondsPerDay +
      (seconds.fmod secondsPerDay).toNat - 60 * t.offset = t.instant.seconds := by
    have hsplit := Int.fdiv_mul_add_fmod seconds secondsPerDay
    have hnonneg := Int.fmod_nonneg_of_pos seconds hday
    omega
  have hwhole : Instant.ofParts t.instant.seconds t.instant.subsecond = t.instant := by
    have hsplit := Int.fdiv_mul_add_fmod t.instant.nanos nanosPerSecond
    have hnonneg := Int.fmod_nonneg_of_pos t.instant.nanos hnanos
    rw [Instant.ofParts, Instant.seconds, Instant.subsecond, Int.toNat_of_nonneg hnonneg, hsplit]
  rw [hinstant, hwhole] at hparts
  simpa using hparts

end Timestamp

end Guildhall
