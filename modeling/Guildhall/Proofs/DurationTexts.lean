import Guildhall.Command.Cooldowns
import Guildhall.Proofs.LowerCase
import Guildhall.Proofs.Numeral

/-!
Durations as texts. A text is read as a duration exactly if it is a number with a unit behind it
that comes to less than `2 ^ 64` seconds (`Duration.Spells`, `Duration.parse?_eq_some_iff`), so
that no number wraps. What a duration is written as spells its seconds, whichever unit they fill
(`Duration.spells_text`), and is read as the duration that it was written for
(`Duration.text_is_read_back`).
-/

set_option autoImplicit false

namespace Guildhall

open Text

namespace Duration

/-- The units that may follow a number, with their seconds. Without a unit it counts seconds. -/
def units : List (List Char × Nat) :=
  [([], 1), (['s'], 1), (['S'], 1), (['m'], 60), (['M'], 60), (['h'], 3600), (['H'], 3600)]

/-- Whether a text is one or more ASCII digits and a unit that come to a number of seconds. -/
def Spells (s : List Char) (seconds : Nat) : Prop :=
  ∃ digits unit scale, s = digits ++ unit ∧ digits ≠ [] ∧ AllDigits digits ∧
    (unit, scale) ∈ units ∧ seconds = digitsValue digits * scale

/-! ### Units -/

/-- The letters that lower case makes the letter of a unit. -/
theorem toLower_eq_iff {c letter : Char} (hletter : letter ∈ ['s', 'm', 'h']) :
    c.toLower = letter ↔ c = letter ∨ c = letter.toUpper := by
  rcases toLower_eq_or_mem_capitals c with hsame | hcapital
  · rw [hsame]
    refine ⟨Or.inl, ?_⟩
    rintro (rfl | rfl)
    · rfl
    · -- A capital letter is not its own lower case.
      have hchanged : (['s', 'm', 'h'].all fun l ↦ l.toUpper.toLower != l.toUpper) = true := by
        decide
      exact absurd hsame (bne_iff_ne.mp (List.all_eq_true.mp hchanged letter hletter))
  · have hcapitals : (['s', 'm', 'h'].all fun l ↦ capitals.all fun c ↦
        decide (c.toLower = l ↔ c = l ∨ c = l.toUpper)) = true := by decide
    exact of_decide_eq_true
      (List.all_eq_true.mp (List.all_eq_true.mp hcapitals letter hletter) c hcapital)

/-- A unit is read in either case. -/
theorem unitSeconds?_toAsciiLower_iff {unit : List Char} {scale : Nat} :
    unitSeconds? (toAsciiLower unit) = some scale ↔ (unit, scale) ∈ units := by
  match unit with
  | [] => simp [toAsciiLower, unitSeconds?, units, eq_comm]
  | [c] =>
    have hread : unitSeconds? [c.toLower] = some scale ↔ c.toLower = 's' ∧ scale = 1 ∨
        c.toLower = 'm' ∧ scale = 60 ∨ c.toLower = 'h' ∧ scale = 3600 := by
      generalize c.toLower = l
      unfold unitSeconds?
      split <;> simp_all [eq_comm]
    rw [toAsciiLower, List.map_singleton, hread, toLower_eq_iff (by decide),
      toLower_eq_iff (by decide), toLower_eq_iff (by decide)]
    simp [units, or_and_right, or_assoc]
  | c :: d :: rest => simp [toAsciiLower, unitSeconds?, units]

/-- No unit begins with a digit or has a blank in it. -/
theorem isUnit_of_mem_units {unit : List Char} {scale : Nat} (hunit : (unit, scale) ∈ units) :
    0 < scale ∧ ∀ c ∈ unit, isAsciiDigit c = false ∧ isBlank c = false := by
  have hall : (units.all fun p ↦
      decide (0 < p.2) && p.1.all fun c ↦ !isAsciiDigit c && !isBlank c) = true := by decide
  simpa using List.all_eq_true.mp hall _ hunit

/-! ### Reading -/

/-- Lower case changes neither the digits nor where they end. -/
theorem parse?_eq (s : List Char) :
    parse? s = (word? ((trim s).takeWhile isAsciiDigit)).bind fun value ↦
      (unitSeconds? (toAsciiLower ((trim s).dropWhile isAsciiDigit))).bind fun scale ↦
        if value.toNat * scale < UInt64.size then some (ofSeconds (value.toNat * scale))
        else none := by
  have hdigit : isAsciiDigit ∘ Char.toLower = isAsciiDigit := funext (apply_toLower (by decide))
  have hlower : (asciiDigits.all fun c ↦ c.toLower == c) = true := by decide
  have hsame : ((trim s).takeWhile isAsciiDigit).map Char.toLower =
      (trim s).takeWhile isAsciiDigit := by
    refine List.map_congr_left (g := id) (fun c hc ↦ ?_) |>.trans (List.map_id _)
    have hdigit := mem_asciiDigits (List.mem_takeWhile_imp hc)
    exact beq_iff_eq.mp (List.all_eq_true.mp hlower c hdigit)
  simp only [parse?, toAsciiLower, List.takeWhile_map, List.dropWhile_map, hdigit] at hsame ⊢
  rw [hsame]
  rfl

/-- A duration is read from the texts that spell its seconds, if these are less than `2 ^ 64`. -/
theorem parse?_eq_some_iff {s : List Char} {d : Duration} :
    parse? s = some d ↔ ∃ seconds < 2 ^ 64, Spells (trim s) seconds ∧ d = ofSeconds seconds := by
  rw [parse?_eq]
  constructor
  · intro hread
    obtain ⟨value, hvalue, hread⟩ := Option.bind_eq_some_iff.mp hread
    obtain ⟨scale, hscale, hread⟩ := Option.bind_eq_some_iff.mp hread
    obtain ⟨hne, hdigits, hvalue⟩ := word?_eq_some_iff.mp hvalue
    split_ifs at hread with hlt
    obtain rfl := Option.some.inj hread
    rw [← hvalue] at hlt ⊢
    exact ⟨_, hlt, ⟨_, _, scale, List.takeWhile_append_dropWhile.symm, hne, hdigits,
      unitSeconds?_toAsciiLower_iff.mp hscale, rfl⟩, rfl⟩
  · rintro ⟨_, hlt, ⟨digits, unit, scale, hs, hne, hdigits, hunit, rfl⟩, rfl⟩
    obtain ⟨hscale, hplain⟩ := isUnit_of_mem_units hunit
    obtain ⟨htake, hdrop⟩ := takeWhile_append_eq hdigits
      fun c hc ↦ (hplain c (List.mem_of_head? hc)).1
    have hvalue : digitsValue digits < UInt64.size :=
      (Nat.le_mul_of_pos_right _ hscale).trans_lt hlt
    have hword : word? digits = some (UInt64.ofNatLT (digitsValue digits) hvalue) :=
      word?_eq_some_iff.mpr ⟨hne, hdigits, rfl⟩
    rw [hs, htake, hdrop, hword, Option.bind_some, unitSeconds?_toAsciiLower_iff.mpr hunit,
      Option.bind_some, UInt64.toNat_ofNatLT]
    exact if_pos hlt

/-! ### Writing -/

theorem seconds_ofSeconds (n : Nat) : (ofSeconds n).seconds = n :=
  Nat.mul_div_cancel n (by decide)

/-- A number and a unit spell what they come to. -/
theorem spells_number {unit : String} {scale : Nat} (hunit : (unit.toList, scale) ∈ units)
    (n : Nat) : Spells s!"{n}{unit}".toList (n * scale) := by
  have hdigits : s!"{n}{unit}".toList = Nat.toDigits 10 n ++ unit.toList := by
    rw [← toList_toString, ← String.toList_append]
    rfl
  rw [hdigits]
  exact ⟨_, _, scale, rfl, Nat.toDigits_ne_nil, allDigits_toDigits n, hunit,
    by rw [digitsValue_toDigits]⟩

/-- What a duration is written as spells its whole seconds. -/
theorem spells_text (d : Duration) : Spells d.text.toList d.seconds := by
  unfold text
  extract_lets seconds
  split_ifs with hours minutes
  · have hspells := spells_number (show ("h".toList, 3600) ∈ units by decide) (seconds / 3600)
    rwa [Nat.div_mul_cancel (Nat.dvd_of_mod_eq_zero hours.2)] at hspells
  · have hspells := spells_number (show ("m".toList, 60) ∈ units by decide) (seconds / 60)
    rwa [Nat.div_mul_cancel (Nat.dvd_of_mod_eq_zero minutes.2)] at hspells
  · have hspells := spells_number (show ("s".toList, 1) ∈ units by decide) seconds
    rwa [Nat.mul_one] at hspells

/-- A text that spells seconds has no blanks to be trimmed. -/
theorem Spells.trim_eq_self {s : List Char} {seconds : Nat} (h : Spells s seconds) :
    trim s = s := by
  obtain ⟨digits, unit, scale, rfl, -, hdigits, hunit, -⟩ := h
  have hplain : (asciiDigits.all fun c ↦ !isBlank c) = true := by decide
  refine Text.trim_eq_self fun c hc ↦ ?_
  rcases List.mem_append.mp hc with hc | hc
  · simpa using List.all_eq_true.mp hplain c (mem_asciiDigits (hdigits c hc))
  · exact ((isUnit_of_mem_units hunit).2 c hc).2

/-- Durations are written and read alike. A whole number of seconds below `2 ^ 64` is read back from
what it is written as, and a text is read as a duration exactly if it is, but for blanks around it,
one or more ASCII digits and a unit in either case (or none, for seconds) that come to a number of
seconds below `2 ^ 64`. -/
theorem text_is_read_back :
    (∀ n : UInt64, parse? (ofSeconds n.toNat).text.toList = some (ofSeconds n.toNat)) ∧
      ∀ (s : List Char) (d : Duration), parse? s = some d ↔
        ∃ seconds < 2 ^ 64, Spells (trim s) seconds ∧ d = ofSeconds seconds := by
  refine ⟨fun n ↦ ?_, fun s d ↦ parse?_eq_some_iff⟩
  have hspells := spells_text (ofSeconds n.toNat)
  rw [seconds_ofSeconds] at hspells
  exact parse?_eq_some_iff.mpr ⟨_, n.toNat_lt, by rwa [hspells.trim_eq_self], rfl⟩

end Duration

end Guildhall
