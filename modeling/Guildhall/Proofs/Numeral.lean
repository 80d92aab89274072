import Guildhall.Text.Number
import Guildhall.Yaml.Schema
import Mathlib.Data.Nat.Digits.Defs
import Mathlib.Data.List.Basic

/-!
Numerals. A number is read back from the digits that it is written with, by the reader of decimal
numerals (`Text.digitsValue_toString`) and by that of plain scalars (`Yaml.natural?_toString`): the
digits of a number other than zero begin with no zero, so that none of the forms for other bases is
mistaken for them.
-/

set_option autoImplicit false

namespace Guildhall

/-! ### Digits -/

namespace Text

/-- Whether a text consists of ASCII digits. -/
def AllDigits (s : List Char) : Prop := ∀ c ∈ s, isAsciiDigit c = true

theorem AllDigits.notMem {s : List Char} (hs : AllDigits s) {c : Char}
    (hc : isAsciiDigit c = false) : c ∉ s := fun hmem ↦ by
  rw [hs c hmem] at hc
  cases hc

theorem toList_toString (n : Nat) : (toString n).toList = Nat.toDigits 10 n := by
  rw [Nat.toString_eq_ofList_toDigits, String.toList_ofList]

theorem allDigits_toDigits (n : Nat) : AllDigits (Nat.toDigits 10 n) := fun c hc ↦ by
  have hdigit := Nat.isDigit_of_mem_toDigits (by decide) (by decide) hc
  simpa [isAsciiDigit, Char.isDigit, Char.le_def] using hdigit

theorem digitsValue_eq (s : List Char) : digitsValue s = Nat.ofDigitChars 10 s 0 := rfl

theorem digitsValue_toDigits (n : Nat) : digitsValue (Nat.toDigits 10 n) = n :=
  Nat.ofDigitChars_ten_toDigits

theorem natural?_of_allDigits {s : List Char} (hne : s ≠ []) (hs : AllDigits s) :
    natural? s = some (digitsValue s) := by
  have hall : s.all isAsciiDigit = true := List.all_eq_true.mpr hs
  simp [natural?, hne, hall]

/-- The characters that number readers accept. -/
def asciiDigits : List Char := "0123456789".toList

theorem mem_asciiDigits {c : Char} (hc : isAsciiDigit c = true) : c ∈ asciiDigits := by
  have hcodes : ∀ n ∈ List.range' 48 10, Char.ofNat n ∈ asciiDigits := by decide
  simp only [isAsciiDigit, Bool.and_eq_true, decide_eq_true_eq, Char.le_def] at hc
  have hn : c.toNat ∈ List.range' 48 10 :=
    List.mem_range'_1.mpr ⟨hc.1, Nat.lt_succ_of_le hc.2⟩
  exact Char.ofNat_toNat c ▸ hcodes c.toNat hn

theorem natural?_eq_some_iff {s : List Char} {n : Nat} :
    natural? s = some n ↔ s ≠ [] ∧ AllDigits s ∧ digitsValue s = n := by
  simp [natural?, AllDigits, and_assoc]

/-- A machine word is read from one or more ASCII digits whose value fits into it. -/
theorem word?_eq_some_iff {s : List Char} {n : UInt64} :
    word? s = some n ↔ s ≠ [] ∧ AllDigits s ∧ digitsValue s = n.toNat := by
  rw [word?, Option.bind_eq_bind, Option.bind_eq_some_iff]
  constructor
  · rintro ⟨value, hvalue, hfits⟩
    obtain ⟨hne, hdigits, rfl⟩ := natural?_eq_some_iff.mp hvalue
    split_ifs at hfits with hlt
    obtain rfl := Option.some.inj hfits
    exact ⟨hne, hdigits, (UInt64.toNat_ofNat_of_lt' hlt).symm⟩
  · rintro ⟨hne, hdigits, hvalue⟩
    refine ⟨_, natural?_of_allDigits hne hdigits, ?_⟩
    rw [hvalue, if_pos n.toNat_lt, UInt64.ofNat_toNat]

/-- An integer that is read fits into 64 bits. -/
theorem integer?_bounds {s : List Char} {n : Int} (hread : integer? s = some n) :
    -2 ^ 63 ≤ n ∧ n < 2 ^ 63 := by
  have hfits {value? : Option Int} (h : (value?.bind fun value ↦
      if -Nat.pow 2 63 ≤ value ∧ value < Nat.pow 2 63 then some value else none) = some n) :
      -2 ^ 63 ≤ n ∧ n < 2 ^ 63 := by
    obtain ⟨value, -, h⟩ := Option.bind_eq_some_iff.mp h
    split_ifs at h with hbounds
    obtain rfl := Option.some.inj h
    exact hbounds
  unfold integer? at hread
  -- The sign decides what is read, and the bounds are checked alike.
  split at hread <;> exact hfits hread

/-- The digits of a number begin with a zero only if it is zero. -/
theorem head?_toDigits (n : Nat) : (Nat.toDigits 10 n).head? = some '0' → n = 0 := by
  induction n using Nat.strongRecOn with
  | ind n ih =>
    intro hhead
    rw [Nat.toDigits_eq_if (by decide)] at hhead
    split_ifs at hhead with hlt
    · have hdigit : n.digitChar = '0' := Option.some.inj hhead
      exact Nat.digitChar_eq_zero.mp hdigit
    · rw [List.head?_append_of_ne_nil _ Nat.toDigits_ne_nil] at hhead
      have hzero := ih (n / 10) (Nat.div_lt_self (by omega) (by decide)) hhead
      omega

end Text

/-! ### Plain scalars -/

namespace Yaml

open Text

theorem hexDigit?_of_isAsciiDigit {c : Char} (hc : isAsciiDigit c = true) :
    hexDigit? c = some (digitValue c) ∧ digitValue c < 10 := by
  simp only [isAsciiDigit] at hc
  rw [hexDigit?, if_pos hc]
  refine ⟨rfl, ?_⟩
  simp only [Bool.and_eq_true, decide_eq_true_eq, Char.le_def, UInt32.le_iff_toNat_le] at hc
  have hlast : c.toNat ≤ 57 := hc.2
  have hzero : '0'.toNat = 48 := rfl
  rw [digitValue, hzero]
  omega

theorem digitOf?_of_isAsciiDigit {c : Char} (hc : isAsciiDigit c = true) :
    digitOf? 10 c = some (digitValue c) := by
  obtain ⟨hdigit, hlt⟩ := hexDigit?_of_isAsciiDigit hc
  rw [digitOf?, hdigit, Option.filter_some, if_pos (decide_eq_true hlt)]

theorem foldlM_digitOf? {s : List Char} (hs : AllDigits s) (n : Nat) :
    s.foldlM (fun n c ↦ (digitOf? 10 c).map (10 * n + ·)) n =
      some (s.foldl (fun n c ↦ 10 * n + digitValue c) n) := by
  induction s generalizing n with
  | nil => rfl
  | cons c s ih =>
    obtain ⟨hc, hs⟩ := List.forall_mem_cons.mp hs
    rw [List.foldlM_cons, digitOf?_of_isAsciiDigit hc]
    exact ih hs _

theorem digits?_of_allDigits {s : List Char} (hne : s ≠ []) (hs : AllDigits s) :
    digits? 10 s = some (digitsValue s) := by
  rw [digits?, if_neg (by simpa using hne), foldlM_digitOf? hs]
  rfl

theorem hasLeadingZero_toDigits (n : Nat) : hasLeadingZero (Nat.toDigits 10 n) = false := by
  have hdigits := allDigits_toDigits n
  have hhead := head?_toDigits n
  have hzero : Nat.toDigits 10 0 = ['0'] := rfl
  rcases hn : Nat.toDigits 10 n with _ | ⟨c, s⟩
  · rfl
  rw [hn] at hdigits hhead
  have hstrip : hasLeadingZero (c :: s) =
      (decide (2 ≤ (c :: s).length) && (c :: s).head? == some '0' &&
        (c :: s).all isAsciiDigit) := by
    unfold hasLeadingZero
    split
    · rename_i heq
      exact absurd (heq ▸ List.mem_cons_self) (hdigits.notMem (c := '-') (by decide))
    · rename_i heq
      exact absurd (heq ▸ List.mem_cons_self) (hdigits.notMem (c := '+') (by decide))
    · rfl
  by_cases hc : (c :: s).head? = some '0'
  · rw [hhead hc, hzero] at hn
    rw [← hn]
    decide
  · have hne : ((c :: s).head? == some '0') = false := by simpa using hc
    rw [hstrip, hne, Bool.and_false, Bool.false_and]

/-- A number is read from its digits, without a sign or the mark of another base. -/
theorem magnitude?_toDigits (n : Nat) : magnitude? (Nat.toDigits 10 n) = some n := by
  have hdigits := allDigits_toDigits n
  have hmark {mark : Char} (hmark : isAsciiDigit mark = false) {t : List Char} :
      Nat.toDigits 10 n ≠ '0' :: mark :: t := fun heq ↦
    hdigits.notMem hmark (heq ▸ List.mem_cons_of_mem _ List.mem_cons_self)
  unfold magnitude?
  split
  · exact absurd ‹_› (hmark (by decide))
  · exact absurd ‹_› (hmark (by decide))
  · exact absurd ‹_› (hmark (by decide))
  · rw [hasLeadingZero_toDigits, if_neg Bool.false_ne_true,
      digits?_of_allDigits Nat.toDigits_ne_nil hdigits, digitsValue_toDigits]

/-- A number below a bound is read back from what it is written as. -/
theorem natural?_toString {bound n : Nat} (hlt : n < bound) :
    natural? bound (toString n).toList = some n := by
  have hdigits := allDigits_toDigits n
  rw [toList_toString]
  unfold natural?
  split
  · rename_i heq
    exact absurd (heq ▸ List.mem_cons_self) (hdigits.notMem (c := '+') (by decide))
  · rw [magnitude?_toDigits, Option.filter_some, if_pos (decide_eq_true hlt)]

/-- The digits of a number do not stand for a value that was left out. -/
theorem isAbsent_toString (n : Nat) : ((toString n).isEmpty || isNull (toString n)) = false := by
  have hdigits := allDigits_toDigits n
  rw [← toList_toString] at hdigits
  have hletter {s : String} {c : Char} (hmem : c ∈ s.toList) (hc : isAsciiDigit c = false) :
      toString n ≠ s := fun heq ↦ hdigits.notMem hc (heq ▸ hmem)
  simp only [isNull, Bool.or_eq_false_iff, List.contains_eq_mem, decide_eq_false_iff_not,
    List.mem_cons, List.not_mem_nil, or_false, not_or]
  exact ⟨by simp, hletter (c := 'n') (by decide) (by decide),
    hletter (c := 'N') (by decide) (by decide), hletter (c := 'N') (by decide) (by decide),
    hletter (c := '~') (by decide) (by decide)⟩

end Yaml

end Guildhall
