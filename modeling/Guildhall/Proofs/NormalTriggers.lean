import Guildhall.Command.Spec
import Guildhall.Proofs.LowerCase

/-!
The form in which triggers are compared. A text is its own normal form exactly if it is in lower
case, does not begin with a mark and has no blank at either end (`normalizeTrigger_eq_self_iff`).
The normal form of a trigger has all of this but one thing: it may begin with a blank, and only then
a second normalization changes it (`isNormalTrigger_normalizeTrigger_iff`). The normal form of a
word is a word (`normalizeTrigger_word`), and so it is final (`normalizeTrigger_normalizeTrigger`).
-/

set_option autoImplicit false

namespace Guildhall

open Text

/-- Whether a text has the form in which triggers are compared: lower case, no mark in front and no
blank at either end. -/
structure IsNormalTrigger (s : List Char) : Prop where
  lower : toLower s = s
  unmarked : s.head? ≠ some '!'
  start : ∀ c ∈ s.head?, isBlank c = false
  finish : ∀ c ∈ s.getLast?, isBlank c = false

theorem head?_normalizeTrigger_ne_mark (s : List Char) : (normalizeTrigger s).head? ≠ some '!' := by
  rw [normalizeTrigger, Ne, head?_toLower_eq_mark_iff]
  intro hmark
  simpa using head?_dropWhile_eq_false (· == '!') (trim s) '!' hmark

theorem isBlank_getLast?_normalizeTrigger (s : List Char) :
    ∀ c ∈ (normalizeTrigger s).getLast?, isBlank c = false := by
  have hsuffix : (trim s).dropWhile (· == '!') <:+ trim s := List.dropWhile_suffix _
  exact isBlank_getLast?_toLower
    (isBlank_getLast?_of_suffix hsuffix (isBlank_getLast?_trimEnd (trimStart s)))

theorem IsNormalTrigger.normalizeTrigger_eq {s : List Char} (hs : IsNormalTrigger s) :
    normalizeTrigger s = s := by
  have htrim : trim s = s := by rw [trim_eq_trimStart hs.finish, trimStart_eq_self hs.start]
  have hhead : ∀ c ∈ s.head?, (c == '!') = false := by
    intro c hc
    rw [beq_eq_false_iff_ne]
    rintro rfl
    exact hs.unmarked hc
  have hstripped : s.dropWhile (· == '!') = s := (takeWhile_append_eq (u := []) (by simp) hhead).2
  rw [normalizeTrigger, htrim, hstripped, hs.lower]

/-- A text is its own normal form exactly if it has the form in which triggers are compared. -/
theorem normalizeTrigger_eq_self_iff (s : List Char) :
    normalizeTrigger s = s ↔ IsNormalTrigger s := by
  refine ⟨fun hs ↦ ?_, IsNormalTrigger.normalizeTrigger_eq⟩
  have hlower : toLower s = s := by
    rw [← hs]
    exact toLower_normalizeTrigger s
  have htrim : trim s <+: trimStart s := trimEnd_prefix _
  have hsuffix : (trim s).dropWhile (· == '!') <:+ trim s := List.dropWhile_suffix _
  -- What is left of `s` is in lower case as `s` is, so that it is all of `s`.
  have hstripped : (trim s).dropWhile (· == '!') = s := by
    have hmem : ∀ c ∈ (trim s).dropWhile (· == '!'), IsLower c := by
      intro c hc
      have hc : c ∈ s := (trimStart_suffix s).subset (htrim.subset (hsuffix.subset hc))
      rw [← hlower] at hc
      exact isLower_of_mem_toLower hc
    have hsame : normalizeTrigger s = (trim s).dropWhile (· == '!') := toLowerAfter_eq_self hmem []
    exact hsame.symm.trans hs
  have hlength : s.length ≤ (trimStart s).length := by
    have hle := hsuffix.length_le.trans htrim.length_le
    rwa [hstripped] at hle
  have hstart : trimStart s = s := (trimStart_suffix s).eq_of_length_le hlength
  refine ⟨hlower, ?_, ?_, ?_⟩
  · rw [← hs]
    exact head?_normalizeTrigger_ne_mark s
  · rw [← hstart]
    exact isBlank_head?_trimStart s
  · rw [← hs]
    exact isBlank_getLast?_normalizeTrigger s

theorem triggerKey_eq_self_iff (trigger : String) :
    triggerKey trigger = trigger ↔ IsNormalTrigger trigger.toList := by
  rw [← normalizeTrigger_eq_self_iff, triggerKey, ← String.toList_inj, String.toList_ofList]

/-- Small letters of ASCII are in the form in which triggers are compared. -/
theorem isNormalTrigger_of_small {s : List Char}
    (hs : ∀ c ∈ s, 0x61 ≤ c.toNat ∧ c.toNat ≤ 0x7A) : IsNormalTrigger s := by
  have hplain : ∀ c ∈ s, isBlank c = false ∧ c ≠ '!' := by
    intro c hc
    obtain ⟨hlow, hhigh⟩ := hs c hc
    rw [← isPlain_iff, IsPlain, Ranges.has, ← Bool.not_eq_true, Ranges.hasCode_iff]
    simp [blankOrMark]
    omega
  refine ⟨?_, ?_, ?_, ?_⟩
  · exact toLowerAfter_eq_self (fun c hc ↦ isLower_of_small (hs c hc).1 (hs c hc).2) []
  · exact fun hmark ↦ (hplain '!' (List.mem_of_head? hmark)).2 rfl
  · exact fun c hc ↦ (hplain c (List.mem_of_head? hc)).1
  · exact fun c hc ↦ (hplain c (List.mem_of_getLast? hc)).1

/-- A normal form is final unless it begins with a blank. -/
theorem isNormalTrigger_normalizeTrigger_iff (s : List Char) :
    IsNormalTrigger (normalizeTrigger s) ↔
      ∀ c ∈ (normalizeTrigger s).head?, isBlank c = false := by
  refine ⟨IsNormalTrigger.start, fun hstart ↦ ?_⟩
  exact ⟨toLower_normalizeTrigger s, head?_normalizeTrigger_ne_mark s, hstart,
    isBlank_getLast?_normalizeTrigger s⟩

/-! ### Words -/

section Words

variable {word : List Char} (hword : ∀ c ∈ word, isBlank c = false)

include hword

theorem normalizeTrigger_of_word : normalizeTrigger word = toLower (word.dropWhile (· == '!')) := by
  rw [normalizeTrigger, trim_eq_self hword]

/-- The normal form of a word is a word that does not begin with a mark. -/
theorem normalizeTrigger_word :
    (∀ c ∈ normalizeTrigger word, isBlank c = false) ∧
      (normalizeTrigger word).head? ≠ some '!' := by
  refine ⟨?_, head?_normalizeTrigger_ne_mark word⟩
  rw [normalizeTrigger_of_word hword]
  exact isBlank_of_mem_toLower fun c hc ↦ hword c ((List.dropWhile_suffix _).subset hc)

/-- The normal form of a word is its own. -/
theorem normalizeTrigger_normalizeTrigger :
    normalizeTrigger (normalizeTrigger word) = normalizeTrigger word := by
  rw [normalizeTrigger_eq_self_iff, isNormalTrigger_normalizeTrigger_iff]
  exact fun c hc ↦ (normalizeTrigger_word hword).1 c (List.mem_of_head? hc)

end Words

end Guildhall
