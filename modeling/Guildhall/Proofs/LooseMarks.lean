import Guildhall.Proofs.NormalTriggers
import Guildhall.Proofs.Registry
import Guildhall.Proofs.TypedKeys
import Mathlib.Logic.Function.Iterate

/-!
Marks that stand apart from their trigger. A trigger is trimmed before its marks are taken away, so
that a blank behind the marks is left in front (`isBlank_head?_normalizeTrigger_iff`). Only then is
the normal form not final: a second normalization changes it, and a registry that has the trigger
need not find it under its normal form (`triggerKey_is_final_iff`). A word has no such mark
(`not_hasLooseMark_of_word`).
-/

set_option autoImplicit false

namespace Guildhall

open Text

namespace Text

/-- Nothing is trimmed in front of what is not blank. -/
theorem trimEnd_append_of_mem (s : List Char) {t : List Char} {d : Char} (hd : d ∈ t)
    (hplain : isBlank d = false) : trimEnd (s ++ t) = s ++ trimEnd t := by
  have hkept : ¬ (t.reverse.dropWhile isBlank).isEmpty = true := by
    rw [List.isEmpty_iff, List.dropWhile_eq_nil_iff]
    intro hall
    simp [hall d (List.mem_reverse.mpr hd)] at hplain
  rw [trimEnd, List.reverse_append, List.dropWhile_append, if_neg hkept, List.reverse_append,
    List.reverse_reverse, trimEnd]

/-- What is trimmed from the beginning of a text is blank, and nothing is taken from within. -/
theorem exists_eq_append_trim_append (s : List Char) :
    ∃ before after, (∀ b ∈ before, isBlank b = true) ∧ s = before ++ trim s ++ after := by
  obtain ⟨after, -, hend⟩ := exists_eq_trimEnd_append (trimStart s)
  refine ⟨s.takeWhile isBlank, after, fun b hb ↦ List.mem_takeWhile_imp hb, ?_⟩
  rw [List.append_assoc, trim, ← hend]
  exact List.takeWhile_append_dropWhile.symm

end Text

/-! ### Loose marks -/

/-- Whether a mark in front of a text stands apart from the rest: after blanks and marks there is a
blank, and something that is no blank comes later. -/
def HasLooseMark (s : List Char) : Prop :=
  ∃ before marks c rest, s = before ++ marks ++ c :: rest ∧ (∀ b ∈ before, isBlank b = true) ∧
    marks ≠ [] ∧ (∀ m ∈ marks, m = '!') ∧ isBlank c = true ∧ ∃ d ∈ rest, isBlank d = false

theorem exists_blank_of_hasLooseMark {s : List Char} (hloose : HasLooseMark s) :
    ∃ c ∈ ((trim s).dropWhile (· == '!')).head?, isBlank c = true := by
  obtain ⟨before, marks, c, rest, rfl, hbefore, hne, hmarks, hc, d, hd, hplain⟩ := hloose
  have hmark : isBlank '!' = false := by decide
  have hstart : trimStart (before ++ marks ++ c :: rest) = marks ++ c :: rest := by
    rw [List.append_assoc]
    refine (takeWhile_append_eq hbefore fun m hm ↦ ?_).2
    rw [List.head?_append_of_ne_nil _ hne] at hm
    rw [hmarks m (List.mem_of_head? hm), hmark]
  have hend : trimEnd (marks ++ c :: rest) = marks ++ c :: trimEnd rest := by
    rw [List.append_cons, trimEnd_append_of_mem _ hd hplain, ← List.append_cons]
  have hblank : (c == '!') = false := by
    rw [beq_eq_false_iff_ne]
    rintro rfl
    simp [hmark] at hc
  have hstripped : (marks ++ c :: trimEnd rest).dropWhile (· == '!') = c :: trimEnd rest :=
    (takeWhile_append_eq (by simpa using hmarks) (by simpa using hblank)).2
  rw [trim, hstart, hend, hstripped]
  exact ⟨c, rfl, hc⟩

theorem hasLooseMark_of_blank {s : List Char} {c : Char}
    (hhead : c ∈ ((trim s).dropWhile (· == '!')).head?) (hc : isBlank c = true) :
    HasLooseMark s := by
  obtain ⟨rest, hrest⟩ := List.head?_eq_some_iff.mp hhead
  obtain ⟨before, after, hbefore, htext⟩ := exists_eq_append_trim_append s
  have hsplit := List.takeWhile_append_dropWhile (p := (· == '!')) (l := trim s)
  rw [hrest] at hsplit
  rw [← hsplit, ← List.append_assoc, List.append_assoc, List.cons_append] at htext
  refine ⟨before, _, c, rest ++ after, htext, hbefore, ?_, ?_, hc, ?_⟩
  · -- A trimmed text does not begin with a blank.
    intro hnone
    rw [hnone, List.nil_append] at hsplit
    have hplain := isBlank_head?_trim s c (by rw [← hsplit]; rfl)
    exact Bool.false_ne_true (hplain.symm.trans hc)
  · exact fun m hm ↦ by simpa using List.mem_takeWhile_imp hm
  · -- Nor does it end with one.
    have hsuffix : c :: rest <:+ trim s := ⟨_, hsplit⟩
    have hlast := isBlank_getLast?_of_suffix hsuffix (isBlank_getLast?_trimEnd (trimStart s))
    cases hd : rest.getLast? with
    | none =>
      rw [List.getLast?_eq_none_iff] at hd
      have hplain := hlast c (by rw [hd]; rfl)
      exact absurd hc (by rw [hplain]; exact Bool.false_ne_true)
    | some d =>
      refine ⟨d, List.mem_append_left _ (List.mem_of_getLast? hd), hlast d ?_⟩
      rw [List.getLast?_cons, hd]
      rfl

/-- The normal form of a trigger begins with a blank exactly if the trigger has a loose mark. -/
theorem isBlank_head?_normalizeTrigger_iff (s : List Char) :
    (∀ c ∈ (normalizeTrigger s).head?, isBlank c = false) ↔ ¬ HasLooseMark s := by
  have hlower {c : Char} (hc : isBlank c = true) : c ∈ (normalizeTrigger s).head? ↔
      c ∈ ((trim s).dropWhile (· == '!')).head? :=
    head?_toLower_eq_some_iff (not_isPlain_of_isBlank hc) _
  constructor
  · intro hstart hloose
    obtain ⟨c, hhead, hc⟩ := exists_blank_of_hasLooseMark hloose
    exact Bool.false_ne_true ((hstart c ((hlower hc).mpr hhead)).symm.trans hc)
  · intro hloose c hhead
    by_contra hc
    rw [Bool.not_eq_false] at hc
    exact hloose (hasLooseMark_of_blank ((hlower hc).mp hhead) hc)

theorem not_hasLooseMark_of_word {word : List Char} (hword : ∀ c ∈ word, isBlank c = false) :
    ¬ HasLooseMark word := by
  rintro ⟨before, marks, c, rest, rfl, -, -, -, hc, -⟩
  simp [hword c (by simp)] at hc

theorem triggerKey_triggerKey_iff (trigger : String) :
    triggerKey (triggerKey trigger) = triggerKey trigger ↔ ¬ HasLooseMark trigger.toList := by
  rw [triggerKey_eq_self_iff, ← isBlank_head?_normalizeTrigger_iff,
    ← isNormalTrigger_normalizeTrigger_iff, triggerKey, String.toList_ofList]

/-! ### Callers -/

/-- The name under which a command is authored is the normal form of a word. -/
theorem triggerArgument_fst (text : List Char) :
    (triggerArgument text).1 = triggerKey (String.ofList (splitFirst text).1) := by
  rw [triggerKey, String.toList_ofList]
  rfl

theorem actionArgument?_bind_self (text : List Char) :
    ((actionArgument? text).bind fun action ↦ actionArgument? action.toList) =
      actionArgument? text := by
  cases hnamed : actionArgument? text with
  | none => rfl
  | some action =>
    rw [Option.bind_some, actionArgument?_eq_some_iff]
    exact actionNamed?_self (actionArgument?_eq_some_iff.mp hnamed)

/-- The normal form of a trigger begins with no mark and ends with no blank. Exactly if the trigger
has no loose mark, the normal form begins with no blank, is its own normal form however often it is
taken, and calls in every registry what the trigger calls. The name that a text gives a command
calls what the word calls that was typed, and an action that a text names, names itself. -/
theorem triggerKey_is_final_iff (trigger : String) (text : List Char) :
    (triggerKey trigger).toList.head? ≠ some '!' ∧
      (∀ c ∈ (triggerKey trigger).toList.getLast?, isBlank c = false) ∧
      ((∀ c ∈ (triggerKey trigger).toList.head?, isBlank c = false) ↔
        ¬ HasLooseMark trigger.toList) ∧
      (triggerKey (triggerKey trigger) = triggerKey trigger ↔ ¬ HasLooseMark trigger.toList) ∧
      ((∀ n, triggerKey^[n + 1] trigger = triggerKey trigger) ↔ ¬ HasLooseMark trigger.toList) ∧
      ((∀ (C : Type) (r : Registry C),
          r.entryOfTrigger? (triggerKey trigger) = r.entryOfTrigger? trigger) ↔
        ¬ HasLooseMark trigger.toList) ∧
      (∀ (C : Type) (r : Registry C), r.entryOfTrigger? (triggerArgument text).1 =
        r.entryOfTrigger? (String.ofList (splitFirst text).1)) ∧
      ((actionArgument? text).bind fun action ↦ actionArgument? action.toList) =
        actionArgument? text := by
  have hform : (triggerKey trigger).toList = normalizeTrigger trigger.toList := String.toList_ofList
  have hfinal := triggerKey_triggerKey_iff trigger
  rw [hform]
  refine ⟨head?_normalizeTrigger_ne_mark _, isBlank_getLast?_normalizeTrigger _,
    isBlank_head?_normalizeTrigger_iff _, hfinal, ?_, ?_, ?_, actionArgument?_bind_self text⟩
  · rw [← hfinal]
    refine ⟨fun hall ↦ hall 1, fun hfixed n ↦ ?_⟩
    rw [Function.iterate_succ_apply, Function.iterate_fixed hfixed]
  · rw [Registry.entryOfTrigger?_eq_iff, hfinal]
  · rw [triggerArgument_fst, Registry.entryOfTrigger?_eq_iff, triggerKey_triggerKey_iff,
      String.toList_ofList]
    exact not_hasLooseMark_of_word fun c hc ↦ isBlank_of_mem_splitFirst hc

/-- Where a blank stands after the mark it is left in front, and a second normalization takes it
away. A command with such a trigger is not found under the normal form of the trigger. -/
theorem loose_mark_is_not_final :
    let r := (∅ : Registry Builtin).register { id := "ping", triggers := ["! ping"] } .ping
    triggerKey "! ping" = " ping" ∧ triggerKey (triggerKey "! ping") = "ping" ∧
      (r.entryOfTrigger? "! ping").map (·.command) = some .ping ∧
      r.entryOfTrigger? (triggerKey "! ping") = none := by
  decide

end Guildhall
