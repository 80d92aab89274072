import Guildhall.Command.Authoring
import Guildhall.Proofs.LowerCase
import Guildhall.Proofs.OwnerAccess

/-!
Names of custom commands and the texts that call them. The name under which a command is written is
a word in lower case (`CustomRequest.isName_of_ofArgs`), so that the text of the mark and the name,
alone or with more behind it, asks for the command of that very name (`Request.ofText_name`). Of
the answers of `command` only that a row was written says that something was added or updated
(`CustomAnswer.eq_written_of_text`).
-/

set_option autoImplicit false

namespace Guildhall

open Text

/-! ### Blanks at the end of a text -/

namespace Text

theorem trimEnd_append_blanks (s : List Char) {t : List Char} (ht : ∀ c ∈ t, isBlank c = true) :
    trimEnd (s ++ t) = trimEnd s := by
  have hblank : ∀ c ∈ t.reverse, isBlank c = true := fun c hc ↦ ht c (List.mem_reverse.mp hc)
  rw [trimEnd, List.reverse_append, List.dropWhile_append_of_pos hblank, trimEnd]

theorem trim_append_blanks (s : List Char) {t : List Char} (ht : ∀ c ∈ t, isBlank c = true) :
    trim (s ++ t) = trim s := by
  rw [trim, trimStart, List.dropWhile_append]
  split_ifs with hnone
  · have hall : List.dropWhile isBlank t = [] := List.dropWhile_eq_nil_iff.mpr ht
    rw [hall, trim, trimStart, List.isEmpty_iff.mp hnone]
  · rw [trimEnd_append_blanks _ ht, trim, trimStart]

theorem trim_cons_of_blank {c : Char} (hc : isBlank c = true) (s : List Char) :
    trim (c :: s) = trim s := by
  rw [trim, trim, trimStart, trimStart, List.dropWhile_cons_of_pos hc]

end Text

/-! ### Texts that call a name -/

/-- Whether a text can be the name of a custom command: a word in lower case. -/
structure IsName (name : List Char) : Prop where
  ne_nil : name ≠ []
  word : ∀ c ∈ name, isBlank c = false
  lower : toLower name = name

namespace Request

theorem ofText_append_blanks (mark text : List Char) {t : List Char}
    (ht : ∀ c ∈ t, isBlank c = true) : ofText mark (text ++ t) = ofText mark text := by
  rw [ofText, ofText, trim_append_blanks text ht]

/-- A body that begins with a name asks for the command of the name, with what follows it. -/
theorem ofBody_name {name : List Char} (hname : IsName name) {rest : List Char}
    (hrest : ∀ c ∈ rest.head?, isBlank c = true) :
    ofBody (name ++ rest) = .command name (trim rest) := by
  have hstart : trimStart (name ++ rest) = name ++ rest := by
    refine trimStart_eq_self fun c hc ↦ hname.word c ?_
    rw [List.head?_append_of_ne_nil _ hname.ne_nil] at hc
    exact List.mem_of_head? hc
  have hempty : name.isEmpty = false := by simp [hname.ne_nil]
  have hword : ∀ c ∈ name, (!isBlank c) = true := by simpa using hname.word
  cases rest with
  | nil =>
    have hsplit : splitBlank? (name ++ []) = none := by
      rw [splitBlank?_eq, List.append_nil, List.dropWhile_eq_nil_iff.mpr hword, if_pos rfl]
    simp only [ofBody, hstart, hsplit]
    rw [List.append_nil, hname.lower, hempty]
    rfl
  | cons b rest =>
    have hb : isBlank b = true := hrest b rfl
    obtain ⟨htake, hdrop⟩ := takeWhile_append_eq hword (t := b :: rest) (by simp [hb])
    have hsplit : splitBlank? (name ++ b :: rest) = some (name, rest) := by
      rw [splitBlank?_eq, hdrop, htake, if_neg (List.cons_ne_nil b rest), List.tail_cons]
    simp only [ofBody, hstart, hsplit]
    rw [hname.lower, hempty, trim_cons_of_blank hb]
    rfl

/-- The text of the mark and a name, alone or followed by a blank and more, asks for the command of
the name. -/
theorem ofText_name {mark name : List Char} (hmark : ∀ c ∈ mark.head?, isBlank c = false)
    (hname : IsName name) {tail : List Char} (htail : ∀ c ∈ tail.head?, isBlank c = true) :
    ofText mark (mark ++ name ++ tail) = .command name (trim tail) := by
  obtain ⟨t, ht, hsplit⟩ := exists_eq_trimEnd_append tail
  have hlast := isBlank_getLast?_trimEnd tail
  -- Blanks at the end of the text change nothing.
  have hargs : trim tail = trim (trimEnd tail) := by
    conv_lhs => rw [hsplit]
    exact trim_append_blanks _ ht
  have htext : ofText mark (mark ++ name ++ tail) =
      ofText mark (mark ++ (name ++ trimEnd tail)) := by
    conv_lhs => rw [hsplit]
    rw [← List.append_assoc (mark ++ name), ofText_append_blanks _ _ ht, List.append_assoc]
  have hhead : ∀ c ∈ (trimEnd tail).head?, isBlank c = true := by
    intro c hc
    refine htail c ?_
    rw [hsplit, List.head?_append, Option.mem_def.mp hc]
    rfl
  rw [htext, hargs, ofText_append hmark, ofBody_name hname hhead]
  · intro c hc
    rw [List.head?_append_of_ne_nil _ hname.ne_nil] at hc
    exact hname.word c (List.mem_of_head? hc)
  · intro c hc
    rw [List.getLast?_append] at hc
    cases hend : (trimEnd tail).getLast? with
    | none =>
      rw [hend, Option.none_or] at hc
      exact hname.word c (List.mem_of_getLast? hc)
    | some d =>
      rw [hend, Option.some_or] at hc
      exact hlast c (by rwa [hend])
  · exact List.append_ne_nil_of_left_ne_nil hname.ne_nil _

end Request

/-- What is asked to be written under a name is written under a word in lower case. -/
theorem CustomRequest.isName_of_ofArgs {args : List Char} {mode : WriteMode}
    {name template : String} (hrequest : ofArgs args = .write mode name template) :
    IsName name.toList := by
  unfold ofArgs triggerArgument at hrequest
  dsimp only at hrequest
  split at hrequest
  · split_ifs at hrequest with hempty
    obtain ⟨-, rfl, -⟩ := CustomRequest.write.inj hrequest
    rw [Bool.or_eq_true, not_or] at hempty
    have hword : ∀ c ∈ (splitFirst (subcommand args).2).1, isBlank c = false :=
      fun c hc ↦ isBlank_of_mem_splitFirst hc
    rw [String.toList_ofList]
    refine ⟨?_, (normalizeTrigger_word hword).1, toLower_normalizeTrigger _⟩
    simpa [String.isEmpty_iff] using hempty.1
  all_goals first | (split_ifs at hrequest) | cases hrequest

/-! ### Answers -/

namespace CustomAnswer

variable (mark name : String)

theorem text_created : (written .create name).text mark = s!"Added `{mark ++ name}`." := by
  have htext : (written .create name).text mark = s!"Added `{mark}{name}`." := rfl
  simp [htext, toString, String.append_assoc]

theorem text_overwritten :
    (written .overwrite name).text mark = s!"Updated `{mark ++ name}`." := by
  have htext : (written .overwrite name).text mark = s!"Updated `{mark}{name}`." := rfl
  simp [htext, toString, String.append_assoc]

theorem text_deleted : (deleted name).text mark = s!"Deleted `{mark ++ name}`." := by
  have htext : (deleted name).text mark = s!"Deleted `{mark}{name}`." := rfl
  simp [htext, toString, String.append_assoc]

/-- No answer but that a row was written begins as that answer does. -/
theorem take_text {answer : CustomAnswer} (hanswer : ∀ mode name, answer ≠ written mode name) :
    (answer.text mark).toList.take 2 ≠ ['A', 'd'] ∧
      (answer.text mark).toList.take 2 ≠ ['U', 'p'] := by
  cases answer with
  | written mode name => exact absurd rfl (hanswer mode name)
  | usage =>
    have htext : usage.text mark =
      "Usage: command add <name> <template> | command replace <name> <template> | " ++
        "command delete <name> | command show <name> | command list" := rfl
    simp [htext]
  | isBuiltin name =>
    have htext : (isBuiltin name).text mark = s!"`{name}` is a built-in command." := rfl
    simp [htext, toString]
  | refused mode name =>
    cases mode with
    | create =>
      have htext : (refused .create name).text mark =
        s!"`{mark}{name}` already exists. Use `command replace` to change it." := rfl
      simp [htext, toString]
    | overwrite =>
      have htext : (refused .overwrite name).text mark =
        s!"There is no `{mark}{name}`. Use `command add` to create it." := rfl
      simp [htext, toString]
  | deleted name => simp [text_deleted, toString]
  | absent name =>
    have htext : (absent name).text mark = s!"There is no `{mark}{name}`." := rfl
    simp [htext, toString]
  | shown found =>
    have htext : (shown found).text mark =
      s!"`{mark}{found.name}` (by {found.owner}): {found.template}" := rfl
    simp [htext, toString]
  | listing rows =>
    cases rows with
    | nil =>
      have htext : (listing []).text mark = "No custom commands yet." := rfl
      simp [htext]
    | cons row rows =>
      have htext : (listing (row :: rows)).text mark = "\n".intercalate ("Custom commands:" ::
        (row :: rows).map fun row ↦ s!"- {mark}{row.name}: {templateLine row.template}") := rfl
      rw [htext, String.toList_intercalate]
      simp
  | unsaved e =>
    have htext : (unsaved e).text mark = s!"That change was not saved: {e.message}" := rfl
    simp [htext, toString]
  | unreadable e =>
    have htext : (unreadable e).text mark = s!"Could not load custom commands: {e.message}" := rfl
    simp [htext, toString]

variable {mark}

/-- The text that says that a command was added or updated is the answer to a written row. -/
theorem eq_written_of_text {called : String} {answer : CustomAnswer}
    (htext : answer.text mark = s!"Added `{called}`." ∨
      answer.text mark = s!"Updated `{called}`.") :
    ∃ mode name, answer = written mode name ∧ called = mark ++ name := by
  by_cases hwritten : ∃ mode name, answer = written mode name
  · obtain ⟨mode, name, rfl⟩ := hwritten
    refine ⟨mode, name, rfl, ?_⟩
    cases mode with
    | create =>
      rw [text_created] at htext
      rcases htext with htext | htext
      · have hsame : mark ++ name ++ "`." = called ++ "`." := by simpa [toString] using htext
        exact ((String.append_left_inj _).mp hsame).symm
      · exact absurd (congrArg (·.toList.head?) htext) (by simp [toString])
    | overwrite =>
      rw [text_overwritten] at htext
      rcases htext with htext | htext
      · exact absurd (congrArg (·.toList.head?) htext) (by simp [toString])
      · have hsame : mark ++ name ++ "`." = called ++ "`." := by simpa [toString] using htext
        exact ((String.append_left_inj _).mp hsame).symm
  · push Not at hwritten
    obtain ⟨hadded, hupdated⟩ := take_text mark hwritten
    rcases htext with htext | htext
    · exact absurd (by rw [htext]; simp [toString]) hadded
    · exact absurd (by rw [htext]; simp [toString]) hupdated

end CustomAnswer

end Guildhall
