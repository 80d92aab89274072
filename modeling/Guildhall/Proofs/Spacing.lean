import Guildhall.Proofs.Spelling

/-!
Spacing of a message. What follows the mark is cut at its first blank and trimmed, and the action
is put together from the words of what is left, each with one space before it. So texts with the
same words after the mark ask for the same, but for the spacing of the arguments
(`Request.respaced_ofText`): they come to the same checkpoint with other arguments
(`Bot.checkpoint?_respaced`), and no spacing gets a message past a rule or a cooldown
(`Bot.spacing_changes_no_check`).
-/

set_option autoImplicit false

namespace Guildhall

open Text

/-! ### Requests -/

namespace Request

/-- Two requests that differ in the spacing of the arguments at most. -/
inductive Respaced : Request → Request → Prop
  | nothing : Respaced .nothing .nothing
  | bareMark : Respaced .bareMark .bareMark
  | command {token args args' : List Char} (hwords : words args = words args') :
      Respaced (.command token args) (.command token args')

/-- A text that begins with the mark is read by what follows the mark, unless it is blank. -/
theorem ofText_of_after? {mark text body : List Char}
    (hbody : Pattern.after? mark (trim text) = some body) :
    ofText mark text = if trim text = [] then .nothing else ofBody body := by
  simp only [ofText, hbody, List.isEmpty_iff]

/-- A body without words is empty, as it does not end with a blank. -/
theorem eq_nil_of_words_eq_nil {body : List Char}
    (hlast : ∀ c ∈ body.getLast?, isBlank c = false) (hwords : words body = []) : body = [] := by
  rw [words_eq_nil_iff, trim_eq_trimStart hlast, trimStart, List.dropWhile_eq_nil_iff] at hwords
  by_contra hne
  have hblank := hwords _ (List.getLast_mem hne)
  rw [hlast _ (List.getLast_mem_getLast? hne)] at hblank
  exact Bool.false_ne_true hblank

/-- Bodies with the same words ask for the same, but for the spacing of the arguments. -/
theorem respaced_ofBody {body body' : List Char}
    (hlast : ∀ c ∈ body.getLast?, isBlank c = false)
    (hlast' : ∀ c ∈ body'.getLast?, isBlank c = false) (hwords : words body = words body') :
    (ofBody body).Respaced (ofBody body') := by
  rw [words_eq body, words_eq body'] at hwords
  rw [ofBody_eq hlast, ofBody_eq hlast']
  by_cases hbare : (splitFirst body).1 = []
  · have hbare' : (splitFirst body').1 = [] := by
      by_contra hne
      simp [hbare, hne] at hwords
    rw [if_pos hbare, if_pos hbare']
    exact .bareMark
  · have hne : (splitFirst body').1 ≠ [] := by
      intro hbare'
      simp [hbare, hbare'] at hwords
    rw [if_neg hbare, if_neg hne] at hwords
    obtain ⟨htoken, hrest⟩ := List.cons.inj hwords
    rw [if_neg hbare, if_neg hne, htoken]
    exact .command hrest

/-- Texts that begin with the mark and go on with the same words ask for the same, but for the
spacing of the arguments. -/
theorem respaced_ofText {mark text text' body body' : List Char}
    (hbody : Pattern.after? mark (trim text) = some body)
    (hbody' : Pattern.after? mark (trim text') = some body') (hwords : words body = words body') :
    (ofText mark text).Respaced (ofText mark text') := by
  have hlast := isBlank_getLast?_of_after? hbody
  have hlast' := isBlank_getLast?_of_after? hbody'
  have hnil : body = [] ↔ body' = [] := by
    constructor
    · rintro rfl
      exact eq_nil_of_words_eq_nil hlast' hwords.symm
    · rintro rfl
      exact eq_nil_of_words_eq_nil hlast hwords
  have hblank : trim text = [] ↔ trim text' = [] := by
    rw [after?_eq_some hbody, after?_eq_some hbody', List.append_eq_nil_iff,
      List.append_eq_nil_iff, hnil]
  rw [ofText_of_after? hbody, ofText_of_after? hbody']
  by_cases hempty : trim text = []
  · rw [if_pos hempty, if_pos (hblank.mp hempty)]
    exact .nothing
  · rw [if_neg hempty, if_neg (mt hblank.mpr hempty)]
    exact respaced_ofBody hlast hlast' hwords

end Request

/-! ### Messages -/

namespace Bot

variable {γ ω : Type} {bot : Bot γ ω} {m : Moment} {msg : Message} {text' : String}
  {s : BotState γ ω}

/-- Respaced messages come to the same checkpoint, but for the spacing of the arguments. -/
theorem checkpoint?_respaced
    (hrespaced : (Request.ofText bot.mark.toList msg.text.toList).Respaced
      (Request.ofText bot.mark.toList text'.toList)) (s : BotState γ ω) :
    ∃ args', bot.checkpoint? { msg with text := text' } s =
      (bot.checkpoint? msg s).map ({ · with args := args' }) := by
  generalize hrequest : Request.ofText bot.mark.toList msg.text.toList = request at hrespaced
  generalize hrequest' : Request.ofText bot.mark.toList text'.toList = request' at hrespaced
  cases hrespaced with
  | nothing => exact ⟨[], by simp [checkpoint?, hrequest, hrequest']⟩
  | bareMark => exact ⟨[], by simp [checkpoint?, hrequest, hrequest']⟩
  | @command token args args' hwords =>
    refine ⟨args', ?_⟩
    rw [checkpoint?_respelled hrequest hrequest', ofList_actionString, ← hwords]
    cases hcheckpoint : bot.checkpoint? msg s with
    | none => rfl
    | some cp =>
      obtain ⟨token', -, -, -, hcalled, -, -, haction⟩ := checkpoint?_eq_some hcheckpoint
      obtain ⟨rfl, rfl⟩ := Request.command.inj (hrequest.symm.trans hcalled)
      rw [ofList_actionString] at haction
      rw [Option.map_some, Option.map_some, haction]

/-- A command that runs is told by its outcome, whatever the message and the arguments. -/
theorem run_outcome (args : List Char) (t : Target) (r : Registry Builtin) (sc : Scope γ) (w : ω) :
    (bot.run m msg args t r sc w).1.1 =
      match t with
      | .builtin entry => .builtin entry.spec.id
      | .custom found => .custom found.name := by
  cases t with
  | builtin entry => simp only [run]
  | custom found => rfl

/-- What a checkpoint leads to depends on the spacing of the arguments only where a command
runs, and the outcome is the same there as well. -/
theorem pass_respaced (r : Registry Builtin) (cp : Checkpoint γ ω) (args' : List Char) :
    (bot.pass m { msg with text := text' } r { cp with args := args' }).1.1 =
        (bot.pass m msg r cp).1.1 ∧
      (¬ (bot.pass m msg r cp).1.1.IsRun →
        bot.pass m { msg with text := text' } r { cp with args := args' } =
          bot.pass m msg r cp) := by
  have hcheck : bot.check m { msg with text := text' } cp.action cp.scope cp.world =
      bot.check m msg cp.action cp.scope cp.world := rfl
  simp only [pass, hcheck]
  rcases bot.check m msg cp.action cp.scope cp.world with ⟨_ | ⟨refusal, notice⟩, sc, w⟩
  · simp only [run_outcome, true_and]
    cases cp.target with
    | builtin entry => exact fun hnot ↦ (hnot trivial).elim
    | custom found => exact fun hnot ↦ (hnot trivial).elim
  · exact ⟨rfl, fun _ ↦ rfl⟩

/-- A called command has the same outcome for every spacing of its arguments, and where it does
not run the same reply and effects. -/
theorem call_respaced (bot : Bot γ ω) (m : Moment) (msg : Message) (text' : String)
    (token : List Char) {args args' : List Char} (hwords : words args = words args')
    (r : Registry Builtin) (sc : Scope γ) (w : ω) :
    (bot.call m { msg with text := text' } token args' r sc w).1.1 =
        (bot.call m msg token args r sc w).1.1 ∧
      (¬ (bot.call m msg token args r sc w).1.1.IsRun →
        bot.call m { msg with text := text' } token args' r sc w =
          bot.call m msg token args r sc w) := by
  rcases htarget : bot.target (String.ofList token) r sc w with ⟨_ | t, sc', w'⟩
  · simp [call, htarget]
  · rw [call_eq_pass htarget, call_eq_pass htarget, ofList_actionString, ofList_actionString,
      ← hwords]
    exact pass_respaced r ⟨actionOf token (words args), args, t, sc', w'⟩ args'

/-- Respaced messages have the same outcome, and where no command runs the same reply and
effects. -/
theorem handle_respaced
    (hrespaced : (Request.ofText bot.mark.toList msg.text.toList).Respaced
      (Request.ofText bot.mark.toList text'.toList)) (m : Moment) (s : BotState γ ω) :
    (bot.handle m { msg with text := text' } s).1.map (·.1) =
        (bot.handle m msg s).1.map (·.1) ∧
      ((∀ outcome, (bot.handle m msg s).1.map (·.1) = .ok outcome → ¬ outcome.IsRun) →
        bot.handle m { msg with text := text' } s = bot.handle m msg s) := by
  generalize hrequest : Request.ofText bot.mark.toList msg.text.toList = request at hrespaced
  generalize hrequest' : Request.ofText bot.mark.toList text'.toList = request' at hrespaced
  cases hrespaced with
  | nothing => simp [handle, hrequest, hrequest']
  | bareMark => simp [handle, hrequest, hrequest', respond]
  | @command token args args' hwords =>
    simp only [handle, hrequest, hrequest', Directory.within]
    rcases s.directory.scope bot.backend msg.guild s.world with ⟨e | sc, d, w⟩
    · exact ⟨rfl, fun _ ↦ rfl⟩
    simp only [respond]
    obtain ⟨hsame, hunrun⟩ := call_respaced bot m msg text' token hwords s.registry sc w
    constructor
    · exact congrArg Except.ok hsame
    · intro hnot
      rw [hunrun (hnot _ rfl)]

/-- No spacing gets a message past a rule. Texts that begin with the mark and go on with the same
words, whatever blanks are between, before and after them, come in every state to the same target
under the same action. The same check awaits them there, with one answer: both are denied or
neither is, and both meet the same cooldown. -/
theorem spacing_changes_no_check (bot : Bot γ ω) (msg : Message) (text' : String)
    {body body' : List Char}
    (hbody : Pattern.after? bot.mark.toList (trim msg.text.toList) = some body)
    (hbody' : Pattern.after? bot.mark.toList (trim text'.toList) = some body')
    (hwords : words body = words body') (s : BotState γ ω) :
    let msg' := { msg with text := text' }
    (∃ args', bot.checkpoint? msg' s = (bot.checkpoint? msg s).map ({ · with args := args' })) ∧
    ∀ m, (∀ cp cp', bot.checkpoint? msg s = some cp → bot.checkpoint? msg' s = some cp' →
        bot.check m msg' cp'.action cp'.scope cp'.world =
          bot.check m msg cp.action cp.scope cp.world) ∧
      (bot.handle m msg' s).1.map (·.1) = (bot.handle m msg s).1.map (·.1) ∧
      ((∀ outcome, (bot.handle m msg s).1.map (·.1) = .ok outcome → ¬ outcome.IsRun) →
        bot.handle m msg' s = bot.handle m msg s) := by
  intro msg'
  have hrespaced := Request.respaced_ofText hbody hbody' hwords
  obtain ⟨args', hsame⟩ := checkpoint?_respaced hrespaced s
  refine ⟨⟨args', hsame⟩, fun m ↦ ⟨?_, handle_respaced hrespaced m s⟩⟩
  intro cp cp' hcheckpoint hcheckpoint'
  rw [hcheckpoint, Option.map_some] at hsame
  obtain rfl := Option.some.inj (hcheckpoint'.symm.trans hsame)
  rfl

/-- Wide, narrow and unbroken blanks get nobody past the rule on a subcommand. -/
theorem spacing_changes_no_check_list :
    let s := ownersOnly ["event list"]
    let text' := "\u3000!\u2003event\t\u0085list\u00a0 feast\n"
    (switchedBot.handle (secondsIn 0) (saying "!event list feast") s).1.map (·.1) = .ok .denied ∧
      (switchedBot.handle (secondsIn 0) (saying text') s).1.map (·.1) = .ok .denied := by
  intro s text'
  have hdenied : (switchedBot.handle (secondsIn 0) (saying "!event list feast") s).1.map (·.1) =
      .ok .denied := by decide
  have hbody : Pattern.after? switchedBot.mark.toList (trim "!event list feast".toList) =
      some "event list feast".toList := by decide
  have hbody' : Pattern.after? switchedBot.mark.toList (trim text'.toList) =
      some "\u2003event\t\u0085list\u00a0 feast".toList := by decide
  obtain ⟨-, hsame⟩ := spacing_changes_no_check switchedBot (saying "!event list feast") text'
    hbody hbody' (by decide) s
  refine ⟨hdenied, ?_⟩
  exact (hsame (secondsIn 0)).2.1.trans hdenied

end Bot

end Guildhall
