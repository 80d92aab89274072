import Guildhall.Bot.Dispatch
import Guildhall.Proofs.NormalTriggers

/-!
The action that a message is checked under, and the action that its text names. A message that
calls a command reaches one checkpoint: there its action has to be granted and rested before the
command runs (`Bot.handle_eq_of_checkpoint?`, `Bot.not_isRun_of_checkpoint?_eq_none`). Rules are
stored under the action that a text names. The text after the mark names the action that the
message is checked under exactly if it does not begin with `!`
(`Bot.actionArgument?_body_iff`): a stored name loses its marks, and the checked one keeps them.
The command is found without them, so that a rule on it does not hold for a message with one mark
too many (`doubled_mark_runs_locked_ping`).
-/

set_option autoImplicit false

namespace Guildhall

open Text

/-! ### The request of a text -/

theorem after?_eq_some {mark text body : List Char}
    (hbody : Pattern.after? mark text = some body) : text = mark ++ body := by
  unfold Pattern.after? at hbody
  split_ifs at hbody with hprefix
  obtain ⟨rest, rfl⟩ := List.isPrefixOf_iff_prefix.mp hprefix
  have hrest : rest = body := by simpa using hbody
  rw [hrest]

namespace Request

/-- A body is cut as the text of an action is, at the first word; one without words is bare. -/
theorem ofBody_eq {body : List Char} (hlast : ∀ c ∈ body.getLast?, isBlank c = false) :
    ofBody body = if (splitFirst body).1 = [] then .bareMark else
      .command (toLower (splitFirst body).1) (splitFirst body).2 := by
  unfold ofBody splitFirst
  rw [trim_eq_trimStart hlast]
  cases hsplit : splitBlank? (trimStart body) with
  | none => simp only [hsplit, List.isEmpty_iff, toLower_eq_nil_iff]
  | some parts => simp only [hsplit, List.isEmpty_iff, toLower_eq_nil_iff]

/-- The body of a command begins with the word that is its token. -/
theorem ofBody_eq_command {body token args : List Char}
    (hlast : ∀ c ∈ body.getLast?, isBlank c = false)
    (hcommand : ofBody body = .command token args) :
    token = toLower (splitFirst body).1 ∧ args = (splitFirst body).2 ∧
      (splitFirst body).1 ≠ [] := by
  rw [ofBody_eq hlast] at hcommand
  split_ifs at hcommand with hempty
  obtain ⟨rfl, rfl⟩ := Request.command.inj hcommand
  exact ⟨rfl, rfl, hempty⟩

/-- What follows the mark of a trimmed text does not end with a blank. -/
theorem isBlank_getLast?_of_after? {mark text body : List Char}
    (hbody : Pattern.after? mark (trim text) = some body) :
    ∀ c ∈ body.getLast?, isBlank c = false := by
  have hsuffix : body <:+ trim text := ⟨mark, (after?_eq_some hbody).symm⟩
  exact isBlank_getLast?_of_suffix hsuffix (isBlank_getLast?_trimEnd (trimStart text))

/-- A text that calls a command is the mark and the body of the command. -/
theorem ofText_eq_command {mark text token args : List Char}
    (hcommand : ofText mark text = .command token args) :
    ∃ body, Pattern.after? mark (trim text) = some body ∧
      (∀ c ∈ body.getLast?, isBlank c = false) ∧ ofBody body = .command token args := by
  simp only [ofText] at hcommand
  split_ifs at hcommand with hempty
  cases hafter : Pattern.after? mark (trim text) with
  | none => simp [hafter] at hcommand
  | some body =>
    simp only [hafter] at hcommand
    exact ⟨body, rfl, isBlank_getLast?_of_after? hafter, hcommand⟩

/-- The token of a command is a word. -/
theorem token_of_ofText {mark text token args : List Char}
    (hcommand : ofText mark text = .command token args) :
    token ≠ [] ∧ ∀ c ∈ token, isBlank c = false := by
  obtain ⟨body, -, hlast, hbody⟩ := ofText_eq_command hcommand
  obtain ⟨rfl, -, hne⟩ := ofBody_eq_command hlast hbody
  refine ⟨fun hnil ↦ hne ((toLower_eq_nil_iff _).mp hnil), ?_⟩
  exact isBlank_of_mem_toLower fun c hc ↦ isBlank_of_mem_splitFirst hc

end Request

/-! ### The action that a text names -/

/-- The body of a command names the action that the command is checked under, unless it begins
with `!`. -/
theorem actionNamed?_eq_some_actionString_iff {body token args : List Char}
    (hlast : ∀ c ∈ body.getLast?, isBlank c = false)
    (hcommand : Request.ofBody body = .command token args) :
    actionNamed? body = some (actionString token args) ↔ (trim body).head? ≠ some '!' := by
  obtain ⟨rfl, rfl, hne⟩ := Request.ofBody_eq_command hlast hcommand
  have hword : ∀ c ∈ (splitFirst body).1, isBlank c = false :=
    fun c hc ↦ isBlank_of_mem_splitFirst hc
  rw [← head?_splitFirst]
  simp only [actionNamed?]
  constructor
  · intro hnamed hmark
    split_ifs at hnamed with hempty
    obtain ⟨hkey, hhead⟩ := normalizeTrigger_word hword
    have hlower : toLower (splitFirst body).1 ≠ [] := fun hnil ↦
      hne ((toLower_eq_nil_iff _).mp hnil)
    -- Equal actions begin alike, and a normal form never begins with the mark.
    have hheads := congrArg List.head? (Option.some.inj hnamed)
    rw [head?_actionString (by simpa using hempty) hkey,
      head?_actionString hlower (isBlank_of_mem_toLower hword)] at hheads
    refine hhead ((head?_toLower_eq_mark_iff _).mp ?_)
    rw [hheads, head?_toLower_eq_mark_iff, head?_toLower_eq_mark_iff]
    exact hmark
  · intro hhead
    have hkey : normalizeTrigger (splitFirst body).1 = toLower (splitFirst body).1 := by
      rw [normalizeTrigger_of_word hword]
      congr 1
      cases hsplit : (splitFirst body).1 with
      | nil => rfl
      | cons c rest =>
        have hc : c ≠ '!' := by simpa [hsplit] using hhead
        simp [hc]
    rw [hkey, if_neg (by simpa [toLower_eq_nil_iff] using hne)]

/-! ### Checkpoints -/

/-- Whether a command ran. -/
def Outcome.IsRun : Outcome → Prop
  | builtin _ | custom _ => True
  | ignored | denied | coolingDown _ | keyword _ => False

/-- Whether no command was called. -/
def Outcome.IsUncalled : Outcome → Prop
  | ignored | keyword _ => True
  | denied | coolingDown _ | builtin _ | custom _ => False

theorem Outcome.IsUncalled.not_isRun {outcome : Outcome} (huncalled : outcome.IsUncalled) :
    ¬ outcome.IsRun := by
  cases outcome with
  | ignored | denied | coolingDown left | keyword name => exact id
  | builtin id | custom name => exact huncalled.elim

/-- A command that a message calls, with the guild and the world as the checks find them. -/
structure Checkpoint (γ ω : Type) where
  action : String
  args : List Char
  target : Target
  scope : Scope γ
  world : ω

namespace Bot

variable {γ ω : Type}

/-- The checkpoint that a message comes to, if it calls a command. -/
def checkpoint? (bot : Bot γ ω) (msg : Message) (s : BotState γ ω) : Option (Checkpoint γ ω) :=
  match Request.ofText bot.mark.toList msg.text.toList with
  | .command token args =>
    match s.directory.scope bot.backend msg.guild s.world with
    | (.error _, _, _) => none
    | (.ok sc, _, w) =>
      match bot.target (String.ofList token) s.registry sc w with
      | (none, _, _) => none
      | (some target, scope, world) =>
        some { action := String.ofList (actionString token args), args, target, scope, world }
  | .nothing | .bareMark | .remark _ => none

/-- Why an action may not be run now, or nothing where it may. -/
def check (bot : Bot γ ω) (m : Moment) (msg : Message) (action : String) (sc : Scope γ) (w : ω) :
    Option (Outcome × String) × Scope γ × ω :=
  let rules := bot.backend.stores.rules
  let rank := bot.rankOf msg.invoker
  match sc.onPolicy (·.authorize rules rank msg.invoker action ·) w with
  | (.denied rule, sc, w) => (some (.denied, rule.denial action), sc, w)
  | (.granted, sc, w) =>
    match sc.onPolicy (·.checkCooldown rules rank m.now action ·) w with
    | (some left, sc, w) => (some (.coolingDown left, cooldownNotice action left), sc, w)
    | (none, sc, w) => (none, sc, w)

/-- How a message comes to its checkpoint. -/
theorem checkpoint?_eq_some {bot : Bot γ ω} {msg : Message} {s : BotState γ ω}
    {cp : Checkpoint γ ω} (hcheckpoint : bot.checkpoint? msg s = some cp) :
    ∃ token sc d w, Request.ofText bot.mark.toList msg.text.toList = .command token cp.args ∧
      s.directory.scope bot.backend msg.guild s.world = (.ok sc, d, w) ∧
      bot.target (String.ofList token) s.registry sc w = (some cp.target, cp.scope, cp.world) ∧
      cp.action = String.ofList (actionString token cp.args) := by
  unfold checkpoint? at hcheckpoint
  cases hrequest : Request.ofText bot.mark.toList msg.text.toList with
  | command token args =>
    rcases hscope : s.directory.scope bot.backend msg.guild s.world with ⟨_ | sc, d, w⟩
    · simp [hrequest, hscope] at hcheckpoint
    · rcases htarget : bot.target (String.ofList token) s.registry sc w with ⟨_ | t, sc', w'⟩
      · simp [hrequest, hscope, htarget] at hcheckpoint
      · simp only [hrequest, hscope, htarget, Option.some.injEq] at hcheckpoint
        subst hcheckpoint
        exact ⟨token, sc, d, w, rfl, rfl, htarget, rfl⟩
  | nothing => simp [hrequest] at hcheckpoint
  | bareMark => simp [hrequest] at hcheckpoint
  | remark text => simp [hrequest] at hcheckpoint

/-- No message is checked under an action that begins with a space. -/
theorem ne_space_of_checkpoint? {bot : Bot γ ω} {msg : Message} {s : BotState γ ω}
    {cp : Checkpoint γ ω} (hcheckpoint : bot.checkpoint? msg s = some cp) :
    cp.action.toList.head? ≠ some ' ' := by
  obtain ⟨token, -, -, -, hrequest, -, -, haction⟩ := checkpoint?_eq_some hcheckpoint
  obtain ⟨hne, hword⟩ := Request.token_of_ofText hrequest
  rw [haction, String.toList_ofList]
  exact head?_actionString_ne_space hne hword cp.args

/-- What a message at a checkpoint leads to: its command runs unless a check refuses it. -/
def pass (bot : Bot γ ω) (m : Moment) (msg : Message) (r : Registry Builtin)
    (cp : Checkpoint γ ω) : (Outcome × Option String) × Registry Builtin × Scope γ × ω :=
  match bot.check m msg cp.action cp.scope cp.world with
  | (some (refusal, notice), sc, w) => ((refusal, some notice), r, sc, w)
  | (none, sc, w) => bot.run m msg cp.args cp.target r sc w

theorem call_eq_pass {bot : Bot γ ω} {m : Moment} {msg : Message} {token args : List Char}
    {r : Registry Builtin} {sc sc' : Scope γ} {w w' : ω} {t : Target}
    (htarget : bot.target (String.ofList token) r sc w = (some t, sc', w')) :
    bot.call m msg token args r sc w =
      bot.pass m msg r ⟨String.ofList (actionString token args), args, t, sc', w'⟩ := by
  simp only [call, htarget, pass, check]
  generalize String.ofList (actionString token args) = action
  rcases hauthorize : sc'.onPolicy (·.authorize bot.backend.stores.rules (bot.rankOf msg.invoker)
    msg.invoker action ·) w' with ⟨_ | rule, sc₁, w₁⟩
  · rcases hcooldown : sc₁.onPolicy (·.checkCooldown bot.backend.stores.rules
      (bot.rankOf msg.invoker) m.now action ·) w₁ with ⟨_ | left, sc₂, w₂⟩
    · simp only [hcooldown]
    · simp only [hcooldown]
  · rfl

/-- A message that calls a command leads to what its checkpoint leads to. -/
theorem handle_eq_of_checkpoint? {bot : Bot γ ω} {msg : Message} {s : BotState γ ω}
    {cp : Checkpoint γ ω} (hcheckpoint : bot.checkpoint? msg s = some cp) (m : Moment) :
    ∃ d : Directory γ, (s.directory.scope bot.backend msg.guild s.world).2.1 = d ∧
      bot.handle m msg s =
        let ((outcome, text), registry, sc, world) := bot.pass m msg s.registry cp
        (.ok (outcome, text.map fun text ↦ { channel := msg.channel, text }),
          { directory := { d with scopes := d.scopes.insert msg.guild sc }, registry, world }) := by
  obtain ⟨token, sc, d, w, hrequest, hscope, htarget, haction⟩ := checkpoint?_eq_some hcheckpoint
  refine ⟨d, by rw [hscope], ?_⟩
  simp only [handle, hrequest, Directory.within, hscope, respond, call_eq_pass htarget]
  rw [← haction]

theorem isUncalled_remark (bot : Bot γ ω) (m : Moment) (msg : Message) (text : List Char)
    (sc : Scope γ) (w : ω) : (bot.remark m msg text sc w).1.1.IsUncalled := by
  simp only [remark]
  rcases sc.matchingKeyword bot.backend.stores (String.ofList text) w with ⟨_ | _ | hit, sc', w'⟩
  · simp [Outcome.IsUncalled]
  · simp [Outcome.IsUncalled]
  · simp [Outcome.IsUncalled]

/-- A message that comes to no checkpoint calls no command. -/
theorem isUncalled_of_checkpoint?_eq_none {bot : Bot γ ω} {m : Moment} {msg : Message}
    {s : BotState γ ω} {outcome : Outcome} {reply : Option Reply}
    (hcheckpoint : bot.checkpoint? msg s = none)
    (houtcome : (bot.handle m msg s).1 = .ok (outcome, reply)) : outcome.IsUncalled := by
  unfold checkpoint? at hcheckpoint
  unfold handle at houtcome
  cases hrequest : Request.ofText bot.mark.toList msg.text.toList with
  | nothing =>
    simp only [hrequest, Except.ok.injEq, Prod.mk.injEq] at houtcome
    simp [← houtcome.1, Outcome.IsUncalled]
  | bareMark =>
    rcases hscope : s.directory.scope bot.backend msg.guild s.world with ⟨_ | sc, d, w⟩
    · simp [hrequest, Directory.within, hscope] at houtcome
    · simp only [hrequest, Directory.within, hscope, respond, Except.ok.injEq,
        Prod.mk.injEq] at houtcome
      simp [← houtcome.1, Outcome.IsUncalled]
  | remark text =>
    rcases hscope : s.directory.scope bot.backend msg.guild s.world with ⟨_ | sc, d, w⟩
    · simp [hrequest, Directory.within, hscope] at houtcome
    · simp only [hrequest, Directory.within, hscope, respond, Except.ok.injEq,
        Prod.mk.injEq] at houtcome
      rw [← houtcome.1]
      exact isUncalled_remark bot m msg text sc w
  | command token args =>
    rcases hscope : s.directory.scope bot.backend msg.guild s.world with ⟨_ | sc, d, w⟩
    · simp [hrequest, Directory.within, hscope] at houtcome
    · rcases htarget : bot.target (String.ofList token) s.registry sc w with ⟨_ | t, sc', w'⟩
      · simp only [hrequest, Directory.within, hscope, respond, call, htarget, Except.ok.injEq,
          Prod.mk.injEq] at houtcome
        simp [← houtcome.1, Outcome.IsUncalled]
      · simp [hrequest, hscope, htarget] at hcheckpoint

/-- A message that called a command has the outcome of its checkpoint. -/
theorem handle_eq_iff {bot : Bot γ ω} {m : Moment} {msg : Message} {s : BotState γ ω}
    {outcome : Outcome} (hcalled : ¬ outcome.IsUncalled) :
    (bot.handle m msg s).1.map (·.1) = .ok outcome ↔
      ∃ cp, bot.checkpoint? msg s = some cp ∧ (bot.pass m msg s.registry cp).1.1 = outcome := by
  cases hcheckpoint : bot.checkpoint? msg s with
  | none =>
    rcases hhandle : (bot.handle m msg s).1 with e | ⟨found, reply⟩
    · simp [Except.map]
    · have huncalled := isUncalled_of_checkpoint?_eq_none hcheckpoint hhandle
      have hne : found ≠ outcome := by
        rintro rfl
        exact hcalled huncalled
      simp [Except.map, hne]
  | some cp =>
    obtain ⟨d, -, hpass⟩ := handle_eq_of_checkpoint? hcheckpoint m
    simp [hpass, Except.map]

/-- Nothing runs for a message that comes to no checkpoint. -/
theorem not_isRun_of_checkpoint?_eq_none {bot : Bot γ ω} {m : Moment} {msg : Message}
    {s : BotState γ ω} {outcome : Outcome} {reply : Option Reply}
    (hcheckpoint : bot.checkpoint? msg s = none)
    (houtcome : (bot.handle m msg s).1 = .ok (outcome, reply)) : ¬ outcome.IsRun :=
  (isUncalled_of_checkpoint?_eq_none hcheckpoint houtcome).not_isRun

/-- The text after the mark of a message that calls a command names the action that the message is
checked under, unless it begins with `!`. -/
theorem actionArgument?_body_iff {bot : Bot γ ω} {msg : Message} {s : BotState γ ω}
    {cp : Checkpoint γ ω} (hcheckpoint : bot.checkpoint? msg s = some cp) :
    ∃ body, Pattern.after? bot.mark.toList (trim msg.text.toList) = some body ∧
      (∀ m, (bot.handle m msg s).1.map (·.1) = .ok (bot.pass m msg s.registry cp).1.1) ∧
      (actionArgument? body = some cp.action ↔ (trim body).head? ≠ some '!') := by
  have hhandle : ∀ m, (bot.handle m msg s).1.map (·.1) =
      .ok (bot.pass m msg s.registry cp).1.1 := by
    intro m
    obtain ⟨d, -, hpass⟩ := handle_eq_of_checkpoint? hcheckpoint m
    rw [hpass]
    rfl
  obtain ⟨token, -, -, -, hrequest, -, -, haction⟩ := checkpoint?_eq_some hcheckpoint
  obtain ⟨body, hafter, hlast, hbody⟩ := Request.ofText_eq_command hrequest
  refine ⟨body, hafter, hhandle, ?_⟩
  rw [← actionNamed?_eq_some_actionString_iff hlast hbody, haction, actionArgument?]
  simp [String.ofList_inj]

end Bot

/-! ### One mark too many -/

/-- A bot for which everyone is a user. -/
def userBot : Bot GuildTables Unit := { backend := .memory, mark := "!", rankOf := fun _ ↦ .user }

/-- An open guild in which only owners may run `ping`. -/
def lockedHall : Scope GuildTables where
  id := "hall"
  stored := { GuildTables.empty with
    permissions := .ofRows [{ action := "ping", rank := .owner }] }

def lockedPing : BotState GuildTables Unit where
  directory := { scopes := .ofList [("hall", lockedHall)] }
  registry := (∅ : Registry Builtin).register Builtin.ping.spec .ping
  world := ()

def saying (text : String) : Message :=
  { guild := "hall", channel := "gate", invoker := { id := 3, name := "guest" }, text }

/-- The outcome of a text in the guild in which `ping` is locked. -/
def outcomeOf (text : String) : Except OpenError Outcome :=
  (userBot.handle { now := ⟨0⟩, today := default } (saying text) lockedPing).1.map (·.1)

namespace Bot

theorem actionArgument?_body_iff_ping :
    ∃ cp, userBot.checkpoint? (saying "!ping") lockedPing = some cp ∧
      actionArgument? "ping".toList = some cp.action := by
  have hsome : (userBot.checkpoint? (saying "!ping") lockedPing).isSome := by decide
  obtain ⟨cp, hcheckpoint⟩ := Option.isSome_iff_exists.mp hsome
  obtain ⟨body, hafter, -, hnamed⟩ := actionArgument?_body_iff hcheckpoint
  have hbody : Pattern.after? userBot.mark.toList (trim (saying "!ping").text.toList) =
      some "ping".toList := by decide
  rw [hbody, Option.some.injEq] at hafter
  subst hafter
  exact ⟨cp, hcheckpoint, hnamed.mpr (by decide)⟩

/-- With one mark too many the locked command runs: it is checked under an action that no rule can
be stored for, while its text names the action of the rule. -/
theorem doubled_mark_runs_locked_ping :
    outcomeOf "!ping" = .ok .denied ∧ outcomeOf "!!ping" = .ok (.builtin "ping") ∧
      (userBot.checkpoint? (saying "!!ping") lockedPing).map (·.action) = some "!ping" ∧
      Pattern.after? userBot.mark.toList (trim (saying "!!ping").text.toList) =
        some "!ping".toList ∧
      actionArgument? "!ping".toList = some "ping" := by
  decide

end Bot

end Guildhall
