import Guildhall.Proofs.Dispatch

/-!
What is said to messages. A reply says what its outcome is about: why the command was refused, what
the command answered or what a template expands to (`Bot.Says`). Whatever a message asks for and
whichever calls of the stores fail on the way, it is either ignored and nothing is said, or one
thing is said of its outcome (`Bot.isAnswered_respond`). So every message whose guild can be opened
gets one reply in its own channel unless it is ignored (`Bot.one_reply_per_message`), and the
replies of a run are those of the messages that are not ignored, in their order
(`Bot.channels_of_transcript`).
-/

set_option autoImplicit false

namespace Guildhall

variable {γ ω : Type}

namespace Bot

/-! ### What replies say -/

/-- What is said of an outcome to the message that asked for it. Nothing is said of a message that
is ignored. -/
inductive Says (bot : Bot γ ω) (m : Moment) (msg : Message) (r : Registry Builtin) :
    Request → Outcome → String → Prop
  | denial (token args : List Char) (rule : PermissionRule) :
    Says bot m msg r (.command token args) .denied
      (rule.denial (String.ofList (actionString token args)))
  | notice (token args : List Char) (left : Duration) :
    Says bot m msg r (.command token args) (.coolingDown left)
      (cooldownNotice (String.ofList (actionString token args)) left)
  | answer (token args : List Char) {entry : RegistryEntry Builtin}
    (hentry : r.entryOfTrigger? (String.ofList token) = some entry)
    (henabled : r.isEnabled entry.spec.id = true) (sc : Scope γ) (w : ω) :
    Says bot m msg r (.command token args) (.builtin entry.spec.id)
      ((entry.command.run bot.backend.stores m msg args entry.spec r sc w).1.text bot.mark
        msg.invoker.name)
  | command (token args : List Char) (found : CustomCommand) (sc : Scope γ) :
    Says bot m msg r (.command token args) (.custom found.name)
      (sc.events.expand m msg found.template (String.ofList args))
  | keyword (text : List Char) (hit : Keyword) (sc : Scope γ) :
    Says bot m msg r (.remark text) (.keyword hit.name)
      (sc.events.expand m msg hit.template (String.ofList text))

theorem not_says_ignored {bot : Bot γ ω} {m : Moment} {msg : Message} {r : Registry Builtin}
    {request : Request} {text : String} : ¬ bot.Says m msg r request .ignored text := by
  rintro ⟨⟩

/-- A message is ignored without a word, or something is said of its outcome. -/
def IsAnswered (bot : Bot γ ω) (m : Moment) (msg : Message) (r : Registry Builtin)
    (request : Request) (a : Outcome × Option String) : Prop :=
  a = (.ignored, none) ∨ ∃ text, a.2 = some text ∧ bot.Says m msg r request a.1 text

section Answers

variable (bot : Bot γ ω) (m : Moment) (msg : Message) {r : Registry Builtin} {sc : Scope γ} {w : ω}

/-- A refusal says why. -/
theorem says_check {bot : Bot γ ω} {m : Moment} {msg : Message} {token args : List Char}
    {refusal : Outcome} {notice : String} {a : Scope γ × ω}
    (hcheck : bot.check m msg (String.ofList (actionString token args)) sc w =
      (some (refusal, notice), a)) :
    bot.Says m msg r (.command token args) refusal notice := by
  rcases check_eq_some hcheck with ⟨rule, rfl, rfl⟩ | ⟨left, rfl, rfl⟩
  · exact .denial token args rule
  · exact .notice token args left

theorem isAnswered_run {token args : List Char} {t : Target}
    (ht : ∀ entry, t = .builtin entry →
      r.entryOfTrigger? (String.ofList token) = some entry ∧ r.isEnabled entry.spec.id = true)
    (sc : Scope γ) (w : ω) :
    bot.IsAnswered m msg r (.command token args) (bot.run m msg args t r sc w).1 := by
  cases t with
  | builtin entry =>
    obtain ⟨hentry, henabled⟩ := ht entry rfl
    exact Or.inr ⟨_, rfl, .answer token args hentry henabled sc w⟩
  | custom found => exact Or.inr ⟨_, rfl, .command token args found sc⟩

theorem isAnswered_call (r : Registry Builtin) (sc : Scope γ) (w : ω) (token args : List Char) :
    bot.IsAnswered m msg r (.command token args) (bot.call m msg token args r sc w).1 := by
  rcases htarget : bot.target (String.ofList token) r sc w with ⟨_ | t, sc₁, w₁⟩
  · rw [call, htarget]
    exact Or.inl rfl
  rw [call_eq_pass htarget, pass]
  dsimp only
  rcases hcheck : bot.check m msg (String.ofList (actionString token args)) sc₁ w₁ with
    ⟨_ | ⟨refusal, notice⟩, sc₂, w₂⟩
  · -- The check may have changed the guild, but it leaves the command that was found.
    refine isAnswered_run bot m msg (fun entry hentry ↦ ?_) sc₂ w₂
    exact entryOfTrigger?_of_target (hentry ▸ htarget)
  · exact Or.inr ⟨notice, rfl, says_check hcheck⟩

theorem isAnswered_remark (r : Registry Builtin) (sc : Scope γ) (w : ω) (text : List Char) :
    bot.IsAnswered m msg r (.remark text) (bot.remark m msg text sc w).1 := by
  simp only [remark]
  rcases sc.matchingKeyword bot.backend.stores (String.ofList text) w with ⟨e | _ | hit, sc', w'⟩
  · exact Or.inl rfl
  · exact Or.inl rfl
  · exact Or.inr ⟨_, rfl, .keyword text hit sc'⟩

/-- Every request is ignored without a word, or something is said of what it led to. -/
theorem isAnswered_respond (r : Registry Builtin) (sc : Scope γ) (w : ω) (request : Request) :
    bot.IsAnswered m msg r request (bot.respond m msg request r sc w).1 := by
  cases request with
  | nothing => exact Or.inl rfl
  | bareMark => exact Or.inl rfl
  | remark text => exact isAnswered_remark bot m msg r sc w text
  | command token args => exact isAnswered_call bot m msg r sc w token args

/-- What is said to a message is its reply. -/
theorem isAnswered_handle {bot : Bot γ ω} {m : Moment} {msg : Message} {s : BotState γ ω}
    {outcome : Outcome} {reply : Option Reply}
    (hhandle : (bot.handle m msg s).1 = .ok (outcome, reply)) :
    ∃ text : Option String, reply = text.map (fun text ↦ { channel := msg.channel, text }) ∧
      bot.IsAnswered m msg s.registry (.ofText bot.mark.toList msg.text.toList)
        (outcome, text) := by
  rw [handle_eq] at hhandle
  split_ifs at hhandle
  · simp only [Except.ok.injEq, Prod.mk.injEq] at hhandle
    obtain ⟨rfl, rfl⟩ := hhandle
    exact ⟨none, rfl, Or.inl rfl⟩
  · rcases hscope : s.directory.scope bot.backend msg.guild s.world with ⟨e | sc, d, w⟩
    · simp [Directory.within, hscope] at hhandle
    · simp only [Directory.within, hscope, Except.ok.injEq, Prod.mk.injEq] at hhandle
      obtain ⟨rfl, rfl⟩ := hhandle
      exact ⟨_, rfl, isAnswered_respond bot m msg s.registry sc w _⟩

end Answers

/-! ### Messages -/

/-- What becomes of a message where replies can be posted, and what is posted: its guild could not
be opened, or it is ignored, or its outcome is told in its channel. -/
theorem replies_process (bot : Bot γ ω) (m : Moment) (msg : Message) (s : BotState γ ω) :
    (∃ e, (bot.process true m msg s).1 = (.error (.opening e), [])) ∨
      (bot.process true m msg s).1 = (.ok .ignored, []) ∨
      ∃ outcome text,
        (bot.process true m msg s).1 = (.ok outcome, [{ channel := msg.channel, text }]) ∧
        bot.Says m msg s.registry (.ofText bot.mark.toList msg.text.toList) outcome text := by
  rw [process]
  rcases hhandle : bot.handle m msg s with ⟨e | ⟨outcome, reply⟩, s'⟩
  · exact Or.inl ⟨e, rfl⟩
  · obtain ⟨text, rfl, hanswered⟩ := isAnswered_handle (congrArg Prod.fst hhandle)
    rcases hanswered with hignored | ⟨said, htext, hsays⟩
    · obtain ⟨rfl, rfl⟩ := Prod.mk.inj hignored
      exact Or.inr (Or.inl rfl)
    · obtain rfl : text = some said := htext
      exact Or.inr (Or.inr ⟨outcome, said, rfl, hsays⟩)

/-- Whatever happened before, and whatever store calls fail while a message is handled: if it is
ignored, nothing is posted, and every other outcome posts one reply, in the channel of the message
and about that outcome. Nothing is posted where the guild could not be opened. -/
theorem one_reply_per_message (bot : Bot γ ω) (history : List (BotEvent ω)) (s₀ : BotState γ ω)
    (m : Moment) (msg : Message) :
    let s := bot.after history s₀
    match (bot.process true m msg s).1 with
    | (.ok .ignored, replies) => replies = []
    | (.ok outcome, replies) => ∃ text, replies = [{ channel := msg.channel, text }] ∧
        bot.Says m msg s.registry (.ofText bot.mark.toList msg.text.toList) outcome text
    | (.error e, replies) => replies = [] ∧ ∃ opening, e = .opening opening := by
  intro s
  rcases replies_process bot m msg s with ⟨e, hresult⟩ | hresult | ⟨outcome, text, hresult, hsays⟩
  · rw [hresult]
    exact ⟨rfl, e, rfl⟩
  · rw [hresult]
  · rw [hresult]
    cases outcome with
    | ignored => exact absurd hsays not_says_ignored
    | denied | coolingDown left | builtin id | custom name | keyword name =>
      exact ⟨text, rfl, hsays⟩

/-! ### Runs -/

/-- The messages of a history, each with its outcome and its replies. -/
def transcript (bot : Bot γ ω) :
    List (BotEvent ω) → BotState γ ω → List (Message × Except DispatchError Outcome × List Reply)
  | [], _ => []
  | .message isOpen m msg :: history, s =>
    (msg, (bot.process isOpen m msg s).1) ::
      bot.transcript history (bot.process isOpen m msg s).2
  | event :: history, s => bot.transcript history (bot.step s event)

/-- Whether a message was handled and not ignored. -/
def isHeard (result : Except DispatchError Outcome) : Bool :=
  result.toOption.any (· ≠ .ignored)

theorem channels_process (bot : Bot γ ω) (m : Moment) (msg : Message) (s : BotState γ ω) :
    (bot.process true m msg s).1.2.map (·.channel) =
      if isHeard (bot.process true m msg s).1.1 then [msg.channel] else [] := by
  rcases replies_process bot m msg s with ⟨e, hresult⟩ | hresult | ⟨outcome, text, hresult, hsays⟩
  · rw [hresult]
    rfl
  · rw [hresult]
    rfl
  · have hheard : outcome ≠ .ignored := by
      rintro rfl
      exact not_says_ignored hsays
    simp [hresult, isHeard, Except.toOption, hheard]

/-- While replies can be posted, the replies of a run are in the channels of the messages that were
heard, one for each of them and in their order. -/
theorem channels_of_transcript (bot : Bot γ ω) {history : List (BotEvent ω)} (s : BotState γ ω)
    (hopen : ∀ isOpen m msg, .message isOpen m msg ∈ history → isOpen = true) :
    ((bot.transcript history s).flatMap (·.2.2)).map (·.channel) =
      ((bot.transcript history s).filter fun e ↦ isHeard e.2.1).map (·.1.channel) := by
  induction history generalizing s with
  | nil => rfl
  | cons event history ih =>
    have hrest := fun s ↦ ih s fun isOpen m msg hmem ↦
      hopen isOpen m msg (List.mem_cons_of_mem event hmem)
    cases event with
    | message isOpen m msg =>
      obtain rfl := hopen isOpen m msg List.mem_cons_self
      rw [transcript, List.flatMap_cons, List.map_append, channels_process, hrest,
        List.filter_cons]
      split_ifs <;> rfl
    | world w => exact hrest _
    | teardown guild => exact hrest _

end Bot

end Guildhall
