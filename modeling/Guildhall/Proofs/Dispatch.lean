import Guildhall.Proofs.CheckedAction
import Guildhall.Proofs.Commands

/-!
Runs of a bot. Whatever happens to a bot, every open guild mirrors its stores, in full
(`Bot.faithful_after`), so that both checks of a command decide by the rows that the stores of its
guild hold at that moment. A command runs only if the governing permission lets its invoker run
it, and for an invoker below admin only if the governing cooldown has passed
(`Bot.run_is_granted_and_rested`).
-/

set_option autoImplicit false

namespace Guildhall

variable {γ ω : Type}

theorem CooldownRule.isEnforced_iff (rule : CooldownRule) :
    rule.isEnforced = true ↔ rule.duration ≠ .zero := by
  obtain ⟨action, ⟨nanos⟩, last⟩ := rule
  simp [isEnforced, Duration.isZero, Duration.zero]

/-- Whether the governing cooldown of an action, if it has a duration, has passed by an instant.
Instants that a cooldown started at are those of the calendar. -/
def Table.Rested (t : Table String CooldownRule) (now : Instant) (action : String) : Prop :=
  ∀ rule last, t.governing? action = some rule → rule.duration ≠ .zero → rule.last = some last →
    last.instant.InCalendar → (rule.duration.nanos : Int) < now.nanos - last.instant.nanos

namespace Bot

/-! ### What messages do in a guild -/

section Steps

variable (bot : Bot γ ω) (m : Moment) (msg : Message) (r : Registry Builtin) (sc : Scope γ) (w : ω)

theorem evolves_target (token : String) :
    Scope.Evolves bot.backend.stores (sc, w) (bot.target token r sc w).2 := by
  simp only [target]
  cases r.entryOfTrigger? token with
  | some entry => exact .refl
  | none =>
    have hcommand := Scope.evolves_customCommand bot.backend.stores sc w token
    dsimp only
    rcases hresult : sc.customCommand bot.backend.stores token w with ⟨found, sc', w'⟩
    rwa [hresult] at hcommand

/-- What authorization leaves of a guild. -/
theorem evolves_authorize (action : String) :
    Scope.Evolves bot.backend.stores (sc, w) (sc.onPolicy
      (·.authorize bot.backend.stores.rules (bot.rankOf msg.invoker) msg.invoker action ·) w).2 :=
  Scope.evolves_onPolicy bot.backend.stores sc w
    (Policy.evolves_authorize bot.backend.stores.rules sc.policy (sc.stored, w) _ _ action)

theorem evolves_checkCooldown (action : String) :
    Scope.Evolves bot.backend.stores (sc, w) (sc.onPolicy
      (·.checkCooldown bot.backend.stores.rules (bot.rankOf msg.invoker) m.now action ·) w).2 :=
  Scope.evolves_onPolicy bot.backend.stores sc w
    (Policy.evolves_checkCooldown bot.backend.stores.rules sc.policy (sc.stored, w) _ _ action)

theorem evolves_check (action : String) :
    Scope.Evolves bot.backend.stores (sc, w) (bot.check m msg action sc w).2 := by
  have hauthorize := evolves_authorize bot msg sc w action
  simp only [check]
  rcases hfirst : sc.onPolicy (·.authorize bot.backend.stores.rules (bot.rankOf msg.invoker)
    msg.invoker action ·) w with ⟨_ | rule, sc₁, w₁⟩
  · rw [hfirst] at hauthorize
    have hcooldown := evolves_checkCooldown bot m msg sc₁ w₁ action
    dsimp only
    rcases hsecond : sc₁.onPolicy (·.checkCooldown bot.backend.stores.rules
      (bot.rankOf msg.invoker) m.now action ·) w₁ with ⟨_ | left, sc₂, w₂⟩
    · rw [hsecond] at hcooldown
      exact hauthorize.trans hcooldown
    · rw [hsecond] at hcooldown
      exact hauthorize.trans hcooldown
  · rw [hfirst] at hauthorize
    exact hauthorize

theorem evolves_run (args : List Char) (t : Target) :
    Scope.Evolves bot.backend.stores (sc, w) (bot.run m msg args t r sc w).2.2 := by
  cases t with
  | builtin entry =>
    exact entry.command.evolves_run bot.backend.stores m msg args entry.spec r sc w
  | custom found => exact .refl

theorem evolves_pass (cp : Checkpoint γ ω) :
    Scope.Evolves bot.backend.stores (cp.scope, cp.world) (bot.pass m msg r cp).2.2 := by
  have hcheck := evolves_check bot m msg cp.scope cp.world cp.action
  simp only [pass]
  rcases hresult : bot.check m msg cp.action cp.scope cp.world with ⟨_ | ⟨refusal, notice⟩, sc, w⟩
  · rw [hresult] at hcheck
    exact hcheck.trans (evolves_run bot m msg r sc w cp.args cp.target)
  · rw [hresult] at hcheck
    exact hcheck

theorem evolves_call (token args : List Char) :
    Scope.Evolves bot.backend.stores (sc, w) (bot.call m msg token args r sc w).2.2 := by
  have htarget := evolves_target bot r sc w (String.ofList token)
  rcases hresult : bot.target (String.ofList token) r sc w with ⟨_ | t, sc', w'⟩
  · rw [hresult] at htarget
    simpa only [call, hresult] using htarget
  · rw [hresult] at htarget
    rw [call_eq_pass hresult]
    generalize String.ofList (actionString token args) = action
    exact htarget.trans (evolves_pass bot m msg r ⟨action, args, t, sc', w'⟩)

theorem evolves_remark (text : List Char) :
    Scope.Evolves bot.backend.stores (sc, w) (bot.remark m msg text sc w).2 := by
  have hkeyword := Scope.evolves_matchingKeyword bot.backend.stores sc w (String.ofList text)
  simp only [remark]
  rcases hresult : sc.matchingKeyword bot.backend.stores (String.ofList text) w with
    ⟨_ | _ | hit, sc', w'⟩
  · rwa [hresult] at hkeyword
  · rwa [hresult] at hkeyword
  · rwa [hresult] at hkeyword

/-- Whatever a message leads to in its guild is made of the steps that a guild allows. -/
theorem evolves_respond (request : Request) :
    Scope.Evolves bot.backend.stores (sc, w) (bot.respond m msg request r sc w).2.2 := by
  cases request with
  | nothing => exact .refl
  | bareMark => exact .refl
  | remark text => exact evolves_remark bot m msg sc w text
  | command token args => exact evolves_call bot m msg r sc w token args

end Steps

/-- What a message leads to in its guild, with what it leaves of the registry. -/
def inGuild (bot : Bot γ ω) (m : Moment) (msg : Message) (r : Registry Builtin) (sc : Scope γ)
    (w : ω) : ((Outcome × Option String) × Registry Builtin) × Scope γ × ω :=
  let a := bot.respond m msg (.ofText bot.mark.toList msg.text.toList) r sc w
  ((a.1, a.2.1), a.2.2)

/-- A message is handled in its guild, unless it is blank. -/
theorem handle_eq (bot : Bot γ ω) (m : Moment) (msg : Message) (s : BotState γ ω) :
    bot.handle m msg s =
      if Request.ofText bot.mark.toList msg.text.toList = .nothing then (.ok (.ignored, none), s)
      else
        match s.directory.within bot.backend msg.guild (bot.inGuild m msg s.registry) s.world with
        | (.error e, directory, world) => (.error e, { s with directory, world })
        | (.ok ((outcome, text), registry), directory, world) =>
          (.ok (outcome, text.map fun text ↦ { channel := msg.channel, text }),
            { directory, registry, world }) := by
  unfold handle inGuild
  cases Request.ofText bot.mark.toList msg.text.toList <;> rfl

/-! ### Passing the checks -/

variable {bot : Bot γ ω} {v : GuildView γ ω} {m : Moment} {msg : Message}

/-- A built-in command is called by a token only if the token is its trigger and it is on. -/
theorem entryOfTrigger?_of_target {token : String} {r : Registry Builtin} {sc : Scope γ} {w : ω}
    {entry : RegistryEntry Builtin} {a : Scope γ × ω}
    (htarget : bot.target token r sc w = (some (.builtin entry), a)) :
    r.entryOfTrigger? token = some entry ∧ r.isEnabled entry.spec.id = true := by
  simp only [target] at htarget
  cases hentry : r.entryOfTrigger? token with
  | none =>
    simp only [hentry, Prod.mk.injEq] at htarget
    obtain ⟨found, -, hfound⟩ := Option.map_eq_some_iff.mp htarget.1
    cases hfound
  | some found =>
    simp only [hentry, Prod.mk.injEq, Option.ite_none_right_eq_some, Option.some.injEq,
      Target.builtin.injEq] at htarget
    obtain ⟨⟨henabled, rfl⟩, -⟩ := htarget
    exact ⟨rfl, henabled⟩

/-- Where nothing has to be read, authorization decides by the rows and leaves all as it was. -/
theorem onPolicy_authorize_of_full (bot : Bot γ ω) (msg : Message) {sc : Scope γ} {w : ω}
    (hsc : sc.Faithful v) (hfull : sc.IsFull) (hw : v.tidy w) (action : String) :
    sc.onPolicy (·.authorize bot.backend.stores.rules (bot.rankOf msg.invoker) msg.invoker
        action ·) w =
      (let rule := ((v.rows sc.stored).permissions.governing? action).getD (.unrestricted action)
        if rule.grants (bot.rankOf msg.invoker) msg.invoker then .granted else .denied rule,
        sc, w) := by
  have hread := ((Scope.isFull_iff sc).mp hfull).1
  simp only [Scope.onPolicy, Policy.authorize_eq_of_full bot.backend.stores.rules
    (hsc.policy hw) hread]

/-- What a check answers in a guild whose rows are all known: the action is denied, or something is
left of its cooldown, or nothing stands in its way. -/
theorem check_fst_of_full (bot : Bot γ ω) (m : Moment) (msg : Message) {sc : Scope γ} {w : ω}
    (hsc : sc.Faithful v) (hfull : sc.IsFull) (hw : v.tidy w) (action : String) :
    (bot.check m msg action sc w).1 =
      let rule := ((v.rows sc.stored).permissions.governing? action).getD (.unrestricted action)
      let rank := bot.rankOf msg.invoker
      if rule.grants rank msg.invoker then
        ((v.rows sc.stored).cooldowns.left? rank m.now action).map fun left ↦
          (.coolingDown left, cooldownNotice action left)
      else some (.denied, rule.denial action) := by
  have hread := ((Scope.isFull_iff sc).mp hfull).1
  have hcooldown : (sc.policy.checkCooldown bot.backend.stores.rules (bot.rankOf msg.invoker) m.now
      action (sc.stored, w)).1 =
        (v.rows sc.stored).cooldowns.left? (bot.rankOf msg.invoker) m.now action :=
    Policy.checkCooldown_fst_of_full _ (hsc.policy hw) hread _ _ _
  simp only [check, onPolicy_authorize_of_full bot msg hsc hfull hw action, ← hcooldown]
  generalize ((v.rows sc.stored).permissions.governing? action).getD (.unrestricted action) = rule
  cases rule.grants (bot.rankOf msg.invoker) msg.invoker with
  | false => rfl
  | true =>
    simp only [if_true, Scope.onPolicy]
    rcases sc.policy.checkCooldown bot.backend.stores.rules (bot.rankOf msg.invoker) m.now action
      (sc.stored, w) with ⟨_ | left, p, s⟩ <;> rfl

/-- The rows that the stores hold grant an action that the check lets pass, and for an invoker
below admin its cooldown has passed. -/
theorem grants_and_rested_of_check {sc : Scope γ} {w : ω} (hsc : sc.Faithful v)
    (hfull : sc.IsFull) (hw : v.tidy w) (hnow : m.now.InCalendar) {action : String}
    (hcheck : (bot.check m msg action sc w).1 = none) :
    (v.rows sc.stored).permissions.Grants (bot.rankOf msg.invoker) msg.invoker action ∧
      ((bot.rankOf msg.invoker).isPrivileged = false →
        (v.rows sc.stored).cooldowns.Rested m.now action) := by
  rw [check_fst_of_full bot m msg hsc hfull hw] at hcheck
  dsimp only at hcheck
  split_ifs at hcheck with hgrants
  refine ⟨(Policy.grants_governing_iff _ _ _ _).mp hgrants, ?_⟩
  intro hrank rule last hrule hduration hlast hcalendar
  rw [Option.map_eq_none_iff, Table.left?, if_neg (by simp [hrank]), hrule, Option.filter_some,
    if_pos (rule.isEnforced_iff.mpr hduration), Option.bind_some, CooldownRule.left?, hlast,
    Option.bind_some] at hcheck
  exact (remaining?_eq_none_iff hcalendar hnow).mp hcheck

/-- The check refuses an action because it is denied or because it is resting, and says so. -/
theorem check_eq_some {action : String} {sc sc' : Scope γ} {w w' : ω} {refusal : Outcome}
    {notice : String} (hcheck : bot.check m msg action sc w = (some (refusal, notice), sc', w')) :
    (∃ rule : PermissionRule, refusal = .denied ∧ notice = rule.denial action) ∨
      ∃ left, refusal = .coolingDown left ∧ notice = cooldownNotice action left := by
  unfold check at hcheck
  dsimp only at hcheck
  split at hcheck
  · simp only [Prod.mk.injEq, Option.some.injEq] at hcheck
    exact Or.inl ⟨_, hcheck.1.1.symm, hcheck.1.2.symm⟩
  · split at hcheck
    · simp only [Prod.mk.injEq, Option.some.injEq] at hcheck
      exact Or.inr ⟨_, hcheck.1.1.symm, hcheck.1.2.symm⟩
    · simp at hcheck

/-- A checkpoint refuses a command where the check does, with the outcome that the check gives. -/
theorem pass_eq_iff {r : Registry Builtin} {cp : Checkpoint γ ω} {outcome : Outcome}
    (hnot : ¬ outcome.IsRun) : (bot.pass m msg r cp).1.1 = outcome ↔
      (bot.check m msg cp.action cp.scope cp.world).1.map (·.1) = some outcome := by
  rcases hcheck : bot.check m msg cp.action cp.scope cp.world with ⟨_ | ⟨refusal, notice⟩, sc, w⟩
  · have hran : (bot.pass m msg r cp).1.1.IsRun := by
      simp only [pass, hcheck]
      cases cp.target with
      | builtin entry => exact trivial
      | custom found => exact trivial
    have hne : (bot.pass m msg r cp).1.1 ≠ outcome := by
      rintro rfl
      exact hnot hran
    simp [hne]
  · simp [pass, hcheck]

/-- A command runs only if the check lets it pass. -/
theorem check_eq_none_of_pass {r : Registry Builtin} {cp : Checkpoint γ ω}
    (hran : (bot.pass m msg r cp).1.1.IsRun) :
    (bot.check m msg cp.action cp.scope cp.world).1 = none := by
  rcases hcheck : bot.check m msg cp.action cp.scope cp.world with ⟨_ | ⟨refusal, notice⟩, sc, w⟩
  · rfl
  · simp only [pass, hcheck] at hran
    rcases check_eq_some hcheck with ⟨rule, rfl, -⟩ | ⟨left, rfl, -⟩
    · exact hran.elim
    · exact hran.elim

/-- A checkpoint finds its guild a mirror of its stores, in full. -/
theorem faithful_checkpoint (hb : bot.backend.Lawful v) {s : BotState γ ω}
    (hd : s.directory.Faithful v) (hw : v.tidy s.world) {cp : Checkpoint γ ω}
    (hcheckpoint : bot.checkpoint? msg s = some cp) :
    cp.scope.Faithful v ∧ cp.scope.IsFull ∧ v.tidy cp.world := by
  obtain ⟨token, sc, d, w, -, hscope, htarget, -⟩ := checkpoint?_eq_some hcheckpoint
  have hopen := Directory.faithful_scope hb hd hw msg.guild
  rw [hscope] at hopen
  obtain ⟨hsc, hfull, -, hw'⟩ := hopen
  have hevolves := evolves_target bot s.registry sc w (String.ofList token)
  rw [htarget] at hevolves
  obtain ⟨⟨hsc', hw''⟩, hfull'⟩ := hevolves.faithful hb.stores hsc hw'
  exact ⟨hsc', hfull' hfull, hw''⟩

end Bot

/-! ### Runs -/

/-- Every open guild of a bot mirrors its stores, in full. -/
def BotState.Faithful (v : GuildView γ ω) (s : BotState γ ω) : Prop :=
  s.directory.Faithful v ∧ v.tidy s.world

/-- What happens to a bot: a message comes in, what guilds share changes, or a guild is closed. -/
inductive BotEvent (ω : Type) where
  | message (isOpen : Bool) (m : Moment) (msg : Message)
  | world (w : ω)
  | teardown (guild : String)

def BotEvent.IsTidy (v : GuildView γ ω) : BotEvent ω → Prop
  | world w => v.tidy w
  | message _ _ _ | teardown _ => True

/-- A reply that could be posted leaves the outcome as it was. -/
theorem eq_of_deliver {isOpen : Bool} {outcome delivered : Outcome} {reply : Option Reply}
    (hdeliver : (outcome.deliver isOpen reply).1 = .ok delivered) : delivered = outcome := by
  unfold Outcome.deliver at hdeliver
  split at hdeliver
  · exact (Except.ok.inj hdeliver).symm
  · split at hdeliver
    · exact (Except.ok.inj hdeliver).symm
    · exact (Except.ok.inj hdeliver).symm
    · cases hdeliver

namespace Bot

/-- What an event leaves of a bot. -/
def step (bot : Bot γ ω) (s : BotState γ ω) : BotEvent ω → BotState γ ω
  | .message isOpen m msg => (bot.process isOpen m msg s).2
  | .world world => { s with world }
  | .teardown guild => { s with directory := (s.directory.teardown guild).2 }

/-- What a history leaves of a bot. -/
def after (bot : Bot γ ω) (history : List (BotEvent ω)) (s : BotState γ ω) : BotState γ ω :=
  history.foldl bot.step s

variable {bot : Bot γ ω} {v : GuildView γ ω} {m : Moment} {msg : Message} {s : BotState γ ω}

theorem process_snd (bot : Bot γ ω) (isOpen : Bool) (m : Moment) (msg : Message)
    (s : BotState γ ω) : (bot.process isOpen m msg s).2 = (bot.handle m msg s).2 := by
  simp only [process]
  rcases bot.handle m msg s with ⟨e | ⟨outcome, reply⟩, s'⟩ <;> rfl

/-- What became of a message was so before its reply was posted. -/
theorem handle_of_process {isOpen : Bool} {outcome : Outcome}
    (houtcome : (bot.process isOpen m msg s).1.1 = .ok outcome) :
    ∃ reply, (bot.handle m msg s).1 = .ok (outcome, reply) := by
  simp only [process] at houtcome
  rcases hresult : bot.handle m msg s with ⟨e | ⟨handled, reply⟩, s'⟩
  · simp [hresult] at houtcome
  · simp only [hresult] at houtcome
    exact ⟨reply, by rw [eq_of_deliver houtcome]⟩

/-- Where replies can be posted, what became of a message is what it was handled with. -/
theorem process_eq_ok_iff {outcome : Outcome} : (bot.process true m msg s).1.1 = .ok outcome ↔
    (bot.handle m msg s).1.map (·.1) = .ok outcome := by
  simp only [process]
  rcases bot.handle m msg s with ⟨e | ⟨handled, reply⟩, s'⟩
  · simp [Except.map]
  · simp [Except.map, Outcome.deliver]

section Maintains

variable {P : Scope γ → Prop}

/-- A message leaves every open guild what open guilds have. -/
theorem all_handle (hb : bot.backend.Maintains v P)
    (hs : s.directory.All P ∧ v.tidy s.world) (m : Moment) (msg : Message) :
    (bot.handle m msg s).2.directory.All P ∧ v.tidy (bot.handle m msg s).2.world := by
  rw [handle_eq]
  split_ifs
  · exact hs
  rcases hresult : s.directory.within bot.backend msg.guild (bot.inGuild m msg s.registry) s.world
    with ⟨answer, d, w⟩
  have hwithin := Directory.all_within hb hs.1 hs.2 hresult
    fun sc w ↦ evolves_respond bot m msg s.registry sc w _
  rcases answer with e | ⟨⟨outcome, text⟩, registry⟩
  · exact hwithin
  · exact hwithin

/-- One event leaves every open guild what open guilds have. -/
theorem all_step (hb : bot.backend.Maintains v P) (hs : s.directory.All P ∧ v.tidy s.world)
    {event : BotEvent ω} (htidy : event.IsTidy v) :
    (bot.step s event).directory.All P ∧ v.tidy (bot.step s event).world := by
  cases event with
  | message isOpen m msg =>
    rw [step, process_snd]
    exact all_handle hb hs m msg
  | world world => exact ⟨hs.1, htidy⟩
  | teardown guild => exact ⟨hs.1.teardown guild, hs.2⟩

/-- After any history every open guild has what open guilds have. -/
theorem all_after (hb : bot.backend.Maintains v P) {history : List (BotEvent ω)}
    (htidy : ∀ event ∈ history, event.IsTidy v)
    (hs : s.directory.All P ∧ v.tidy s.world) :
    (bot.after history s).directory.All P ∧ v.tidy (bot.after history s).world := by
  induction history generalizing s with
  | nil => exact hs
  | cons event history ih =>
    obtain ⟨hevent, hhistory⟩ := List.forall_mem_cons.mp htidy
    exact ih hhistory (all_step hb hs hevent)

end Maintains

/-- After any history every open guild mirrors its stores, in full. -/
theorem faithful_after (hb : bot.backend.Lawful v) {history : List (BotEvent ω)}
    (htidy : ∀ event ∈ history, event.IsTidy v) (hs : s.Faithful v) :
    (bot.after history s).Faithful v :=
  all_after hb.maintains htidy hs

/-- A command runs only if the rows that its guild's stores hold at its checkpoint grant it and,
for an invoker below admin, its cooldown has passed. This holds after any messages, failures and
closed guilds. -/
theorem run_is_granted_and_rested (hb : bot.backend.Lawful v) {registry : Registry Builtin}
    {events : Events} {world : ω} (hworld : v.tidy world) {history : List (BotEvent ω)}
    (htidy : ∀ event ∈ history, event.IsTidy v) {isOpen : Bool} (hnow : m.now.InCalendar)
    {outcome : Outcome} :
    let s := bot.after history { directory := { events }, registry, world }
    (bot.process isOpen m msg s).1.1 = .ok outcome → outcome.IsRun →
      ∃ cp, bot.checkpoint? msg s = some cp ∧
        (v.rows cp.scope.stored).permissions.Grants (bot.rankOf msg.invoker) msg.invoker
          cp.action ∧
        ((bot.rankOf msg.invoker).isPrivileged = false →
          (v.rows cp.scope.stored).cooldowns.Rested m.now cp.action) := by
  intro s houtcome hran
  obtain ⟨reply, hhandle⟩ := handle_of_process houtcome
  obtain ⟨hd, hw⟩ : s.Faithful v :=
    faithful_after hb htidy ⟨Directory.faithful_empty v events, hworld⟩
  cases hcheckpoint : bot.checkpoint? msg s with
  | none => exact absurd hran (not_isRun_of_checkpoint?_eq_none hcheckpoint hhandle)
  | some cp =>
    obtain ⟨hsc, hfull, hw'⟩ := faithful_checkpoint hb hd hw hcheckpoint
    refine ⟨cp, rfl, grants_and_rested_of_check hsc hfull hw' hnow ?_⟩
    -- The outcome of the message is that of its checkpoint, which ran: no check refused it.
    obtain ⟨d, -, hpass⟩ := handle_eq_of_checkpoint? hcheckpoint m
    rw [hpass] at hhandle
    have houtcome : (bot.pass m msg s.registry cp).1.1 = outcome :=
      congrArg Prod.fst (Except.ok.inj hhandle)
    exact check_eq_none_of_pass (houtcome ▸ hran)

end Bot

/-! ### A slow command -/

/-- A bot behind switches for which everyone is a user. -/
def switchedBot : Bot (GuildRows Switched) Switchboard where
  backend := .switched
  mark := "!"
  rankOf _ := .user

/-- Guilds in which `ping` rests for five seconds. -/
def slowPing : Switchboard where
  seed := ⟨{}, { rows := .ofRows [{ action := "ping", duration := .ofSeconds 5 }] }, {}, {}⟩

theorem tidy_slowPing : Backend.switchedView.tidy slowPing :=
  ⟨⟨rfl, rfl, rfl, rfl⟩,
    ⟨Table.isKeyed_empty, Table.isKeyed_ofRows _, Table.isKeyed_empty, Table.isKeyed_empty⟩⟩

/-- A moment of the first seconds of 1970. -/
def secondsIn (seconds : Nat) : Moment := { now := ⟨seconds * nanosPerSecond⟩, today := default }

/-- Somebody runs `ping`, and then no store can be written any more. -/
def pingHistory : List (BotEvent Switchboard) :=
  [.message true (secondsIn 0) (saying "!ping"),
    .world { slowPing with switches := ⟨{}, { failWrites := true }, {}, {}⟩ }]

namespace Bot

theorem run_is_granted_and_rested_ping :
    let s := switchedBot.after pingHistory
      { directory := {}, registry := (∅ : Registry Builtin).register Builtin.ping.spec .ping,
        world := slowPing }
    ∃ cp, switchedBot.checkpoint? (saying "!ping") s = some cp ∧
      cp.scope.stored.cooldowns.rows.Rested (secondsIn 6).now cp.action := by
  intro s
  have houtcome : (switchedBot.process true (secondsIn 6) (saying "!ping") s).1.1 =
      .ok (.builtin "ping") := by decide
  have htidy : ∀ event ∈ pingHistory, event.IsTidy Backend.switchedView := by
    intro event hevent
    simp only [pingHistory, List.mem_cons, List.not_mem_nil, or_false] at hevent
    obtain rfl | rfl := hevent
    · exact trivial
    · exact tidy_slowPing
  have hnow : (secondsIn 6).now.InCalendar := by
    unfold Instant.InCalendar
    decide
  obtain ⟨cp, hcheckpoint, -, hrested⟩ :=
    run_is_granted_and_rested Backend.lawful_switched tidy_slowPing htidy hnow houtcome trivial
  exact ⟨cp, hcheckpoint, hrested rfl⟩

end Bot

end Guildhall
