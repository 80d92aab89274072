import Guildhall.Proofs.BotViews

/-!
Guilds of one bot. Where the stores of guilds share nothing, all that guilds have in common is
which built-in commands are switched on and off: a message to another guild leaves the scope of a
guild alone and changes nothing of the registry but that (`Bot.elsewhere`), and what a guild is
answered depends on nothing else (`Bot.here`). So the answers to a guild are those of a run in
which the messages to other guilds are replaced by the switching that they do, and where they
switch nothing they can be left out (`Bot.guild_is_isolated`). Scopes are compared up to their
serial numbers, which count the guilds that were opened before.
-/

set_option autoImplicit false

namespace Guildhall

variable {γ ω α : Type}

/-! ### Serial numbers -/

namespace Scope

/-- A scope that does not tell when it was opened. -/
def unnumbered (sc : Scope γ) : Scope γ := { sc with serial := 0 }

/-- What is done alike in a scope without its number is done alike in scopes that differ in their
numbers only. -/
theorem eq_of_unnumbered {op : Scope γ → ω → α × Scope γ × ω}
    (hop : ∀ sc w, op sc.unnumbered w = ((op sc w).1, (op sc w).2.1.unnumbered, (op sc w).2.2))
    {sc sc' : Scope γ} (hsc : sc.unnumbered = sc'.unnumbered) (w : ω) :
    (op sc w).1 = (op sc' w).1 ∧ (op sc w).2.1.unnumbered = (op sc' w).2.1.unnumbered ∧
      (op sc w).2.2 = (op sc' w).2.2 := by
  have hsame := (hop sc w).symm.trans ((congrArg (op · w) hsc).trans (hop sc' w))
  simpa only [Prod.mk.injEq] using hsame

theorem preload_unnumbered (st : GuildStores (γ × ω)) (sc : Scope γ) (w : ω) :
    sc.unnumbered.preload st w =
      let r := sc.preload st w
      (r.1, r.2.1.unnumbered, r.2.2) :=
  preload_seen (fun _ ↦ 0) sc w (GuildStores.seenAs_self st)

end Scope

open Scope

/-- What is answered in an open guild does not depend on when the guild was opened. -/
theorem Bot.inGuild_unnumbered (bot : Bot γ ω) (m : Moment) (msg : Message) (r : Registry Builtin)
    (sc : Scope γ) (w : ω) :
    bot.inGuild m msg r sc.unnumbered w =
      let a := bot.inGuild m msg r sc w
      (a.1, a.2.1.unnumbered, a.2.2) :=
  inGuild_seen bot.seenAs_self m msg r (fun _ ↦ 0) sc w

/-! ### What guilds have in common -/

namespace Directory

/-- Two directories of which a guild sees the same. -/
structure Alike (guild : String) (d d' : Directory γ) : Prop where
  events : d.events = d'.events
  found : (d.scopes.get? guild).map unnumbered = (d'.scopes.get? guild).map unnumbered

variable {b : Backend γ ω} {guild other : String} {d d' : Directory γ}

theorem Alike.trans {d'' : Directory γ} (h : d.Alike guild d') (h' : d'.Alike guild d'') :
    d.Alike guild d'' :=
  ⟨h.events.trans h'.events, h.found.trans h'.found⟩

theorem Alike.insert (hd : d.Alike guild d') {sc sc' : Scope γ}
    (hsc : sc.unnumbered = sc'.unnumbered) (n n' : Nat) :
    ({ d with scopes := d.scopes.insert guild sc, opened := n } : Directory γ).Alike guild
      { d' with scopes := d'.scopes.insert guild sc', opened := n' } where
  events := hd.events
  found := by simp [Table.get?_insert, hsc]

theorem Alike.teardown (hd : d.Alike guild d') :
    (d.teardown guild).2.Alike guild (d'.teardown guild).2 where
  events := hd.events
  found := by simp [Directory.teardown, Table.get?_erase]

theorem alike_insert_of_ne (hother : guild ≠ other) (d : Directory γ) (sc : Scope γ) (n : Nat) :
    ({ d with scopes := d.scopes.insert other sc, opened := n } : Directory γ).Alike guild d where
  events := rfl
  found := by simp only [Table.get?_insert, if_neg hother]

/-- A guild is found, opened or not opened alike in directories of which it sees the same. -/
theorem Alike.scope_eq (hd : d.Alike guild d') (b : Backend γ ω) (w : ω) :
    let r := d.scope b guild w
    let r' := d'.scope b guild w
    r.1.map unnumbered = r'.1.map unnumbered ∧ r.2.1.Alike guild r'.2.1 ∧ r.2.2 = r'.2.2 := by
  have hfound := hd.found
  simp only [Directory.scope]
  rcases hopen : d.scopes.get? guild with _ | sc
  · rw [hopen, Option.map_none, eq_comm, Option.map_eq_none_iff] at hfound
    rw [hfound]
    dsimp only
    rcases b.openGuild guild w with ⟨fault | stored, w₁⟩
    · exact ⟨rfl, hd, rfl⟩
    dsimp only
    generalize hfresh : ({ id := guild, serial := d.opened, stored, events := d.events } :
      Scope γ) = fresh
    generalize hfresh' : ({ id := guild, serial := d'.opened, stored, events := d'.events } :
      Scope γ) = fresh'
    have hsame : fresh.unnumbered = fresh'.unnumbered := by
      rw [← hfresh, ← hfresh', hd.events]
      rfl
    have hpreload := eq_of_unnumbered (preload_unnumbered b.stores) hsame w₁
    rcases hfirst : fresh.preload b.stores w₁ with ⟨answer, sc, w₂⟩
    rcases hsecond : fresh'.preload b.stores w₁ with ⟨answer', sc', w₂'⟩
    rw [hfirst, hsecond] at hpreload
    obtain ⟨rfl, hsc, rfl⟩ := hpreload
    cases answer with
    | error e => exact ⟨rfl, hd, rfl⟩
    | ok => exact ⟨congrArg Except.ok hsc, hd.insert hsc _ _, rfl⟩
  · rw [hopen, Option.map_some, eq_comm, Option.map_eq_some_iff] at hfound
    obtain ⟨sc', hopen', hsc⟩ := hfound
    rw [hopen']
    exact ⟨congrArg Except.ok hsc.symm, hd, rfl⟩

/-- What is done in a guild comes out alike in directories of which it sees the same. -/
theorem Alike.within_eq (hd : d.Alike guild d') (b : Backend γ ω) (w : ω)
    {op : Scope γ → ω → α × Scope γ × ω}
    (hop : ∀ sc w, op sc.unnumbered w = ((op sc w).1, (op sc w).2.1.unnumbered, (op sc w).2.2)) :
    let r := d.within b guild op w
    let r' := d'.within b guild op w
    r.1 = r'.1 ∧ r.2.1.Alike guild r'.2.1 ∧ r.2.2 = r'.2.2 := by
  have hscope := hd.scope_eq b w
  simp only [within]
  rcases hfirst : d.scope b guild w with ⟨found, d₁, w₁⟩
  rcases hsecond : d'.scope b guild w with ⟨found', d₁', w₁'⟩
  rw [hfirst, hsecond] at hscope
  obtain ⟨hfound, hd₁, rfl⟩ := hscope
  cases found with
  | error e =>
    cases found' with
    | error e' => exact ⟨congrArg Except.error (Except.error.inj hfound), hd₁, rfl⟩
    | ok sc' => cases hfound
  | ok sc =>
    cases found' with
    | error e' => cases hfound
    | ok sc' =>
      obtain ⟨hanswer, hsc, hw⟩ := eq_of_unnumbered hop (Except.ok.inj hfound) w₁
      exact ⟨congrArg Except.ok hanswer, hd₁.insert hsc _ _, hw⟩

/-- What is done in another guild is nothing that a guild sees. -/
theorem alike_within_of_ne (hother : guild ≠ other) (b : Backend γ ω) (d : Directory γ) (w : ω)
    (op : Scope γ → ω → α × Scope γ × ω) : (d.within b other op w).2.1.Alike guild d := by
  have hscope : (d.scope b other w).2.1.Alike guild d := by
    unfold Directory.scope
    split
    · exact ⟨rfl, rfl⟩
    · split
      · exact ⟨rfl, rfl⟩
      · dsimp only
        split
        · exact ⟨rfl, rfl⟩
        · exact alike_insert_of_ne hother d _ _
  simp only [within]
  rcases hresult : d.scope b other w with ⟨e | sc, d₁, w₁⟩
  · rwa [hresult] at hscope
  · rw [hresult] at hscope
    exact (alike_insert_of_ne hother d₁ _ d₁.opened).trans hscope

end Directory

/-- The registry with other commands switched on and off. -/
def Registry.switched {C : Type} (r : Registry C) (overrides : Table String Bool) : Registry C :=
  { r with overrides }

theorem ToggleRequest.registry_run {C : Type} (request : ToggleRequest) (r : Registry C) :
    (request.run r).2 = r.switched (request.run r).2.overrides := by
  cases request with
  | switch toggle id =>
    simp only [run]
    split_ifs
    · rfl
    · cases toggle <;> rfl
  | keepOn | list | usage => rfl

/-- No arguments switch no command. -/
theorem ToggleRequest.registry_ofArgs_nil {C : Type} (r : Registry C) :
    ((ofArgs []).run r).2 = r := rfl

/-- A command leaves the registry as some request to switch commands does, which may be one that
switches none. -/
theorem Builtin.toggles_run (b : Builtin) (st : GuildStores (γ × ω)) (m : Moment) (msg : Message)
    (args : List Char) (spec : CommandSpec) (r : Registry Builtin) (sc : Scope γ) (w : ω) :
    ∃ args', (b.run st m msg args spec r sc w).2.1 = ((ToggleRequest.ofArgs args').run r).2 := by
  cases b with
  | builtins => exact ⟨args, rfl⟩
  | perm | cooldown | command | keyword | event | help | ping =>
    exact ⟨[], by simp only [run, ToggleRequest.registry_ofArgs_nil]⟩

namespace Bot

/-- A message leaves the registry as some request to switch commands does. -/
theorem toggles_respond (bot : Bot γ ω) (m : Moment) (msg : Message) (request : Request)
    (r : Registry Builtin) (sc : Scope γ) (w : ω) :
    ∃ args, (bot.respond m msg request r sc w).2.1 = ((ToggleRequest.ofArgs args).run r).2 := by
  cases request with
  | nothing | bareMark | remark text => exact ⟨[], rfl⟩
  | command token args =>
    simp only [respond]
    rcases htarget : bot.target (String.ofList token) r sc w with ⟨_ | t, sc₁, w₁⟩
    · simp only [call, htarget]
      exact ⟨[], rfl⟩
    · rw [call_eq_pass htarget]
      generalize String.ofList (actionString token args) = action
      simp only [pass]
      rcases bot.check m msg action sc₁ w₁ with ⟨_ | ⟨refusal, notice⟩, sc₂, w₂⟩
      · cases t with
        | builtin entry => exact entry.command.toggles_run _ m msg args _ r sc₂ w₂
        | custom found => exact ⟨[], rfl⟩
      · exact ⟨[], rfl⟩

end Bot

/-! ### Runs of guilds that share no store -/

/-- Two bots of which a guild sees the same. -/
structure BotState.Alike (guild : String) (s s' : BotState γ Unit) : Prop where
  registry : s.registry = s'.registry
  directory : s.directory.Alike guild s'.directory

/-- Whether an event is a message to a guild, or closes it. -/
def BotEvent.concerns (guild : String) : BotEvent ω → Bool
  | message _ _ msg => msg.guild == guild
  | teardown other => other == guild
  | world _ => false

/-- What a guild learns of what happens to a bot: what happens to the guild itself, and what
commands are switched to by whatever happens elsewhere. -/
inductive GuildEvent where
  | here (event : BotEvent Unit)
  | switched (overrides : Table String Bool)

namespace Bot

/-- The outcome of an event that is a message, with the replies. -/
def answer? (bot : Bot γ ω) (s : BotState γ ω) :
    BotEvent ω → Option (Except DispatchError Outcome × List Reply)
  | .message isOpen m msg => some (bot.process isOpen m msg s).1
  | .world _ | .teardown _ => none

/-- The outcomes of the messages to a guild in a history, with the replies. -/
def answersTo (bot : Bot γ ω) (guild : String) :
    List (BotEvent ω) → BotState γ ω → List (Except DispatchError Outcome × List Reply)
  | [], _ => []
  | event :: history, s =>
    (if event.concerns guild then (bot.answer? s event).toList else []) ++
      bot.answersTo guild history (bot.step s event)

/-- What a guild learns of a history. -/
def learnt (bot : Bot γ Unit) (guild : String) :
    List (BotEvent Unit) → BotState γ Unit → List GuildEvent
  | [], _ => []
  | event :: history, s =>
    (if event.concerns guild then .here event
      else .switched (bot.step s event).registry.overrides) ::
        bot.learnt guild history (bot.step s event)

/-- The outcomes of messages in a run in which nothing happens but what a guild learns of. -/
def answersAlone (bot : Bot γ Unit) :
    List GuildEvent → BotState γ Unit → List (Except DispatchError Outcome × List Reply)
  | [], _ => []
  | .here event :: history, s =>
    (bot.answer? s event).toList ++ bot.answersAlone history (bot.step s event)
  | .switched overrides :: history, s =>
    bot.answersAlone history { s with registry := s.registry.switched overrides }

/-- Nothing that happens outside a guild switches a command on or off. -/
def SwitchedOnlyIn (bot : Bot γ ω) (guild : String) : List (BotEvent ω) → BotState γ ω → Prop
  | [], _ => True
  | event :: history, s =>
    (event.concerns guild = false →
      (bot.step s event).registry.overrides = s.registry.overrides) ∧
        bot.SwitchedOnlyIn guild history (bot.step s event)

variable {bot : Bot γ Unit} {guild : String} {s s' : BotState γ Unit}

/-- A message is answered alike by bots of which its guild sees the same. -/
theorem handle_alike {msg : Message} (hs : s.Alike msg.guild s') (m : Moment) :
    (bot.handle m msg s).1 = (bot.handle m msg s').1 ∧
      (bot.handle m msg s).2.Alike msg.guild (bot.handle m msg s').2 := by
  rw [handle_eq, handle_eq, hs.registry]
  split_ifs
  · exact ⟨rfl, hs⟩
  have hwithin := hs.directory.within_eq bot.backend () (bot.inGuild_unnumbered m msg s'.registry)
  rcases hfirst : s.directory.within bot.backend msg.guild (bot.inGuild m msg s'.registry) s.world
    with ⟨answer, d, ⟨⟩⟩
  rcases hsecond : s'.directory.within bot.backend msg.guild (bot.inGuild m msg s'.registry)
    s'.world with ⟨answer', d', ⟨⟩⟩
  rw [hfirst, hsecond] at hwithin
  obtain ⟨rfl, hd, -⟩ := hwithin
  rcases answer with e | ⟨⟨outcome, text⟩, registry⟩
  · exact ⟨rfl, rfl, hd⟩
  · exact ⟨rfl, rfl, hd⟩

/-- An event leaves the registry as some request to switch commands does. -/
theorem toggles_step (bot : Bot γ ω) (s : BotState γ ω) (event : BotEvent ω) :
    ∃ args, (bot.step s event).registry = ((ToggleRequest.ofArgs args).run s.registry).2 := by
  cases event with
  | message isOpen m msg =>
    simp only [step, process_snd, handle_eq]
    split_ifs
    · exact ⟨[], rfl⟩
    simp only [Directory.within]
    rcases s.directory.scope bot.backend msg.guild s.world with ⟨e | sc, d, w⟩
    · exact ⟨[], rfl⟩
    · exact bot.toggles_respond m msg _ s.registry sc w
  | teardown _ | world _ => exact ⟨[], rfl⟩

/-- All that an event changes of the registry is which commands are switched on and off. -/
theorem registry_step (bot : Bot γ ω) (s : BotState γ ω) (event : BotEvent ω) :
    (bot.step s event).registry = s.registry.switched (bot.step s event).registry.overrides := by
  obtain ⟨args, hregistry⟩ := bot.toggles_step s event
  rw [hregistry]
  exact ToggleRequest.registry_run _ s.registry

/-- What happens to a guild is answered alike by bots of which the guild sees the same, and leaves
them so. -/
theorem here (bot : Bot γ Unit) (hs : s.Alike guild s') {event : BotEvent Unit}
    (hevent : event.concerns guild = true) :
    bot.answer? s event = bot.answer? s' event ∧
      (bot.step s event).Alike guild (bot.step s' event) := by
  cases event with
  | message isOpen m msg =>
    obtain rfl : msg.guild = guild := by simpa [BotEvent.concerns] using hevent
    obtain ⟨hanswer, halike⟩ := bot.handle_alike hs m
    simp only [step, process_snd]
    refine ⟨?_, halike⟩
    simp only [answer?, process]
    rcases hfirst : bot.handle m msg s with ⟨answer, s₁⟩
    rcases hsecond : bot.handle m msg s' with ⟨answer', s₁'⟩
    rw [hfirst, hsecond] at hanswer
    obtain rfl := hanswer
    rcases answer with e | ⟨outcome, reply⟩ <;> rfl
  | teardown other =>
    obtain rfl : other = guild := by simpa [BotEvent.concerns] using hevent
    exact ⟨rfl, hs.registry, hs.directory.teardown⟩
  | world => cases hevent

/-- Of what happens elsewhere a guild sees only which commands are switched on and off. -/
theorem elsewhere (bot : Bot γ Unit) (hs : s.Alike guild s') {event : BotEvent Unit}
    (hevent : event.concerns guild = false) :
    (bot.step s event).Alike guild
      { s' with registry := s'.registry.switched (bot.step s event).registry.overrides } := by
  refine ⟨hs.registry ▸ bot.registry_step s event, .trans ?_ hs.directory⟩
  cases event with
  | message isOpen m msg =>
    have hother : guild ≠ msg.guild := by
      rintro rfl
      simp [BotEvent.concerns] at hevent
    have hwithin := Directory.alike_within_of_ne hother bot.backend s.directory s.world
      (bot.inGuild m msg s.registry)
    simp only [step, process_snd, handle_eq]
    split_ifs
    · exact ⟨rfl, rfl⟩
    rcases hresult : s.directory.within bot.backend msg.guild (bot.inGuild m msg s.registry) s.world
      with ⟨answer, d, ⟨⟩⟩
    rw [hresult] at hwithin
    rcases answer with e | ⟨⟨outcome, text⟩, registry⟩
    · exact hwithin
    · exact hwithin
  | teardown other =>
    have hother : guild ≠ other := by
      rintro rfl
      simp [BotEvent.concerns] at hevent
    refine ⟨rfl, ?_⟩
    simp only [step, Directory.teardown, Table.get?_erase, if_neg hother]
  | world => exact ⟨rfl, rfl⟩

/-- The messages to a guild are answered as in a run in which nothing happens but what the guild
learns of. -/
theorem answersTo_eq_answersAlone (bot : Bot γ Unit) (guild : String)
    (history : List (BotEvent Unit)) {s s' : BotState γ Unit} (hs : s.Alike guild s') :
    bot.answersTo guild history s = bot.answersAlone (bot.learnt guild history s) s' := by
  induction history generalizing s s' with
  | nil => rfl
  | cons event history ih =>
    simp only [answersTo, learnt]
    cases hevent : event.concerns guild with
    | true =>
      obtain ⟨hanswer, halike⟩ := bot.here hs hevent
      simp only [if_true, answersAlone, hanswer, ih halike]
    | false =>
      have halike := bot.elsewhere hs hevent
      simp only [Bool.false_eq_true, if_false, List.nil_append, answersAlone, ih halike]

/-- Where nothing outside a guild switches a command, what happens outside can be left out. -/
theorem answersTo_eq_filter (bot : Bot γ Unit) {guild : String} {history : List (BotEvent Unit)}
    {s s' : BotState γ Unit} (hs : s.Alike guild s') (hkept : bot.SwitchedOnlyIn guild history s) :
    bot.answersTo guild history s =
      bot.answersTo guild (history.filter (·.concerns guild)) s' := by
  induction history generalizing s s' with
  | nil => rfl
  | cons event history ih =>
    obtain ⟨hevents, hkept⟩ := hkept
    cases hevent : event.concerns guild with
    | true =>
      obtain ⟨hanswer, halike⟩ := bot.here hs hevent
      simp only [answersTo, hevent, if_true, List.filter_cons_of_pos, hanswer, ih halike hkept]
    | false =>
      have halike := bot.elsewhere hs hevent
      rw [hevents hevent, hs.registry] at halike
      simp only [answersTo, hevent, Bool.false_eq_true, if_false, List.nil_append,
        not_false_eq_true, List.filter_cons_of_neg]
      exact ih halike hkept

/-- Guilds whose stores share nothing share nothing but which commands are switched on and off. The
messages to a guild are answered as if nothing else happened than that commands are switched by
what happens elsewhere; and where nothing elsewhere switches a command, as if nothing else
happened. -/
theorem guild_is_isolated (bot : Bot γ Unit) (guild : String) (history : List (BotEvent Unit))
    (s : BotState γ Unit) :
    bot.answersTo guild history s = bot.answersAlone (bot.learnt guild history s) s ∧
      (bot.SwitchedOnlyIn guild history s →
        bot.answersTo guild history s =
          bot.answersTo guild (history.filter (·.concerns guild)) s) :=
  ⟨bot.answersTo_eq_answersAlone guild history ⟨rfl, rfl, rfl⟩,
    bot.answersTo_eq_filter ⟨rfl, rfl, rfl⟩⟩

end Bot

/-! ### A command that another guild switches off -/

/-- A text that a member says in a guild. -/
def sayingIn (guild text : String) : BotEvent Unit :=
  .message true { now := ⟨0⟩, today := default } { saying text with guild }

/-- A bot that has opened no guild, with the commands `builtins`, `event` and `ping`. -/
def freshBot : BotState GuildTables Unit where
  registry := [Builtin.builtins, .event, .ping].foldl (fun r b ↦ r.register b.spec b) ∅
  world := ()

namespace Bot

/-- A member signs up for an event of another guild. -/
theorem guild_is_isolated_feast :
    let history := [sayingIn "b" "!event join feast", sayingIn "a" "!event list feast"]
    userBot.SwitchedOnlyIn "a" history freshBot ∧
      userBot.answersTo "a" history freshBot =
        userBot.answersTo "a" [sayingIn "a" "!event list feast"] freshBot := by
  intro history
  have hkept : userBot.SwitchedOnlyIn "a" history freshBot := by
    refine ⟨fun _ ↦ ?_, fun hevent ↦ ?_, trivial⟩
    · decide
    · cases hevent
  exact ⟨hkept, (userBot.guild_is_isolated "a" history freshBot).2 hkept⟩

/-- A guild in which `ping` is switched off switches it off in another guild. -/
theorem disabled_ping_reaches_other_guild :
    let history := [sayingIn "b" "!builtins disable ping", sayingIn "a" "!ping"]
    userBot.answersTo "a" history freshBot = [(.ok .ignored, [])] ∧
      userBot.answersTo "a" (history.filter (·.concerns "a")) freshBot =
        [(.ok (.builtin "ping"), [{ channel := "gate", text := "Pong!" }])] := by
  decide

end Bot

end Guildhall
