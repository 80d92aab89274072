import Guildhall.Proofs.CommandTexts
import Guildhall.Proofs.KeptCommands

/-!
Custom commands that can be called as announced. A message keeps a command of an open guild unless
it is answered with that the command was replaced or deleted (`Bot.binds_handle`), and no message
changes what a trigger calls, so that a name that called no built-in command when it was written
calls none later (`Bot.offers_step`). So once a command was announced as added or updated, and until
it is updated or deleted, the announced text runs it with its very template
(`Bot.authored_command_is_called`).
-/

set_option autoImplicit false

namespace Guildhall

open Text

variable {γ ω : Type}

/-! ### Registered commands -/

/-- Every command is registered under its own id. -/
def Registry.IsNamed (r : Registry Builtin) : Prop :=
  ∀ id entry, r.entry? id = some entry → entry.spec.id = entry.command.id

theorem Builtin.isNamed_registry (specs : List CommandSpec) : (registry specs).IsNamed :=
  fun _ _ hentry ↦ (ids_of_entry?_registry hentry).2

theorem Registry.IsNamed.of_trigger {r : Registry Builtin} (hr : r.IsNamed) {token : String}
    {entry : RegistryEntry Builtin} (hentry : r.entryOfTrigger? token = some entry) :
    entry.spec.id = entry.command.id := by
  obtain ⟨id, -, hid⟩ := Option.bind_eq_some_iff.mp hentry
  exact hr id entry hid

/-! ### Messages -/

/-- Whether a reply does not say that a command was replaced or deleted. -/
def SparesCommand (called text : String) : Prop :=
  text ≠ s!"Updated `{called}`." ∧ text ≠ s!"Deleted `{called}`."

namespace Bot

variable {bot : Bot γ ω} {v : GuildView γ ω} {m : Moment} {msg : Message} {r : Registry Builtin}
  {sc : Scope γ} {w : ω} {row : CustomCommand}

/-- Finding a command changes nothing of a guild that was read in full. -/
theorem target_snd (bot : Bot γ ω) (r : Registry Builtin) (w : ω)
    (hfull : sc.commands.state = .full) (token : String) :
    (bot.target token r sc w).2 = (sc, w) := by
  simp only [target]
  cases r.entryOfTrigger? token with
  | some entry => rfl
  | none => simp only [Scope.customCommand_of_full _ hfull]

/-- A built-in command that a token calls was registered under its own id. -/
theorem isNamed_target (hr : r.IsNamed) {token : String} {entry : RegistryEntry Builtin}
    {a : Scope γ × ω} (htarget : bot.target token r sc w = (some (.builtin entry), a)) :
    entry.spec.id = entry.command.id :=
  hr.of_trigger (entryOfTrigger?_of_target htarget).1

theorem leavesCommands_check (bot : Bot γ ω) (m : Moment) (msg : Message)
    (hst : GuildStores.Lawful bot.backend.stores v.holds) (hsound : v.sound sc.stored)
    (hw : v.tidy w) (action : String) :
    Scope.LeavesCommands v (sc, w) (bot.check m msg action sc w).2 := by
  have hauthorize := Scope.leavesCommands_onPolicy hst (Policy.evolves_authorize
    bot.backend.stores.rules sc.policy (sc.stored, w) (bot.rankOf msg.invoker) msg.invoker action)
    hsound hw
  simp only [check]
  rcases hfirst : sc.onPolicy (·.authorize bot.backend.stores.rules (bot.rankOf msg.invoker)
    msg.invoker action ·) w with ⟨_ | rule, sc₁, w₁⟩
  · rw [hfirst] at hauthorize
    have hcooldown := Scope.leavesCommands_onPolicy hst (Policy.evolves_checkCooldown
      bot.backend.stores.rules sc₁.policy (sc₁.stored, w₁) (bot.rankOf msg.invoker) m.now action)
      hauthorize.stored.1 hauthorize.stored.2.1
    dsimp only
    rcases hsecond : sc₁.onPolicy (·.checkCooldown bot.backend.stores.rules
      (bot.rankOf msg.invoker) m.now action ·) w₁ with ⟨_ | left, sc₂, w₂⟩
    · rw [hsecond] at hcooldown
      exact hauthorize.trans hcooldown
    · rw [hsecond] at hcooldown
      exact hauthorize.trans hcooldown
  · rw [hfirst] at hauthorize
    exact hauthorize

/-- A message at a checkpoint keeps a command of its guild, unless `command` answers it with that
the command was replaced or deleted. -/
theorem binds_pass (hst : GuildStores.Lawful bot.backend.stores v.holds) {cp : Checkpoint γ ω}
    (hnamed : ∀ entry, cp.target = .builtin entry → entry.spec.id = entry.command.id)
    (hsc : cp.scope.Binds v row) (hw : v.tidy cp.world)
    (hspares : ∀ text, (bot.pass m msg r cp).1 = (.builtin Builtin.command.id, some text) →
      SparesCommand (bot.mark ++ row.name) text) :
    (bot.pass m msg r cp).2.2.1.Binds v row := by
  have hcheck := leavesCommands_check bot m msg hst hsc.sound hw cp.action
  unfold pass at hspares ⊢
  rcases hresult : bot.check m msg cp.action cp.scope cp.world with ⟨_ | ⟨refusal, notice⟩, sc, w⟩
  · rw [hresult] at hcheck
    have hsc' : sc.Binds v row := hsc.of_leavesCommands hcheck
    simp only [hresult] at hspares
    dsimp only
    cases htarget : cp.target with
    | custom found => exact hsc'
    | builtin entry =>
      simp only [htarget, run] at hspares ⊢
      refine entry.command.binds_run hst hsc' hcheck.stored.2.1 m msg cp.args entry.spec r ?_
      intro hcommand
      have hid : entry.spec.id = Builtin.command.id := by rw [hnamed entry htarget, hcommand]
      have hspared := hspares _ (by rw [hid])
      refine ⟨fun hanswer ↦ hspared.1 ?_, fun hanswer ↦ hspared.2 ?_⟩
      · rw [hanswer]
        exact CustomAnswer.text_overwritten bot.mark row.name
      · rw [hanswer]
        exact CustomAnswer.text_deleted bot.mark row.name
  · rw [hresult] at hcheck
    exact hsc.of_leavesCommands hcheck

/-- A message keeps a command of its guild, unless `command` answers it with that the command was
replaced or deleted. -/
theorem binds_respond (hst : GuildStores.Lawful bot.backend.stores v.holds) (hr : r.IsNamed)
    (hsc : sc.Binds v row) (hw : v.tidy w) (request : Request)
    (hspares : ∀ text, (bot.respond m msg request r sc w).1 =
      (.builtin Builtin.command.id, some text) → SparesCommand (bot.mark ++ row.name) text) :
    (bot.respond m msg request r sc w).2.2.1.Binds v row := by
  cases request with
  | nothing => exact hsc
  | bareMark => exact hsc
  | remark text =>
    have hkeyword := Scope.leavesCommands_matchingKeyword hst hsc.sound hw (String.ofList text)
    simp only [respond, remark]
    rcases hresult : sc.matchingKeyword bot.backend.stores (String.ofList text) w with
      ⟨_ | _ | hit, sc', w'⟩
    · rw [hresult] at hkeyword
      exact hsc.of_leavesCommands hkeyword
    · rw [hresult] at hkeyword
      exact hsc.of_leavesCommands hkeyword
    · rw [hresult] at hkeyword
      exact hsc.of_leavesCommands hkeyword
  | command token args =>
    have hsame := target_snd bot r w hsc.full (String.ofList token)
    simp only [respond] at hspares ⊢
    rcases hresult : bot.target (String.ofList token) r sc w with ⟨_ | t, sc', w'⟩
    · rw [hresult] at hsame
      obtain ⟨rfl, rfl⟩ := Prod.mk.inj hsame
      simp only [call, hresult]
      exact hsc
    · rw [hresult] at hsame
      obtain ⟨rfl, rfl⟩ := Prod.mk.inj hsame
      rw [call_eq_pass hresult] at hspares ⊢
      refine binds_pass hst (fun entry htarget ↦ ?_) hsc hw hspares
      obtain rfl : t = .builtin entry := htarget
      exact isNamed_target hr hresult

end Bot

/-- Whether what happens to a bot leaves a command of a guild: the guild is not closed, and no
message to it is answered by `command` with that the command was replaced or deleted. -/
def Bot.Spares (bot : Bot γ ω) (guild called : String) (s : BotState γ ω) : BotEvent ω → Prop
  | .message _ m msg => msg.guild = guild → ∀ reply,
    (bot.handle m msg s).1 = .ok (.builtin Builtin.command.id, some reply) →
      SparesCommand called reply.text
  | .world _ => True
  | .teardown other => other ≠ guild

/-- Whether every event of a history leaves a command of a guild. -/
def Bot.SparesIn (bot : Bot γ ω) (guild called : String) :
    List (BotEvent ω) → BotState γ ω → Prop
  | [], _ => True
  | event :: history, s =>
    bot.Spares guild called s event ∧ bot.SparesIn guild called history (bot.step s event)

/-- A bot with an open guild that has a command whose name calls no built-in command. -/
structure BotState.Offers (v : GuildView γ ω) (guild : String) (row : CustomCommand)
    (s : BotState γ ω) : Prop where
  tidy : v.tidy s.world
  loaded : s.directory.All (Scope.Loaded v)
  named : s.registry.IsNamed
  free : s.registry.entryOfTrigger? row.name = none
  bound : ∃ sc, s.directory.scopes.get? guild = some sc ∧ sc.Binds v row

namespace Bot

variable {bot : Bot γ ω} {v : GuildView γ ω} {guild : String} {row : CustomCommand}
  {s : BotState γ ω}

/-- A message to the guild keeps the command unless it is answered otherwise. -/
theorem binds_handle (hb : bot.backend.Holds v) {m : Moment} {msg : Message}
    (hs : s.Offers v msg.guild row)
    (hspares : ∀ reply, (bot.handle m msg s).1 = .ok (.builtin Builtin.command.id, some reply) →
      SparesCommand (bot.mark ++ row.name) reply.text) :
    ∃ sc, (bot.handle m msg s).2.directory.scopes.get? msg.guild = some sc ∧ sc.Binds v row := by
  obtain ⟨sc, hopen, hsc⟩ := hs.bound
  have hscope : s.directory.scope bot.backend msg.guild s.world =
      (.ok sc, s.directory, s.world) := by
    simp only [Directory.scope, hopen]
  rw [handle_eq] at hspares ⊢
  split_ifs at hspares ⊢
  · exact ⟨sc, hopen, hsc⟩
  · simp only [Directory.within, hscope, inGuild] at hspares ⊢
    refine ⟨_, by rw [Table.get?_insert_self], ?_⟩
    refine binds_respond hb.stores hs.named hsc hs.tidy _ fun text htext ↦ ?_
    obtain ⟨houtcome, hanswer⟩ := Prod.mk.inj htext
    exact hspares { channel := msg.channel, text } (by rw [houtcome, hanswer]; rfl)

/-- What happens in another guild changes nothing of a guild but its serial number. -/
theorem binds_of_alike {d d' : Directory γ} (hd : d'.Alike guild d)
    (hbound : ∃ sc, d.scopes.get? guild = some sc ∧ sc.Binds v row) :
    ∃ sc, d'.scopes.get? guild = some sc ∧ sc.Binds v row := by
  obtain ⟨sc, hopen, hsc⟩ := hbound
  have hfound := hd.found
  rw [hopen, Option.map_some, Option.map_eq_some_iff] at hfound
  obtain ⟨sc', hopen', hsame⟩ := hfound
  have hsc' : sc'.unnumbered.Binds v row := by
    rw [hsame]
    exact ⟨⟨hsc.sound, hsc.ordered, hsc.full⟩, hsc.slot, hsc.stored⟩
  exact ⟨sc', hopen', ⟨hsc'.sound, hsc'.ordered, hsc'.full⟩, hsc'.slot, hsc'.stored⟩

/-- An event that leaves a command leaves it on offer. -/
theorem offers_step (hb : bot.backend.Holds v) (hs : s.Offers v guild row) {event : BotEvent ω}
    (htidy : event.IsTidy v) (hspares : bot.Spares guild (bot.mark ++ row.name) s event) :
    (bot.step s event).Offers v guild row := by
  obtain ⟨hloaded, hworld⟩ := all_step hb.maintains ⟨hs.loaded, hs.tidy⟩ htidy
  have hregistry := bot.registry_step s event
  refine ⟨hworld, hloaded, ?_, ?_, ?_⟩
  · rw [hregistry]
    exact hs.named
  · rw [hregistry]
    exact hs.free
  cases event with
  | message isOpen m msg =>
    rw [step, process_snd]
    by_cases hguild : msg.guild = guild
    · subst hguild
      exact binds_handle hb hs (hspares rfl)
    · have halike := Directory.alike_within_of_ne (Ne.symm hguild) bot.backend s.directory s.world
        (bot.inGuild m msg s.registry)
      rw [handle_eq]
      split_ifs
      · exact hs.bound
      · generalize s.directory.within bot.backend msg.guild (bot.inGuild m msg s.registry) s.world =
          result at halike ⊢
        rcases result with ⟨e | ⟨⟨outcome, text⟩, registry⟩, d, w⟩
        · exact binds_of_alike halike hs.bound
        · exact binds_of_alike halike hs.bound
  | world w => exact hs.bound
  | teardown other =>
    obtain ⟨sc, hopen, hsc⟩ := hs.bound
    refine ⟨sc, ?_, hsc⟩
    have hother : guild ≠ other := Ne.symm hspares
    simp only [step, Directory.teardown, Table.get?_erase, if_neg hother, hopen]

theorem offers_after (hb : bot.backend.Holds v) {history : List (BotEvent ω)}
    (hs : s.Offers v guild row) (htidy : ∀ event ∈ history, event.IsTidy v)
    (hspares : bot.SparesIn guild (bot.mark ++ row.name) history s) :
    (bot.after history s).Offers v guild row := by
  induction history generalizing s with
  | nil => exact hs
  | cons event history ih =>
    obtain ⟨hevent, hhistory⟩ := List.forall_mem_cons.mp htidy
    exact ih (offers_step hb hs hevent hspares.1) hhistory hspares.2

theorem isNamed_after (history : List (BotEvent ω)) (hs : s.registry.IsNamed) :
    (bot.after history s).registry.IsNamed := by
  induction history generalizing s with
  | nil => exact hs
  | cons event history ih =>
    refine ih ?_
    rw [bot.registry_step s event]
    exact hs

/-! ### The announcement -/

/-- What `command` announces as added or updated was asked for, under a name that calls no built-in
command, and its guild has it. -/
theorem binds_of_announced (hb : bot.backend.Holds v) {r : Registry Builtin} {m : Moment}
    {msg : Message} {cp : Checkpoint γ ω}
    (hnamed : ∀ entry, cp.target = .builtin entry → entry.spec.id = entry.command.id)
    (hsc : cp.scope.Loaded v) (hw : v.tidy cp.world) {called text : String}
    (hanswer : (bot.pass m msg r cp).1 = (.builtin Builtin.command.id, some text))
    (htext : text = s!"Added `{called}`." ∨ text = s!"Updated `{called}`.") :
    ∃ mode name template, CustomRequest.ofArgs cp.args = .write mode name template ∧
      called = bot.mark ++ name ∧ r.entryOfTrigger? name = none ∧
      (bot.pass m msg r cp).2.2.1.Binds v { name, template, owner := msg.invoker.id } := by
  have hcheck := leavesCommands_check bot m msg hb.stores hsc.sound hw
    cp.action
  unfold pass at hanswer ⊢
  rcases hresult : bot.check m msg cp.action cp.scope cp.world with ⟨_ | ⟨refusal, notice⟩, sc, w⟩
  · rw [hresult] at hcheck
    have hsc' : sc.Loaded v := hsc.of_leavesCommands hcheck
    simp only [hresult] at hanswer ⊢
    cases htarget : cp.target with
    | custom found =>
      simp [htarget, run] at hanswer
    | builtin entry =>
      simp only [htarget, run, Prod.mk.injEq, Outcome.builtin.injEq, Option.some.injEq]
        at hanswer ⊢
      have hcommand : entry.command = .command :=
        Builtin.eq_of_id ((hnamed entry htarget).symm.trans hanswer.1)
      rw [hcommand] at hanswer ⊢
      simp only [Builtin.run, Answer.text, Scope.onCommands_eq] at hanswer ⊢
      generalize CustomRequest.ofArgs cp.args = request at hanswer ⊢
      rw [← hanswer.2] at htext
      obtain ⟨mode, name, hwritten, hcalled⟩ := CustomAnswer.eq_written_of_text htext
      obtain ⟨template, hrequest, hfree, hkeeps⟩ := CustomRequest.keeps_of_written
        (hb.stores.commands (v.rows sc.stored)) _ _ hsc'.ordered hsc'.full
        ⟨hsc'.sound, hcheck.stored.2.1, rfl⟩ hwritten
      refine ⟨mode, name, template, hrequest, hcalled, ?_, (Scope.Binds.of_keeps hkeeps sc).1⟩
      simpa using hfree
  · rcases check_eq_some hresult with ⟨rule, rfl, -⟩ | ⟨left, rfl, -⟩
    · simp [hresult] at hanswer
    · simp [hresult] at hanswer

/-- A command that was announced as added or updated is on offer. -/
theorem offers_of_announced (hb : bot.backend.Holds v) (hloaded : s.directory.All (Scope.Loaded v))
    (hworld : v.tidy s.world) (hnamed : s.registry.IsNamed) {m : Moment} {msg : Message}
    {reply : Reply} {called : String}
    (hanswer : (bot.handle m msg s).1 = .ok (.builtin Builtin.command.id, some reply))
    (htext : reply.text = s!"Added `{called}`." ∨ reply.text = s!"Updated `{called}`.") :
    ∃ cp mode name template, bot.checkpoint? msg s = some cp ∧
      CustomRequest.ofArgs cp.args = .write mode name template ∧ called = bot.mark ++ name ∧
      (bot.handle m msg s).2.Offers v msg.guild { name, template, owner := msg.invoker.id } := by
  cases hcheckpoint : bot.checkpoint? msg s with
  | none => exact (isUncalled_of_checkpoint?_eq_none hcheckpoint hanswer).elim
  | some cp =>
    obtain ⟨token, sc, d, w, -, hscope, htarget, -⟩ := checkpoint?_eq_some hcheckpoint
    have hopen := Directory.all_scope hb.maintains hloaded hworld msg.guild
    rw [hscope] at hopen
    obtain ⟨hsc, -, hw⟩ := hopen
    have hsame := target_snd bot s.registry w hsc.full (String.ofList token)
    rw [htarget] at hsame
    obtain ⟨rfl, rfl⟩ := Prod.mk.inj hsame
    obtain ⟨d', -, hhandle⟩ := handle_eq_of_checkpoint? hcheckpoint m
    have hregistry := bot.registry_step s (.message true m msg)
    rw [step, process_snd] at hregistry
    obtain ⟨hloaded', hworld'⟩ := all_handle hb.maintains ⟨hloaded, hworld⟩ m msg
    rw [hhandle] at hanswer hregistry hloaded' hworld' ⊢
    obtain ⟨houtcome, hreply⟩ := Prod.mk.inj (Except.ok.inj hanswer)
    obtain ⟨text, hsome, rfl⟩ := Option.map_eq_some_iff.mp hreply
    obtain ⟨mode, name, template, hrequest, hcalled, hfree, hbinds⟩ := binds_of_announced hb
      (fun entry hentry ↦ isNamed_target hnamed (hentry ▸ htarget)) hsc hw
      (Prod.ext houtcome hsome) htext
    refine ⟨cp, mode, name, template, rfl, hrequest, hcalled, hworld', hloaded', ?_, ?_, ?_⟩
    · rw [hregistry]
      exact hnamed
    · rw [hregistry]
      exact hfree
    · exact ⟨_, by rw [Table.get?_insert_self], hbinds⟩

/-! ### The call -/

/-- The checks of a command leave the events of the guild. -/
theorem events_check (bot : Bot γ ω) (m : Moment) (msg : Message) (action : String) (sc : Scope γ)
    (w : ω) :
    (bot.check m msg action sc w).2.1.events = sc.events := by
  simp only [check, Scope.onPolicy]
  generalize sc.policy.authorize bot.backend.stores.rules (bot.rankOf msg.invoker) msg.invoker
    action (sc.stored, w) = authorized
  rcases authorized with ⟨_ | rule, p, stored, w₁⟩
  · dsimp only
    generalize p.checkCooldown bot.backend.stores.rules (bot.rankOf msg.invoker) m.now action
      (stored, w₁) = cooled
    rcases cooled with ⟨_ | left, p', stored', w₂⟩ <;> rfl
  · rfl

/-- The owner is answered with the template of a command that is on offer. -/
theorem process_offered (hs : s.Offers v guild row) (hname : IsName row.name.toList)
    (hmark : ∀ c ∈ bot.mark.toList.head?, isBlank c = false) {msg : Message}
    (hguild : msg.guild = guild) (howner : bot.rankOf msg.invoker = .owner) {tail : String}
    (htext : msg.text = bot.mark ++ row.name ++ tail)
    (htail : ∀ c ∈ tail.toList.head?, isBlank c = true) (m : Moment) :
    ∃ sc, s.directory.scopes.get? guild = some sc ∧
      (bot.process true m msg s).1 = (.ok (.custom row.name), [{
        channel := msg.channel
        text := sc.events.expand m msg row.template (String.ofList (trim tail.toList)) }]) := by
  subst hguild
  obtain ⟨sc, hopen, hsc⟩ := hs.bound
  refine ⟨sc, hopen, ?_⟩
  have hrequest : Request.ofText bot.mark.toList msg.text.toList =
      .command row.name.toList (trim tail.toList) := by
    rw [htext, String.toList_append, String.toList_append]
    exact Request.ofText_name hmark hname htail
  have hscope : s.directory.scope bot.backend msg.guild s.world =
      (.ok sc, s.directory, s.world) := by
    simp only [Directory.scope, hopen]
  have htarget : bot.target (String.ofList row.name.toList) s.registry sc s.world =
      (some (.custom row), sc, s.world) := by
    have hlookup : sc.commands.lookup row.name = some (some row) := by
      rw [Cache.lookup, hsc.slot]
    simp only [target, String.ofList_toList, hs.free, Scope.customCommand_of_full _ hsc.full,
      hname.lower, hlookup, Option.join_some, Option.map_some]
  obtain ⟨action, hcheckpoint⟩ : ∃ action, bot.checkpoint? msg s =
      some ⟨action, trim tail.toList, .custom row, sc, s.world⟩ :=
    ⟨_, by simp only [checkpoint?, hrequest, hscope, htarget]; rfl⟩
  obtain ⟨d, -, hhandle⟩ := handle_eq_of_checkpoint? hcheckpoint m
  have hcheck := check_owner howner m action sc s.world
  have hevents := events_check bot m msg action sc s.world
  rw [process, hhandle, pass]
  dsimp only
  generalize bot.check m msg action sc s.world = answer at hcheck hevents ⊢
  obtain ⟨refusal, sc', w'⟩ := answer
  obtain rfl : refusal = none := hcheck
  dsimp only at hevents
  simp only [run, hevents, Option.map_some, Outcome.deliver, if_true, Option.toList_some]

/-- An authored command can be called as announced. Whatever happened before: if `command` answers a
message with that it added or updated a text in backticks, the message asked for a template under
the name in that text; and until the guild is closed or `command` answers that it updated or deleted
that text, whatever messages come, whatever is switched on or off and whichever calls of the stores
fail, a message of the owner with the text, alone or with a blank and more behind it, has the
outcome of the custom command of the name and is answered with the expansion of the template. -/
theorem authored_command_is_called {c : Config} {owner : Id} (howner : c.owner = some owner)
    (hmark : ∀ ch ∈ c.mark.toList.head?, isBlank ch = false) {backend : Backend γ ω}
    (hb : backend.Holds v) {world : ω} (hworld : v.tidy world) {opening : List (BotEvent ω)}
    (hopening : ∀ event ∈ opening, event.IsTidy v) {m₁ : Moment} {msg₁ : Message} {reply : Reply}
    {called : String} :
    let bot := c.bot backend
    let s := bot.after opening (c.start world)
    (bot.handle m₁ msg₁ s).1 = .ok (.builtin Builtin.command.id, some reply) →
    (reply.text = s!"Added `{called}`." ∨ reply.text = s!"Updated `{called}`.") →
    ∃ cp mode name template, bot.checkpoint? msg₁ s = some cp ∧
      CustomRequest.ofArgs cp.args = .write mode name template ∧ called = c.mark ++ name ∧
      ∀ history : List (BotEvent ω), (∀ event ∈ history, event.IsTidy v) →
        bot.SparesIn msg₁.guild called history (bot.handle m₁ msg₁ s).2 →
        ∀ (m : Moment) (msg : Message) (tail : String), msg.guild = msg₁.guild →
          msg.invoker.id = owner → msg.text = called ++ tail →
          (∀ ch ∈ tail.toList.head?, isBlank ch = true) →
          let s' := bot.after history (bot.handle m₁ msg₁ s).2
          ∃ sc, s'.directory.scopes.get? msg.guild = some sc ∧
            (bot.process true m msg s').1 = (.ok (.custom name), [{
              channel := msg.channel
              text := sc.events.expand m msg template (String.ofList (trim tail.toList)) }]) := by
  intro bot s hanswer htext
  have hb : bot.backend.Holds v := hb
  obtain ⟨hloaded, hs⟩ : s.directory.All (Scope.Loaded v) ∧ v.tidy s.world :=
    all_after hb.maintains hopening ⟨Directory.all_empty _ _, hworld⟩
  have hnamed : s.registry.IsNamed := isNamed_after opening (Builtin.isNamed_registry _)
  obtain ⟨cp, mode, name, template, hcheckpoint, hrequest, rfl, hoffers⟩ :=
    offers_of_announced hb hloaded hs hnamed hanswer htext
  refine ⟨cp, mode, name, template, hcheckpoint, hrequest, rfl, ?_⟩
  intro history hhistory hspares m msg tail hguild hinvoker hcall htail
  have hkept := offers_after hb hoffers hhistory hspares
  have hrank : bot.rankOf msg.invoker = .owner := by
    simp [bot, Config.bot, Config.rankOf, howner, hinvoker]
  rw [hguild]
  exact process_offered hkept (CustomRequest.isName_of_ofArgs hrequest) hmark hguild
    hrank hcall htail m

/-- What the owner asks for in capitals. -/
def addingPhilos : Message := ordering "!command add ΦΙΛΟΣ Dear \x7bmessage\x7d!"

/-- The bot after the command was added. -/
def withPhilos : BotState (GuildRows Switched) Switchboard :=
  (ownedBot.handle (secondsIn 1) addingPhilos (ownedConfig.start {})).2

/-- A member switches `ping` off and tries to add the command again. -/
def meddling : List (BotEvent Switchboard) :=
  [.message true (secondsIn 2) (saying "!builtins disable ping"),
    .message true (secondsIn 3) (saying "!command add φιλος go away")]

/-- The command is added, what the member says leaves it, and nobody has signed up for an event. -/
theorem philos_run :
    (ownedBot.handle (secondsIn 1) addingPhilos (ownedConfig.start {})).1 =
        .ok (.builtin "command", some { channel := "gate", text := "Added `!φιλος`." }) ∧
      (ownedBot.checkpoint? addingPhilos (ownedConfig.start {})).map
        (fun cp ↦ CustomRequest.ofArgs cp.args) =
        some (.write .create "φιλος" "Dear \x7bmessage\x7d!") ∧
      (ownedBot.handle (secondsIn 2) (saying "!builtins disable ping") withPhilos).1.map (·.1) =
        .ok (.builtin "builtins") ∧
      (ownedBot.handle (secondsIn 3) (saying "!command add φιλος go away")
        (ownedBot.step withPhilos
          (.message true (secondsIn 2) (saying "!builtins disable ping")))).1 =
        .ok (.builtin "command", some {
          channel := "gate"
          text := "`!φιλος` already exists. Use `command replace` to change it." }) ∧
      ((ownedBot.after meddling withPhilos).directory.scopes.get? "hall").map (·.events) =
        some {} := by
  decide +kernel

theorem sparesIn_meddling :
    ownedBot.SparesIn addingPhilos.guild "!φιλος" meddling withPhilos := by
  obtain ⟨-, -, houtcome, hrefused, -⟩ := philos_run
  refine ⟨fun _ reply hreply ↦ ?_, fun _ reply hreply ↦ ?_, trivial⟩
  · rw [hreply] at houtcome
    simp [Except.map, Builtin.id] at houtcome
  · rw [hrefused] at hreply
    cases hreply
    exact ⟨by decide, by decide⟩

/-- A command whose name was written in capitals is called by the name as it was announced, with a
final sigma. -/
theorem authored_command_is_called_philos :
    (ownedBot.handle (secondsIn 1) addingPhilos (ownedConfig.start {})).1 =
        .ok (.builtin "command", some { channel := "gate", text := "Added `!φιλος`." }) ∧
      (ownedBot.process true (secondsIn 4) (ordering "!φιλος  friends")
        (ownedBot.after meddling withPhilos)).1 =
        (.ok (.custom "φιλος"), [{ channel := "gate", text := "Dear friends!" }]) := by
  obtain ⟨hadded, hargs, -, -, hevents⟩ := philos_run
  refine ⟨hadded, ?_⟩
  have htidy : Backend.switchedView.tidy {} :=
    ⟨⟨rfl, rfl, rfl, rfl⟩, Table.isKeyed_empty, Table.isKeyed_empty, Table.isKeyed_empty,
      Table.isKeyed_empty⟩
  have hmark : ∀ ch ∈ ownedConfig.mark.toList.head?, isBlank ch = false := by
    have hhead : ownedConfig.mark.toList.head? = some '!' := by decide
    rw [hhead]
    rintro ch ⟨⟩
    rfl
  have htail : ∀ ch ∈ "  friends".toList.head?, isBlank ch = true := by
    have hhead : "  friends".toList.head? = some ' ' := by decide
    rw [hhead]
    rintro ch ⟨⟩
    rfl
  have hbot : ownedConfig.bot .switched = ownedBot := rfl
  have hnil (s : BotState (GuildRows Switched) Switchboard) : ownedBot.after [] s = s := rfl
  have hspares := sparesIn_meddling
  rw [withPhilos] at hspares hevents ⊢
  have hcalled := @authored_command_is_called _ _ _ ownedConfig 1 rfl hmark .switched
    Backend.lawful_switched.holds {} htidy [] (by simp) (secondsIn 1) addingPhilos
    { channel := "gate", text := "Added `!φιλος`." } "!φιλος"
  simp only [hbot, hnil] at hcalled
  obtain ⟨cp, mode, name, template, hcheckpoint, hrequest, -, hcalls⟩ :=
    hcalled hadded (Or.inl (by decide))
  rw [hcheckpoint, Option.map_some, hrequest, Option.some.injEq] at hargs
  cases hargs
  obtain ⟨sc, hopen, hanswer⟩ := hcalls meddling (by simp [meddling, BotEvent.IsTidy])
    hspares (secondsIn 4) (ordering "!φιλος  friends") "  friends" rfl rfl (by decide) htail
  have hguild : (ordering "!φιλος  friends").guild = "hall" := rfl
  rw [hguild] at hopen
  rw [hopen, Option.map_some, Option.some.injEq] at hevents
  rw [hanswer, hevents]
  decide +kernel

end Bot

end Guildhall
