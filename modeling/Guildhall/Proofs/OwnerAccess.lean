import Guildhall.Bot.Session
import Guildhall.Proofs.Isolation
import Guildhall.Proofs.SetUps

/-!
The owner is never locked out. No rule denies an owner an action and no cooldown makes one wait,
whatever the stores answer (`Bot.check_owner`). No message switches `builtins` off, and none changes
what its trigger calls (`Bot.isUnlocked_after`); an open guild stays open until it is closed
(`Bot.isOpen_after`). So after any run of messages, with any failures of the stores, an owner can
switch every built-in command on (`Bot.owner_is_never_locked_out`).
-/

set_option autoImplicit false

namespace Guildhall

open Text

variable {γ ω σ : Type}

/-! ### Owners pass every check -/

theorem PermissionRule.grants_owner (rule : PermissionRule) (invoker : Invoker) :
    rule.grants .owner invoker = true := by
  have hrank : rule.rank ≤ Rank.owner := by cases rule.rank <;> decide
  simp [grants, hrank]

theorem Policy.authorize_owner (st : RuleStores σ) (p : Policy) (invoker : Invoker)
    (action : String) (s : σ) : (p.authorize st .owner invoker action s).1 = .granted :=
  (authorize_eq_granted_iff st p s .owner invoker action).mpr
    (PermissionRule.grants_owner _ invoker)

/-- An owner passes the checks of every action, also where the rules cannot be read. -/
theorem Bot.check_owner {bot : Bot γ ω} {msg : Message} (howner : bot.rankOf msg.invoker = .owner)
    (m : Moment) (action : String) (sc : Scope γ) (w : ω) :
    (bot.check m msg action sc w).1 = none := by
  have hgranted := Policy.authorize_owner bot.backend.stores.rules sc.policy msg.invoker action
    (sc.stored, w)
  simp only [check, howner, Scope.onPolicy]
  generalize sc.policy.authorize bot.backend.stores.rules .owner msg.invoker action (sc.stored, w) =
    answer at hgranted ⊢
  rcases answer with ⟨_ | rule, p, stored, w'⟩
  · rfl
  · simp at hgranted

/-! ### Switching commands -/

/-- No arguments ask for `builtins` to be switched off. -/
theorem ToggleRequest.ne_builtins_of_disable {args : List Char} {id : String}
    (hrequest : ofArgs args = .switch .disable id) : id ≠ Builtin.builtins.id := by
  unfold ofArgs at hrequest
  dsimp only at hrequest
  split at hrequest
  · cases hrequest
  split at hrequest
  · cases hrequest
  split_ifs at hrequest with _ hkept
  obtain ⟨rfl, rfl⟩ := ToggleRequest.switch.inj hrequest
  exact fun hid ↦ hkept ⟨rfl, hid⟩

/-- A registry that was switched from another, with `builtins` not off. -/
structure Registry.IsUnlocked (r₀ r : Registry Builtin) : Prop where
  switched : r = r₀.switched r.overrides
  kept : r.overrides.get? Builtin.builtins.id ≠ some false

namespace Registry.IsUnlocked

variable {r₀ r : Registry Builtin}

/-- What messages ask to be switched leaves `builtins` on. -/
theorem toggle (hr : r₀.IsUnlocked r) (args : List Char) :
    r₀.IsUnlocked ((ToggleRequest.ofArgs args).run r).2 where
  switched := by
    rw [ToggleRequest.registry_run, hr.switched]
    rfl
  kept := by
    cases hrequest : ToggleRequest.ofArgs args with
    | usage | keepOn | list => exact hr.kept
    | switch toggle id =>
      simp only [ToggleRequest.run]
      split_ifs
      · exact hr.kept
      · cases toggle with
        | enable =>
          simp only [Toggle.apply, setOverride, Table.get?_insert]
          split_ifs
          · simp
          · exact hr.kept
        | disable =>
          have hother := ToggleRequest.ne_builtins_of_disable hrequest
          simp only [Toggle.apply, setOverride, Table.get?_insert, if_neg (Ne.symm hother)]
          exact hr.kept
        | reset =>
          simp only [Toggle.apply, clearOverride, Table.get?_erase]
          split_ifs
          · simp
          · exact hr.kept

end Registry.IsUnlocked

/-! ### The set-up without a configuration -/

namespace Registry.IsUnlocked

variable {r : Registry Builtin} (hr : (Builtin.registry []).IsUnlocked r)

include hr

theorem entry?_eq (b : Builtin) : r.entry? b.id = some { spec := b.spec, command := b } := by
  rw [hr.switched]
  exact Builtin.entry?_registry_nil b

theorem entryOfTrigger?_eq {b : Builtin} {trigger : String} (htrigger : trigger ∈ b.triggers) :
    r.entryOfTrigger? trigger = some { spec := b.spec, command := b } := by
  rw [hr.switched]
  exact Builtin.entryOfTrigger?_registry_nil htrigger

/-- In a set-up without a configuration `builtins` stays on. -/
theorem isEnabled_builtins : r.isEnabled Builtin.builtins.id = true := by
  have hkept := hr.kept
  rw [isEnabled, hr.entry?_eq]
  generalize r.overrides.get? Builtin.builtins.id = switched at hkept ⊢
  rcases switched with _ | _ | _
  · rfl
  · exact absurd rfl hkept
  · rfl

end Registry.IsUnlocked

theorem Registry.isUnlocked_registry :
    (Builtin.registry []).IsUnlocked (Builtin.registry []) := ⟨rfl, by decide⟩

/-! ### The request of the owner -/

namespace Request

/-- A text that is the mark and a body, with no blanks at its ends, asks for what the body asks
for. -/
theorem ofText_append {mark body : List Char} (hmark : ∀ c ∈ mark.head?, isBlank c = false)
    (hfirst : ∀ c ∈ body.head?, isBlank c = false) (hlast : ∀ c ∈ body.getLast?, isBlank c = false)
    (hbody : body ≠ []) : ofText mark (mark ++ body) = ofBody body := by
  have htrim : trim (mark ++ body) = mark ++ body := by
    rw [trim_eq_trimStart (by rwa [List.getLast?_append_of_ne_nil _ hbody])]
    refine trimStart_eq_self ?_
    cases mark with
    | nil => exact hfirst
    | cons c mark => exact hmark
  have hafter : Pattern.after? mark (mark ++ body) = some body := by
    simp [Pattern.after?, List.isPrefixOf_iff_prefix]
  simp [ofText, htrim, hafter, hbody]

/-- What is asked for by the text that switches a built-in command on. -/
theorem ofText_enable {mark : List Char} (hmark : ∀ c ∈ mark.head?, isBlank c = false)
    (b : Builtin) :
    ofText mark (mark ++ "builtins enable ".toList ++ b.id.toList) =
      .command "builtins".toList ("enable ".toList ++ b.id.toList) := by
  have hword : ∀ c ∈ b.id.toList, isBlank c = false := by
    cases b <;> simp [Builtin.id, isBlank]
  have hid : b.id.toList ≠ [] := by cases b <;> simp [Builtin.id]
  rw [List.append_assoc, ofText_append hmark]
  · cases b <;> decide
  · intro c hc
    have hfirst : ("builtins enable ".toList ++ b.id.toList).head? = some 'b' := rfl
    obtain rfl : 'b' = c := Option.some.inj (hfirst.symm.trans hc)
    decide
  · intro c hc
    rw [List.getLast?_append_of_ne_nil _ hid] at hc
    exact hword c (List.mem_of_getLast? hc)
  · exact List.append_ne_nil_of_right_ne_nil _ hid

end Request

/-- A registered command that is asked for by its id is switched on. -/
theorem ToggleRequest.run_enable {b : Builtin} {r : Registry Builtin}
    {entry : RegistryEntry Builtin} (hentry : r.entry? b.id = some entry) :
    ((ofArgs ("enable ".toList ++ b.id.toList)).run r).2 = r.setOverride b.id true := by
  have hrequest : ofArgs ("enable ".toList ++ b.id.toList) = .switch .enable b.id := by
    cases b <;> decide
  rw [hrequest, run, hentry]
  rfl

/-! ### Open guilds -/

namespace Directory

/-- A guild that is open. -/
def IsOpen (d : Directory γ) (guild : String) : Prop := ∃ sc, d.scopes.get? guild = some sc

variable {d : Directory γ} {guild : String}

theorem IsOpen.insert (hd : d.IsOpen guild) (other : String) (sc : Scope γ) (n : Nat) :
    ({ d with scopes := d.scopes.insert other sc, opened := n } : Directory γ).IsOpen guild := by
  obtain ⟨kept, hkept⟩ := hd
  by_cases hother : guild = other
  · exact ⟨sc, by simp [Table.get?_insert, hother]⟩
  · exact ⟨kept, by simp [Table.get?_insert, hother, hkept]⟩

theorem IsOpen.scope (hd : d.IsOpen guild) (b : Backend γ ω) (other : String) (w : ω) :
    (d.scope b other w).2.1.IsOpen guild := by
  unfold Directory.scope
  split
  · exact hd
  · split
    · exact hd
    · dsimp only
      split
      · exact hd
      · exact hd.insert other _ _

/-- What is done in a guild closes none. -/
theorem IsOpen.within {α : Type} (hd : d.IsOpen guild) (b : Backend γ ω) (other : String)
    (op : Scope γ → ω → α × Scope γ × ω) (w : ω) :
    (d.within b other op w).2.1.IsOpen guild := by
  have hscope := hd.scope b other w
  simp only [Directory.within]
  generalize d.scope b other w = found at hscope ⊢
  rcases found with ⟨e | sc, d₁, w₁⟩
  · exact hscope
  · exact hscope.insert other _ d₁.opened

theorem IsOpen.teardown (hd : d.IsOpen guild) {other : String} (hother : guild ≠ other) :
    (d.teardown other).2.IsOpen guild := by
  obtain ⟨sc, hsc⟩ := hd
  exact ⟨sc, by simp [Directory.teardown, Table.get?_erase, hother, hsc]⟩

end Directory

/-! ### Runs -/

namespace Bot

variable {bot : Bot γ ω} {s : BotState γ ω}

/-- After any history what messages asked to be switched left `builtins` on. -/
theorem isUnlocked_after {r₀ : Registry Builtin} (history : List (BotEvent ω))
    (hs : r₀.IsUnlocked s.registry) : r₀.IsUnlocked (bot.after history s).registry := by
  induction history generalizing s with
  | nil => exact hs
  | cons event history ih =>
    obtain ⟨args, hregistry⟩ := bot.toggles_step s event
    exact ih (hregistry ▸ hs.toggle args)

/-- No event but its closing closes a guild. -/
theorem isOpen_step {guild : String} (hs : s.directory.IsOpen guild) {event : BotEvent ω}
    (hevent : event ≠ .teardown guild) : (bot.step s event).directory.IsOpen guild := by
  cases event with
  | message isOpen m msg =>
    rw [step, process_snd, handle_eq]
    split_ifs
    · exact hs
    have hwithin := hs.within bot.backend msg.guild (bot.inGuild m msg s.registry) s.world
    generalize s.directory.within bot.backend msg.guild (bot.inGuild m msg s.registry) s.world =
      result at hwithin ⊢
    rcases result with ⟨e | ⟨⟨outcome, text⟩, registry⟩, d, w⟩
    · exact hwithin
    · exact hwithin
  | world world => exact hs
  | teardown other => exact hs.teardown fun hother ↦ hevent (hother ▸ rfl)

/-- An open guild stays open until it is closed. -/
theorem isOpen_after {guild : String} {history : List (BotEvent ω)}
    (hhistory : ∀ event ∈ history, event ≠ .teardown guild) (hs : s.directory.IsOpen guild) :
    (bot.after history s).directory.IsOpen guild := by
  induction history generalizing s with
  | nil => exact hs
  | cons event history ih =>
    obtain ⟨hevent, hhistory⟩ := List.forall_mem_cons.mp hhistory
    exact ih hhistory (isOpen_step hs hevent)

/-! ### What the owner asks for -/

/-- A default trigger of a command that is on calls the command. -/
theorem checkpoint?_trigger (hs : (Builtin.registry []).IsUnlocked s.registry) {b : Builtin}
    (hon : s.registry.isEnabled b.id = true) {msg : Message} {trigger : String}
    (htrigger : trigger ∈ b.triggers) {args : List Char}
    (hrequest : Request.ofText bot.mark.toList msg.text.toList = .command trigger.toList args)
    {sc : Scope γ} {d : Directory γ} {w : ω}
    (hscope : s.directory.scope bot.backend msg.guild s.world = (.ok sc, d, w)) :
    ∃ action, bot.checkpoint? msg s = some
      { action, args, target := .builtin { spec := b.spec, command := b }, scope := sc,
        world := w } := by
  have htarget : bot.target (String.ofList trigger.toList) s.registry sc w =
      (some (.builtin { spec := b.spec, command := b }), sc, w) := by
    have hspec : s.registry.isEnabled b.spec.id = true := hon
    simp only [target, String.ofList_toList, hs.entryOfTrigger?_eq htrigger, hspec, if_true]
  exact ⟨_, by simp only [checkpoint?, hrequest, hscope, htarget]; rfl⟩

/-- What an owner calls is run. -/
theorem pass_owner {msg : Message} (howner : bot.rankOf msg.invoker = .owner) (m : Moment)
    (r : Registry Builtin) (cp : Checkpoint γ ω) :
    ∃ sc w, bot.pass m msg r cp = bot.run m msg cp.args cp.target r sc w := by
  have hcheck := check_owner howner m cp.action cp.scope cp.world
  unfold pass
  generalize bot.check m msg cp.action cp.scope cp.world = answer at hcheck ⊢
  rcases answer with ⟨_ | refusal, sc, w⟩
  · exact ⟨sc, w, rfl⟩
  · cases hcheck

theorem run_builtins (bot : Bot γ ω) (m : Moment) (msg : Message) (args : List Char)
    (r : Registry Builtin) (sc : Scope γ) (w : ω) :
    let a := bot.run m msg args
      (.builtin { spec := Builtin.builtins.spec, command := .builtins }) r sc w
    a.1.1 = .builtin Builtin.builtins.id ∧ a.2.1 = ((ToggleRequest.ofArgs args).run r).2 :=
  ⟨rfl, rfl⟩

/-- The message of an owner that asks for a built-in command to be switched on is answered by
`builtins`, which switches it on. -/
theorem process_enable (hmark : ∀ c ∈ bot.mark.toList.head?, isBlank c = false)
    (hs : (Builtin.registry []).IsUnlocked s.registry) {msg : Message}
    (hopen : s.directory.IsOpen msg.guild) (howner : bot.rankOf msg.invoker = .owner) {b : Builtin}
    (htext : msg.text = bot.mark ++ "builtins enable " ++ b.id) (m : Moment) :
    (bot.process true m msg s).1.1 = .ok (.builtin Builtin.builtins.id) ∧
      (bot.process true m msg s).2.registry = s.registry.setOverride b.id true := by
  obtain ⟨sc, hsc⟩ := hopen
  have hscope : s.directory.scope bot.backend msg.guild s.world =
      (.ok sc, s.directory, s.world) := by
    simp only [Directory.scope, hsc]
  have hrequest := Request.ofText_enable hmark b
  rw [← String.toList_append, ← String.toList_append, ← htext] at hrequest
  obtain ⟨action, hcheckpoint⟩ := checkpoint?_trigger hs hs.isEnabled_builtins
    (List.mem_singleton_self "builtins") hrequest hscope
  obtain ⟨d, -, hhandle⟩ := handle_eq_of_checkpoint? hcheckpoint m
  obtain ⟨sc', w', hpass⟩ := pass_owner howner m s.registry
    { action, args := "enable ".toList ++ b.id.toList,
      target := .builtin { spec := Builtin.builtins.spec, command := .builtins },
      scope := sc, world := s.world }
  have hswitched := ToggleRequest.run_enable (hs.entry?_eq b)
  generalize "enable ".toList ++ b.id.toList = args at hhandle hpass hswitched
  obtain ⟨houtcome, hregistry⟩ := run_builtins bot m msg args s.registry sc' w'
  rw [process, hhandle, hpass]
  exact ⟨congrArg Except.ok houtcome, hregistry.trans hswitched⟩

end Bot

/-! ### Bots as configured -/

namespace Config

/-- The bot of a configuration. -/
def bot (c : Config) (backend : Backend γ ω) : Bot γ ω where
  backend
  mark := c.mark
  rankOf := c.rankOf

/-- The bot of a configuration before its first message. -/
def start (c : Config) (world : ω) : BotState γ ω where
  directory := { events := .ofSeed c.events }
  registry := c.registry
  world

end Config

/-- A session runs the bot of its configuration. -/
theorem Session.bot_eq (session : Session) :
    session.bot = session.config.bot
      (.files .yaml session.directory session.config.defaultPermissions) := rfl

/-- A session starts its bot as configured. -/
theorem Session.start_eq (o : Options) (d : Disk) :
    start o d = match Config.load o.config d with
      | .error e => (.error (.config e), d)
      | .ok config => openGuild {
          config, directory := o.store
          console := { guild := o.guild, speaker := o.speaker, speakerName := o.speakerName }
          state := config.start d } := rfl

/-- The owner is never locked out. Where no command is configured, after a guild was opened and any
messages in it or elsewhere, whatever the stores answered, `builtins` is on, and the owner can ask
for any registered command to be switched on and has it switched on. -/
theorem Bot.owner_is_never_locked_out {c : Config} {owner : Id} (howner : c.owner = some owner)
    (hcommands : c.commands = none) (hmark : ∀ ch ∈ c.mark.toList.head?, isBlank ch = false)
    (backend : Backend γ ω) (world : ω) {guild : String} {opening history : List (BotEvent ω)}
    (hopened : ((c.bot backend).after opening (c.start world)).directory.IsOpen guild)
    (hkept : ∀ event ∈ history, event ≠ .teardown guild) :
    let bot := c.bot backend
    let s := bot.after history (bot.after opening (c.start world))
    s.registry.isEnabled Builtin.builtins.id = true ∧
      ∀ (id : String) (m : Moment) (msg : Message), (s.registry.entry? id).isSome →
        msg.guild = guild → msg.invoker.id = owner →
        msg.text = c.mark ++ "builtins enable " ++ id →
        (bot.process true m msg s).1.1 = .ok (.builtin Builtin.builtins.id) ∧
          (bot.process true m msg s).2.registry.isEnabled id = true := by
  intro bot s
  have hstart : (Builtin.registry []).IsUnlocked c.registry := by
    rw [Config.registry, hcommands]
    exact Registry.isUnlocked_registry
  have hs : (Builtin.registry []).IsUnlocked s.registry :=
    isUnlocked_after history (isUnlocked_after opening hstart)
  refine ⟨hs.isEnabled_builtins, ?_⟩
  rintro id m msg hid rfl hinvoker htext
  have hrank : bot.rankOf msg.invoker = .owner := by
    simp [bot, Config.bot, Config.rankOf, howner, hinvoker]
  have hopen : s.directory.IsOpen msg.guild := isOpen_after hkept hopened
  obtain ⟨b, rfl⟩ : ∃ b : Builtin, id = b.id := by
    rw [hs.switched] at hid
    exact Builtin.exists_of_entry?_registry hid
  obtain ⟨houtcome, hregistry⟩ := process_enable hmark hs hopen hrank htext m
  refine ⟨houtcome, ?_⟩
  rw [hregistry]
  simp [Registry.isEnabled, Registry.setOverride, Table.get?_insert]

/-! ### A locked command -/

/-- A configuration with an owner and nothing else. -/
def ownedConfig : Config := { owner := some 1 }

/-- A bot with an owner, behind switches. -/
def ownedBot : Bot (GuildRows Switched) Switchboard := ownedConfig.bot .switched

/-- What the owner says. -/
def ordering (text : String) : Message :=
  { saying text with invoker := { id := 1, name := "owner" } }

/-- A member switches `ping` off and locks `builtins`, and then no store can be read or written any
more. -/
def lockingHistory : List (BotEvent Switchboard) :=
  [.message true (secondsIn 1) (saying "!builtins disable ping"),
    .message true (secondsIn 2) (saying "!perm set owner builtins"),
    .message true (secondsIn 3) (saying "!builtins disable builtins"),
    .world { slowPing with
      switches := ⟨{ failReads := true, failWrites := true },
        { failReads := true, failWrites := true }, { failReads := true }, { failReads := true }⟩ }]

namespace Bot

theorem owner_is_never_locked_out_ping :
    let s := ownedBot.after lockingHistory
      (ownedBot.after [.message true (secondsIn 0) (saying "good morning")]
        (ownedConfig.start slowPing))
    s.registry.isEnabled "ping" = false ∧
      (ownedBot.process true (secondsIn 4) (saying "!builtins enable ping") s).1.1 = .ok .denied ∧
      (ownedBot.process true (secondsIn 5) (ordering "!builtins enable ping") s).1.1 =
        .ok (.builtin "builtins") ∧
      (ownedBot.process true (secondsIn 5) (ordering "!builtins enable ping")
        s).2.registry.isEnabled "ping" = true := by
  intro s
  have hopened : (ownedBot.after [.message true (secondsIn 0) (saying "good morning")]
      (ownedConfig.start slowPing)).directory.IsOpen "hall" :=
    Option.isSome_iff_exists.mp (by decide +kernel)
  have hkept : ∀ event ∈ lockingHistory, event ≠ .teardown "hall" := by
    simp [lockingHistory]
  have hunlocked : (Builtin.registry []).IsUnlocked s.registry :=
    isUnlocked_after _ (isUnlocked_after _ Registry.isUnlocked_registry)
  have hentry : (s.registry.entry? Builtin.ping.id).isSome := by
    rw [hunlocked.entry?_eq]
    rfl
  have hmark : ∀ c ∈ ownedConfig.mark.toList.head?, isBlank c = false := by
    intro c hc
    have hhead : ownedConfig.mark.toList.head? = some '!' := by decide
    obtain rfl : '!' = c := Option.some.inj (hhead.symm.trans hc)
    decide
  obtain ⟨-, hcommands⟩ := owner_is_never_locked_out rfl rfl hmark .switched slowPing hopened hkept
  have henable := hcommands "ping" (secondsIn 5) (ordering "!builtins enable ping") hentry
    rfl rfl (by decide)
  have hlocked : s.registry.isEnabled "ping" = false ∧
      (ownedBot.process true (secondsIn 4) (saying "!builtins enable ping") s).1.1 =
        .ok .denied := by
    decide +kernel
  refine ⟨hlocked.1, hlocked.2, ?_⟩
  unfold s ownedBot
  exact henable

end Bot

end Guildhall
