import Guildhall.Proofs.Dispatch
import Guildhall.Proofs.StoreViews

/-!
Bots over stores that are seen through a view. A bot whose guilds are kept in stores that are seen
as those of another bot (`Bot.SeenAs`) does with the guilds that the view shows what the other does
with the guilds behind it, whatever serial numbers these have (`Bot.respond_seen`). So both are told
the same and answer the same in every run (`Bot.SeenAs.after`, `Bot.SeenAs.process`).
-/

set_option autoImplicit false

namespace Guildhall

variable {σ τ α γ δ ω : Type}

/-! ### What the commands do -/

section Commands

variable {view : σ → τ}

theorem WriteMode.actsAlike_write {V : Type} [Keyed V] {st : RowStore σ V} {st' : RowStore τ V}
    (hst : st.SeenAs view st') (mode : WriteMode) (row : V) :
    ActsAlike view (mode.write st row) (mode.write st' row) := by
  cases mode with
  | create => exact Cache.actsAlike_upsertIf hst false row
  | overwrite => exact Cache.actsAlike_upsertIf hst true row

theorem Cache.actsAlike_findCommand {st : RowStore σ CustomCommand}
    {st' : RowStore τ CustomCommand} (hst : st.SeenAs view st') (name : String) :
    ActsAlike view (findCommand st name) (findCommand st' name) :=
  actsAlike_find hst _

theorem CustomRequest.actsAlike_run {st : RowStore σ CustomCommand} {st' : RowStore τ CustomCommand}
    (hst : st.SeenAs view st') (isBuiltin : String → Bool) (owner : Id) (request : CustomRequest) :
    ActsAlike view (request.run st isBuiltin owner) (request.run st' isBuiltin owner) := by
  intro c s
  cases request with
  | usage => rfl
  | write mode name template =>
    simp only [run]
    split_ifs
    · rfl
    · simp only [mode.actsAlike_write hst _ c s]
      rcases mode.write st { name, template, owner } c s with ⟨e | _ | _, c', s'⟩ <;> rfl
  | delete name =>
    simp only [run, Cache.actsAlike_remove hst name c s]
    rcases c.remove st name s with ⟨e | _ | _, c', s'⟩ <;> rfl
  | display name =>
    simp only [run, Cache.actsAlike_findCommand hst name c s]
    rcases c.findCommand st name s with ⟨_ | found, c', s'⟩ <;> rfl
  | list =>
    simp only [run, Cache.actsAlike_listAll hst c s]
    rcases c.listAll st s with ⟨e | rows, c', s'⟩ <;> rfl

theorem KeywordRequest.actsAlike_run {st : RowStore σ Keyword} {st' : RowStore τ Keyword}
    (hst : st.SeenAs view st') (owner : Id) (request : KeywordRequest) :
    ActsAlike view (request.run st owner) (request.run st' owner) := by
  intro c s
  cases request with
  | usage => rfl
  | write mode name pattern template =>
    simp only [run]
    split_ifs
    · rfl
    · simp only [mode.actsAlike_write hst _ c s]
      rcases mode.write st { name, pattern, template, owner } c s with ⟨e | _ | _, c', s'⟩ <;> rfl
  | delete name =>
    simp only [run, Cache.actsAlike_remove hst name c s]
    rcases c.remove st name s with ⟨e | _ | _, c', s'⟩ <;> rfl
  | list =>
    simp only [run, Cache.actsAlike_listAll hst c s]
    rcases c.listAll st s with ⟨e | rows, c', s'⟩ <;> rfl

theorem HelpRequest.actsAlike_run {st : RowStore σ CustomCommand} {st' : RowStore τ CustomCommand}
    (hst : st.SeenAs view st') (r : Registry Builtin) (request : HelpRequest) :
    ActsAlike view (request.run st r) (request.run st' r) := by
  intro c s
  cases request with
  | overview =>
    simp only [run, Cache.actsAlike_listAll hst c s]
    rcases c.listAll st s with ⟨e | rows, c', s'⟩ <;> rfl
  | placeholders => rfl
  | topic token =>
    simp only [run]
    cases r.entryOfTrigger? token <;> rfl

variable {st : RuleStores σ} {st' : RuleStores τ}

theorem PermissionRequest.actsAlike_store (hst : st.SeenAs view st') (rule : PermissionRule) :
    ActsAlike view (store st rule) (store st' rule) := by
  intro p s
  simp only [store, Policy.actsAlike_setPermission hst rule p s]
  rcases p.setPermission st rule s with ⟨e | ⟨⟩, p', s'⟩ <;> rfl

theorem PermissionRequest.actsAlike_run (hst : st.SeenAs view st') (request : PermissionRequest) :
    ActsAlike view (run st request) (run st' request) := by
  intro p s
  cases request with
  | usage | unknownRank word => rfl
  | set rank action => exact actsAlike_store hst _ p s
  | addRole role action =>
    simp only [run, Policy.actsAlike_getPermission hst action p s, seen]
    exact actsAlike_store hst _ _ _
  | get action => simp only [run, Policy.actsAlike_resolvePermission hst action p s, seen]
  | remove action =>
    simp only [run, Policy.actsAlike_removePermission hst action p s]
    rcases p.removePermission st action s with ⟨e | _ | _, p', s'⟩ <;> rfl
  | list =>
    simp only [run, Policy.actsAlike_listPermissions hst p s]
    rcases p.listPermissions st s with ⟨e | rules, p', s'⟩ <;> rfl

theorem CooldownRequest.actsAlike_run (hst : st.SeenAs view st') (request : CooldownRequest) :
    ActsAlike view (run st request) (run st' request) := by
  intro p s
  cases request with
  | usage => rfl
  | set duration action =>
    simp only [run, Policy.actsAlike_setCooldown hst action duration p s]
    rcases p.setCooldown st action duration s with ⟨e | ⟨⟩, p', s'⟩ <;> rfl
  | remove action =>
    simp only [run, Policy.actsAlike_removeCooldown hst action p s]
    rcases p.removeCooldown st action s with ⟨e | _ | _, p', s'⟩ <;> rfl
  | list =>
    simp only [run, Policy.actsAlike_listCooldowns hst p s]
    rcases p.listCooldowns st s with ⟨e | rules, p', s'⟩ <;> rfl

end Commands

/-! ### Guilds -/

/-- The stores of a guild that are seen through a view as others. -/
structure GuildStores.SeenAs (st : GuildStores σ) (view : σ → τ) (st' : GuildStores τ) : Prop where
  permissions : st.permissions.SeenAs view st'.permissions
  cooldowns : st.cooldowns.SeenAs view st'.cooldowns
  commands : st.commands.SeenAs view st'.commands
  keywords : st.keywords.SeenAs view st'.keywords

theorem GuildStores.SeenAs.rules {st : GuildStores σ} {view : σ → τ} {st' : GuildStores τ}
    (hst : GuildStores.SeenAs st view st') : st.rules.SeenAs view st'.rules :=
  ⟨hst.permissions, hst.cooldowns⟩

namespace Scope

/-- A scope with what its stores hold seen through a view, under another serial number. -/
def seen (view : γ → δ) (number : Nat → Nat) (sc : Scope γ) : Scope δ where
  id := sc.id
  serial := number sc.serial
  stored := view sc.stored
  policy := sc.policy
  commands := sc.commands
  keywords := sc.keywords
  events := sc.events
  patterns := sc.patterns

variable {view : γ → δ} (number : Nat → Nat) (sc : Scope γ) (w : ω)

theorem onPolicy_seen {op : Policy → γ × ω → α × Policy × (γ × ω)}
    {op' : Policy → δ × ω → α × Policy × (δ × ω)}
    (hop : ActsAlike (fun s ↦ (view s.1, s.2)) op op') :
    (sc.seen view number).onPolicy op' w =
      let r := sc.onPolicy op w
      (r.1, r.2.1.seen view number, r.2.2) := by
  have hresult := hop sc.policy (sc.stored, w)
  simp only [onPolicy, Scope.seen, hresult]
  rfl

theorem onCommands_seen {op : Cache CustomCommand → γ × ω → α × Cache CustomCommand × (γ × ω)}
    {op' : Cache CustomCommand → δ × ω → α × Cache CustomCommand × (δ × ω)}
    (hop : ActsAlike (fun s ↦ (view s.1, s.2)) op op') :
    (sc.seen view number).onCommands op' w =
      let r := sc.onCommands op w
      (r.1, r.2.1.seen view number, r.2.2) := by
  have hresult := hop sc.commands (sc.stored, w)
  simp only [onCommands, Scope.seen, hresult]
  rfl

theorem onKeywords_seen {op : Cache Keyword → γ × ω → α × Cache Keyword × (γ × ω)}
    {op' : Cache Keyword → δ × ω → α × Cache Keyword × (δ × ω)}
    (hop : ActsAlike (fun s ↦ (view s.1, s.2)) op op') :
    (sc.seen view number).onKeywords op' w =
      let r := sc.onKeywords op w
      (r.1, r.2.1.seen view number, r.2.2) := by
  have hresult := hop sc.keywords (sc.stored, w)
  simp only [onKeywords, Scope.seen, hresult]
  rfl

variable {st : GuildStores (γ × ω)} {st' : GuildStores (δ × ω)}
  (hst : GuildStores.SeenAs st (fun s ↦ (view s.1, s.2)) st')

include hst

theorem preload_seen :
    (sc.seen view number).preload st' w =
      let r := sc.preload st w
      (r.1, r.2.1.seen view number, r.2.2) := by
  simp only [preload, onPolicy_seen number sc w (Policy.actsAlike_preload hst.rules)]
  rcases sc.onPolicy (·.preload st.rules ·) w with ⟨e | ⟨⟩, sc₁, w₁⟩
  · rfl
  simp only [onCommands_seen number sc₁ w₁ (Cache.actsAlike_listAll hst.commands)]
  rcases sc₁.onCommands (·.listAll st.commands ·) w₁ with ⟨e | rows, sc₂, w₂⟩
  · rfl
  simp only [onKeywords_seen number sc₂ w₂ (Cache.actsAlike_listAll hst.keywords)]
  rcases sc₂.onKeywords (·.listAll st.keywords ·) w₂ with ⟨e | rows, sc₃, w₃⟩
  · rfl
  · rfl

theorem customCommand_seen (name : String) :
    (sc.seen view number).customCommand st' name w =
      let r := sc.customCommand st name w
      (r.1, r.2.1.seen view number, r.2.2) := by
  simp only [customCommand,
    onCommands_seen number sc w (Cache.actsAlike_findCommand hst.commands name)]

theorem matchingKeyword_seen (text : String) :
    (sc.seen view number).matchingKeyword st' text w =
      let r := sc.matchingKeyword st text w
      (r.1, r.2.1.seen view number, r.2.2) := by
  simp only [matchingKeyword,
    onKeywords_seen number sc w (Cache.actsAlike_listAll hst.keywords)]
  rcases sc.onKeywords (·.listAll st.keywords ·) w with ⟨e | keywords, sc₁, w₁⟩
  · rfl
  · rfl

end Scope

/-- A built-in command answers and does in the guild that is seen what it does in the one behind. -/
theorem Builtin.run_seen {view : γ → δ} {st : GuildStores (γ × ω)} {st' : GuildStores (δ × ω)}
    (hst : GuildStores.SeenAs st (fun s ↦ (view s.1, s.2)) st') (b : Builtin) (m : Moment)
    (msg : Message) (args : List Char) (spec : CommandSpec) (r : Registry Builtin)
    (number : Nat → Nat) (sc : Scope γ) (w : ω) :
    b.run st' m msg args spec r (sc.seen view number) w =
      let a := b.run st m msg args spec r sc w
      (a.1, a.2.1, a.2.2.1.seen view number, a.2.2.2) := by
  cases b with
  | perm =>
    simp only [run, Scope.onPolicy_seen number sc w (PermissionRequest.actsAlike_run hst.rules _)]
  | cooldown =>
    simp only [run, Scope.onPolicy_seen number sc w (CooldownRequest.actsAlike_run hst.rules _)]
  | command =>
    simp only [run,
      Scope.onCommands_seen number sc w (CustomRequest.actsAlike_run hst.commands _ _ _)]
  | keyword =>
    simp only [run,
      Scope.onKeywords_seen number sc w (KeywordRequest.actsAlike_run hst.keywords _ _)]
  | event => rfl
  | help =>
    simp only [run, Scope.onCommands_seen number sc w (HelpRequest.actsAlike_run hst.commands r _)]
  | ping => rfl
  | builtins => rfl

/-! ### Bots -/

/-- The guilds of a place that are seen through a view as those of another. -/
structure Backend.SeenAs (b : Backend γ ω) (view : γ → δ) (b' : Backend δ ω) : Prop where
  opens : ∀ guild w, b'.openGuild guild w =
    ((b.openGuild guild w).1.map view, (b.openGuild guild w).2)
  stores : GuildStores.SeenAs b.stores (fun s ↦ (view s.1, s.2)) b'.stores

/-- Two bots with the same settings over guilds that are seen as each other. -/
structure Bot.SeenAs (bot : Bot γ ω) (view : γ → δ) (bot' : Bot δ ω) : Prop where
  backend : bot.backend.SeenAs view bot'.backend
  mark : bot'.mark = bot.mark
  rankOf : bot'.rankOf = bot.rankOf

theorem RowStore.seenAs_self {V : Type} (st : RowStore (γ × ω) V) :
    st.SeenAs (fun s ↦ (id s.1, s.2)) st where
  loadAll _ := rfl
  loadOne _ _ := rfl
  upsert _ _ := rfl
  delete _ _ := rfl

theorem GuildStores.seenAs_self (st : GuildStores (γ × ω)) :
    GuildStores.SeenAs st (fun s ↦ (id s.1, s.2)) st :=
  ⟨st.permissions.seenAs_self, st.cooldowns.seenAs_self, st.commands.seenAs_self,
    st.keywords.seenAs_self⟩

/-- Every bot is seen as itself. -/
theorem Bot.seenAs_self (bot : Bot γ ω) : bot.SeenAs id bot where
  backend := {
    opens := fun guild w ↦ by
      rcases bot.backend.openGuild guild w with ⟨fault | stored, w'⟩
      · rfl
      · rfl
    stores := GuildStores.seenAs_self bot.backend.stores }
  mark := rfl
  rankOf := rfl

namespace Bot

section Messages

variable {bot : Bot γ ω} {view : γ → δ} {bot' : Bot δ ω} (hbot : bot.SeenAs view bot') (m : Moment)
  (msg : Message) (r : Registry Builtin) (number : Nat → Nat) (sc : Scope γ) (w : ω)

include hbot

theorem target_seen (token : String) :
    bot'.target token r (sc.seen view number) w =
      let a := bot.target token r sc w
      (a.1, a.2.1.seen view number, a.2.2) := by
  simp only [target]
  cases r.entryOfTrigger? token with
  | some entry => rfl
  | none => simp only [Scope.customCommand_seen number sc w hbot.backend.stores]

theorem check_seen (action : String) :
    bot'.check m msg action (sc.seen view number) w =
      let a := bot.check m msg action sc w
      (a.1, a.2.1.seen view number, a.2.2) := by
  have hrules := hbot.backend.stores.rules
  simp only [check, hbot.rankOf, Scope.onPolicy_seen number sc w
    (Policy.actsAlike_authorize hrules (bot.rankOf msg.invoker) msg.invoker action)]
  rcases sc.onPolicy (·.authorize bot.backend.stores.rules (bot.rankOf msg.invoker) msg.invoker
    action ·) w with ⟨_ | rule, sc₁, w₁⟩
  · simp only [Scope.onPolicy_seen number sc₁ w₁
      (Policy.actsAlike_checkCooldown hrules (bot.rankOf msg.invoker) m.now action)]
    rcases sc₁.onPolicy (·.checkCooldown bot.backend.stores.rules (bot.rankOf msg.invoker) m.now
      action ·) w₁ with ⟨_ | left, sc₂, w₂⟩
    · rfl
    · rfl
  · rfl

theorem run_seen (args : List Char) (t : Target) :
    bot'.run m msg args t r (sc.seen view number) w =
      let a := bot.run m msg args t r sc w
      (a.1, a.2.1, a.2.2.1.seen view number, a.2.2.2) := by
  cases t with
  | builtin entry => simp only [run, Builtin.run_seen hbot.backend.stores, hbot.mark]
  | custom found => rfl

theorem call_seen (token args : List Char) :
    bot'.call m msg token args r (sc.seen view number) w =
      let a := bot.call m msg token args r sc w
      (a.1, a.2.1, a.2.2.1.seen view number, a.2.2.2) := by
  have htarget := target_seen hbot r number sc w (String.ofList token)
  rcases hresult : bot.target (String.ofList token) r sc w with ⟨_ | t, sc₁, w₁⟩
  · rw [hresult] at htarget
    simp only [call, hresult, htarget]
  · rw [hresult] at htarget
    rw [call_eq_pass hresult, call_eq_pass htarget]
    generalize String.ofList (actionString token args) = action
    simp only [pass, check_seen hbot]
    rcases bot.check m msg action sc₁ w₁ with ⟨_ | ⟨refusal, notice⟩, sc₂, w₂⟩
    · exact run_seen hbot m msg r number sc₂ w₂ args t
    · rfl

/-- What is answered and done in the guild that is seen is what is answered and done in the one
behind. -/
theorem respond_seen (request : Request) :
    bot'.respond m msg request r (sc.seen view number) w =
      let a := bot.respond m msg request r sc w
      (a.1, a.2.1, a.2.2.1.seen view number, a.2.2.2) := by
  cases request with
  | nothing | bareMark => rfl
  | remark text =>
    simp only [respond, remark, Scope.matchingKeyword_seen number sc w hbot.backend.stores]
    rcases sc.matchingKeyword bot.backend.stores (String.ofList text) w with
      ⟨e | _ | hit, sc₁, w₁⟩
    · rfl
    · rfl
    · rfl
  | command token args => exact call_seen hbot m msg r number sc w token args

theorem inGuild_seen :
    bot'.inGuild m msg r (sc.seen view number) w =
      let a := bot.inGuild m msg r sc w
      (a.1, a.2.1.seen view number, a.2.2) := by
  simp only [inGuild, hbot.mark, respond_seen hbot]

end Messages

end Bot

/-! ### Runs -/

namespace Directory

/-- Two directories with the same guilds open, each of them seen as its like. -/
structure SeenAs (d : Directory γ) (view : γ → δ) (d' : Directory δ) : Prop where
  events : d'.events = d.events
  opened : d'.opened = d.opened
  scopes : ∀ guild, d'.scopes.get? guild = (d.scopes.get? guild).map (·.seen view id)

variable {d : Directory γ} {view : γ → δ} {d' : Directory δ}

theorem SeenAs.insert (hd : d.SeenAs view d') (guild : String) (sc : Scope γ) {n n' : Nat}
    (hn : n' = n) :
    ({ d with scopes := d.scopes.insert guild sc, opened := n } : Directory γ).SeenAs view
      { d' with scopes := d'.scopes.insert guild (sc.seen view id), opened := n' } where
  events := hd.events
  opened := hn
  scopes other := by
    simp only [Table.get?_insert]
    split_ifs
    · rfl
    · exact hd.scopes other

theorem SeenAs.teardown (hd : d.SeenAs view d') (guild : String) :
    (d.teardown guild).2.SeenAs view (d'.teardown guild).2 where
  events := hd.events
  opened := hd.opened
  scopes other := by
    simp only [Directory.teardown, Table.get?_erase]
    split_ifs
    · rfl
    · exact hd.scopes other

variable {b : Backend γ ω} {b' : Backend δ ω} (hb : b.SeenAs view b') {guild : String}

include hb

/-- A guild is found, opened or not opened in both directories. -/
theorem SeenAs.scope (hd : d.SeenAs view d') (guild : String) (w : ω) :
    let r := d.scope b guild w
    let r' := d'.scope b' guild w
    r'.1 = r.1.map (·.seen view id) ∧ r.2.1.SeenAs view r'.2.1 ∧ r'.2.2 = r.2.2 := by
  simp only [Directory.scope, hd.scopes guild]
  cases d.scopes.get? guild with
  | some sc => exact ⟨rfl, hd, rfl⟩
  | none =>
    simp only [Option.map_none, hb.opens]
    rcases b.openGuild guild w with ⟨fault | stored, w₁⟩
    · exact ⟨rfl, hd, rfl⟩
    dsimp only [Except.map]
    generalize hfresh : ({ id := guild, serial := d.opened, stored, events := d.events } :
      Scope γ) = fresh
    have hfresh' :
        ({ id := guild, serial := d'.opened, stored := view stored, events := d'.events } :
          Scope δ) = fresh.seen view id := by
      rw [← hfresh, hd.opened, hd.events]
      rfl
    rw [hfresh', Scope.preload_seen id fresh w₁ hb.stores]
    rcases fresh.preload b.stores w₁ with ⟨e | ⟨⟩, sc, w₂⟩
    · exact ⟨rfl, hd, rfl⟩
    · exact ⟨rfl, hd.insert guild sc (by rw [hd.opened]), rfl⟩

/-- What is done in a guild is done in both directories. -/
theorem SeenAs.within (hd : d.SeenAs view d') (guild : String)
    {op : Scope γ → ω → α × Scope γ × ω} {op' : Scope δ → ω → α × Scope δ × ω}
    (hop : ∀ sc w, op' (sc.seen view id) w =
      ((op sc w).1, (op sc w).2.1.seen view id, (op sc w).2.2))
    (w : ω) :
    let r := d.within b guild op w
    let r' := d'.within b' guild op' w
    r'.1 = r.1 ∧ r.2.1.SeenAs view r'.2.1 ∧ r'.2.2 = r.2.2 := by
  have hscope := hd.scope hb guild w
  simp only [Directory.within]
  generalize d.scope b guild w = found at hscope ⊢
  generalize d'.scope b' guild w = found' at hscope ⊢
  obtain ⟨answer', d₁', w₁'⟩ := found'
  rcases found with ⟨e | sc, d₁, w₁⟩
  · dsimp only [Except.map] at hscope
    obtain ⟨rfl, hd₁, rfl⟩ := hscope
    exact ⟨rfl, hd₁, rfl⟩
  · dsimp only [Except.map] at hscope
    obtain ⟨rfl, hd₁, rfl⟩ := hscope
    dsimp only
    rw [hop]
    exact ⟨rfl, hd₁.insert guild _ hd₁.opened, rfl⟩

end Directory

/-- Two bots that know the same, with the guilds of one seen as those of the other. -/
structure BotState.SeenAs (s : BotState γ ω) (view : γ → δ) (s' : BotState δ ω) : Prop where
  directory : s.directory.SeenAs view s'.directory
  registry : s'.registry = s.registry
  world : s'.world = s.world

namespace Bot.SeenAs

variable {bot : Bot γ ω} {view : γ → δ} {bot' : Bot δ ω} (hbot : bot.SeenAs view bot')
  {s : BotState γ ω} {s' : BotState δ ω}

include hbot

theorem handle (hs : s.SeenAs view s') (m : Moment) (msg : Message) :
    (bot'.handle m msg s').1 = (bot.handle m msg s).1 ∧
      (bot.handle m msg s).2.SeenAs view (bot'.handle m msg s').2 := by
  rw [handle_eq, handle_eq, hbot.mark, hs.registry, hs.world]
  split_ifs
  · exact ⟨rfl, hs⟩
  have hwithin := hs.directory.within hbot.backend msg.guild
    (fun sc w ↦ inGuild_seen hbot m msg s.registry id sc w) s.world
  generalize s.directory.within bot.backend msg.guild (bot.inGuild m msg s.registry) s.world =
    result at hwithin ⊢
  generalize s'.directory.within bot'.backend msg.guild (bot'.inGuild m msg s.registry) s.world =
    result' at hwithin ⊢
  obtain ⟨answer', d', w'⟩ := result'
  rcases result with ⟨e | ⟨⟨outcome, text⟩, registry⟩, d, w⟩
  · dsimp only at hwithin
    obtain ⟨rfl, hd, rfl⟩ := hwithin
    exact ⟨rfl, hd, rfl, rfl⟩
  · dsimp only at hwithin
    obtain ⟨rfl, hd, rfl⟩ := hwithin
    exact ⟨rfl, hd, rfl, rfl⟩

/-- Both bots answer a message the same. -/
theorem process (hs : s.SeenAs view s') (isOpen : Bool) (m : Moment) (msg : Message) :
    (bot'.process isOpen m msg s').1 = (bot.process isOpen m msg s).1 := by
  have hhandle := (hbot.handle hs m msg).1
  simp only [Bot.process]
  generalize bot.handle m msg s = handled at hhandle ⊢
  generalize bot'.handle m msg s' = handled' at hhandle ⊢
  obtain ⟨answer, s₁⟩ := handled
  obtain ⟨answer', s₁'⟩ := handled'
  obtain rfl : answer' = answer := hhandle
  rcases answer' with e | ⟨outcome, reply⟩
  · rfl
  · rfl

theorem step (hs : s.SeenAs view s') (event : BotEvent ω) :
    (bot.step s event).SeenAs view (bot'.step s' event) := by
  cases event with
  | message isOpen m msg =>
    simp only [Bot.step, process_snd]
    exact (hbot.handle hs m msg).2
  | world world => exact ⟨hs.directory, hs.registry, rfl⟩
  | teardown guild => exact ⟨hs.directory.teardown guild, hs.registry, hs.world⟩

/-- After any history both bots know the same. -/
theorem after (hs : s.SeenAs view s') (history : List (BotEvent ω)) :
    (bot.after history s).SeenAs view (bot'.after history s') := by
  induction history generalizing s s' with
  | nil => exact hs
  | cons event history ih => exact ih (hbot.step hs event)

end Bot.SeenAs

end Guildhall
