import Guildhall.Proofs.Cooldown
import Guildhall.Proofs.Isolation

/-!
What messages leave alone. In an open guild no row has to be read any more, so that looking for a
command, checking a permission and matching keywords change no row. A check of a cooldown changes
one at most, and only where it lets the action pass: the rule that governs the action starts again
(`Bot.check_of_full`). So a message that runs a custom command changes no more than when one
cooldown last started, and only a message that runs a built-in command changes anything else
(`Bot.message_changes_at_most`).
-/

set_option autoImplicit false

namespace Guildhall

variable {σ γ ω : Type}

/-! ### Checks of full policies -/

/-- Whether cooldowns differ at most in that the rule that governs an action started again at an
instant. -/
def Table.Restarts (now : Instant) (action : String) (t t' : Table String CooldownRule) : Prop :=
  t' = t ∨ ∃ rule, t.governing? action = some rule ∧ t.get? rule.action = some rule ∧
    t' = Policy.started t rule now

namespace Policy

variable {st : RuleStores σ} {holds : σ → RuleTables → Prop} {p : Policy} {s : σ}
  {rows : RuleTables}

/-- A check of a full policy changes nothing, or it lets the action pass and changes at most when
the rule that governs the action last started. -/
theorem checkCooldown_of_full (hst : st.Lawful holds) (hp : p.Reflects holds s rows)
    (hfull : p.IsFull) (rank : Rank) (now : Instant) (action : String) :
    let r := p.checkCooldown st rank now action s
    r.2 = (p, s) ∨ r.1 = none ∧ ∃ cooldowns, rows.cooldowns.Restarts now action cooldowns ∧
      r.2.1.Reflects holds r.2.2 { rows with cooldowns } := by
  cases hrank : rank.isPrivileged with
  | true =>
    have hexempt : p.checkCooldown st rank now action s = (none, p, s) := if_pos hrank
    rw [hexempt]
    exact Or.inl rfl
  | false =>
    have hgoverning := cooldownRule_eq_of_full st hp hfull action
    cases hrule : (rows.cooldowns.governing? action).filter (·.isEnforced) with
    | none =>
      rw [hrule] at hgoverning
      have hpasses : p.checkCooldown st rank now action s = (none, p, s) := by
        simp only [checkCooldown, hrank, hgoverning, Bool.false_eq_true, if_false]
      rw [hpasses]
      exact Or.inl rfl
    | some rule =>
      obtain ⟨hfound, henforced⟩ := Option.filter_eq_some_iff.mp hrule
      have hstored : rows.cooldowns.get? rule.action = some rule :=
        hp.cooldowns.keyed.get?_of_governing? hfound
      have hget := hp.cooldowns.mirrors.get_eq_of_full hfull.2 st.cooldowns rule.action s
      rw [hrule] at hgoverning
      rw [checkCooldown_eq_settle hrank now hgoverning, settle]
      simp only [onCooldowns, hget, hstored, Option.filter_some, henforced, if_true]
      cases rule.left? now with
      | some left => exact Or.inl rfl
      | none =>
        have hcall := hp.onCooldowns hst
          (.replace { rule with last := some { instant := now } })
        refine Or.inr ⟨rfl, _, ?_, hcall⟩
        -- The call leaves the rows as they were, or with the rule that it was given.
        generalize (p.onCooldowns (CacheCall.run st.cooldowns _) s).1 = answer
        cases answer with
        | error e => exact Or.inl rfl
        | ok a =>
          have hcontains : rows.cooldowns.contains rule.action = true := by
            rw [Table.contains, hstored]
            rfl
          exact Or.inr ⟨rule, hfound, hstored, if_pos hcontains⟩

end Policy

/-! ### Messages in an open guild -/

namespace Bot

variable {bot : Bot γ ω} {v : GuildView γ ω} {m : Moment} {msg : Message} {r : Registry Builtin}
  {sc : Scope γ} {w : ω}

/-- Looking for a command changes nothing of a guild whose rows are all known. -/
theorem target_of_full (bot : Bot γ ω) (hsc : sc.Faithful v) (hfull : sc.IsFull) (token : String)
    (r : Registry Builtin) (w : ω) : (bot.target token r sc w).2 = (sc, w) := by
  have hcommands := ((Scope.isFull_iff sc).mp hfull).2.1
  simp only [target]
  cases r.entryOfTrigger? token with
  | some entry => rfl
  | none =>
    have hget := hsc.commands.get_eq_of_full hcommands bot.backend.stores.commands
      (String.ofList (Text.toLower token.toList)) (sc.stored, w)
    simp only [Scope.customCommand, Cache.findCommand, Scope.onCommands, Cache.find, hget]

/-- Checking a text against the keywords changes nothing but which patterns are compiled. -/
theorem remark_of_full (bot : Bot γ ω) (m : Moment) (msg : Message) (hfull : sc.IsFull)
    (text : List Char) (w : ω) :
    ∃ patterns, (bot.remark m msg text sc w).2 = ({ sc with patterns }, w) := by
  have hkeywords := ((Scope.isFull_iff sc).mp hfull).2.2
  have hlist : sc.onKeywords (·.listAll bot.backend.stores.keywords ·) w =
      (.ok sc.keywords.presentRows, sc, w) := by
    simp only [Scope.onKeywords, Cache.listAll, if_pos hkeywords]
  simp only [remark, Scope.matchingKeyword, hlist]
  rcases sc.patterns.firstMatch sc.keywords.presentRows (String.ofList text) with
    ⟨_ | hit, patterns⟩
  · exact ⟨patterns, rfl⟩
  · exact ⟨patterns, rfl⟩

/-- A check changes nothing of a guild whose rows are all known, or it lets the action pass and
changes at most when the cooldown that governs the action last started. -/
theorem check_of_full (m : Moment) (msg : Message)
    (hst : GuildStores.Lawful bot.backend.stores v.holds) (hsc : sc.Faithful v) (hfull : sc.IsFull)
    (hw : v.tidy w) (action : String) :
    let a := bot.check m msg action sc w
    a.2 = (sc, w) ∨ a.1 = none ∧ a.2.1.events = sc.events ∧
      ∃ cooldowns, (v.rows sc.stored).cooldowns.Restarts m.now action cooldowns ∧
        v.rows a.2.1.stored = { v.rows sc.stored with cooldowns } := by
  have hpolicy := ((Scope.isFull_iff sc).mp hfull).1
  have hcooldown := Policy.checkCooldown_of_full (hst.rules (v.rows sc.stored)) (hsc.policy hw)
    hpolicy (bot.rankOf msg.invoker) m.now action
  simp only [check, onPolicy_authorize_of_full bot msg hsc hfull hw action]
  generalize ((v.rows sc.stored).permissions.governing? action).getD (.unrestricted action) = rule
  cases rule.grants (bot.rankOf msg.invoker) msg.invoker with
  | false => exact Or.inl rfl
  | true =>
    simp only [if_true, Scope.onPolicy]
    rcases hresult : sc.policy.checkCooldown bot.backend.stores.rules (bot.rankOf msg.invoker)
      m.now action (sc.stored, w) with ⟨left, p, stored, w'⟩
    rw [hresult] at hcooldown
    rcases hcooldown with hsame | ⟨rfl, cooldowns, hrestarts, hreflects⟩
    · obtain ⟨rfl, rfl, rfl⟩ : p = sc.policy ∧ stored = sc.stored ∧ w' = w := by
        simpa using hsame
      cases left with
      | none => exact Or.inl rfl
      | some left => exact Or.inl rfl
    · exact Or.inr ⟨rfl, rfl, cooldowns, hrestarts, hreflects.permissions.holds.2.2⟩

/-- What changes at a checkpoint of a guild whose rows are all known: nothing unless the command
runs, and for a custom command at most when the cooldown that governs the action last started. -/
theorem pass_of_full (m : Moment) (msg : Message)
    (hst : GuildStores.Lawful bot.backend.stores v.holds) (cp : Checkpoint γ ω)
    (hsc : cp.scope.Faithful v) (hfull : cp.scope.IsFull) (hw : v.tidy cp.world)
    (r : Registry Builtin) :
    let a := bot.pass m msg r cp
    (¬ a.1.1.IsRun ∧ a.2 = (r, cp.scope, cp.world)) ∨ (∃ id, a.1.1 = .builtin id) ∨
      (∃ name, a.1.1 = .custom name) ∧ a.2.1 = r ∧ a.2.2.1.events = cp.scope.events ∧
        ∃ cooldowns, (v.rows cp.scope.stored).cooldowns.Restarts m.now cp.action cooldowns ∧
          v.rows a.2.2.1.stored = { v.rows cp.scope.stored with cooldowns } := by
  have hcheck := check_of_full m msg hst hsc hfull hw cp.action
  simp only [pass]
  rcases hresult : bot.check m msg cp.action cp.scope cp.world with
    ⟨_ | ⟨refusal, notice⟩, sc', w'⟩
  · rw [hresult] at hcheck
    right
    cases cp.target with
    | builtin entry => exact Or.inl ⟨entry.spec.id, rfl⟩
    | custom found =>
      refine Or.inr ⟨⟨found.name, rfl⟩, rfl, ?_⟩
      rcases hcheck with hsame | ⟨-, hevents, hcooldowns⟩
      · obtain ⟨rfl, rfl⟩ := Prod.mk.inj hsame
        exact ⟨rfl, _, Or.inl rfl, rfl⟩
      · exact ⟨hevents, hcooldowns⟩
  · rw [hresult] at hcheck
    left
    rcases hcheck with hsame | ⟨hpassed, -⟩
    · refine ⟨?_, congrArg (Prod.mk r) hsame⟩
      obtain ⟨rule, rfl, -⟩ | ⟨left, rfl, -⟩ := check_eq_some hresult
      · exact id
      · exact id
    · cases hpassed

/-- What a request changes of a guild whose rows are all known: nothing but which patterns are
compiled unless a command runs, and for a custom command at most when the cooldown that governs
the action last started. -/
theorem respond_of_full (m : Moment) (msg : Message)
    (hst : GuildStores.Lawful bot.backend.stores v.holds) (hsc : sc.Faithful v)
    (hfull : sc.IsFull) (hw : v.tidy w) (request : Request) (r : Registry Builtin) :
    let a := bot.respond m msg request r sc w
    (¬ a.1.1.IsRun ∧ ∃ patterns, a.2 = (r, { sc with patterns }, w)) ∨
      (∃ id, a.1.1 = .builtin id) ∨
      (∃ name, a.1.1 = .custom name) ∧ a.2.1 = r ∧ a.2.2.1.events = sc.events ∧
        ∃ token args t cooldowns, request = .command token args ∧
          bot.target (String.ofList token) r sc w = (some t, sc, w) ∧
          (v.rows sc.stored).cooldowns.Restarts m.now (String.ofList (actionString token args))
            cooldowns ∧
          v.rows a.2.2.1.stored = { v.rows sc.stored with cooldowns } := by
  cases request with
  | nothing | bareMark => exact Or.inl ⟨id, sc.patterns, rfl⟩
  | remark text =>
    obtain ⟨patterns, hpatterns⟩ := bot.remark_of_full m msg hfull text w
    exact Or.inl ⟨(isUncalled_remark bot m msg text sc w).not_isRun, patterns,
      congrArg (Prod.mk r) hpatterns⟩
  | command token args =>
    have hsame := bot.target_of_full hsc hfull (String.ofList token) r w
    simp only [respond]
    rcases htarget : bot.target (String.ofList token) r sc w with ⟨_ | t, sc', w'⟩
    · rw [htarget] at hsame
      obtain ⟨rfl, rfl⟩ := Prod.mk.inj hsame
      simp only [call, htarget]
      exact Or.inl ⟨id, _, rfl⟩
    · rw [htarget] at hsame
      obtain ⟨rfl, rfl⟩ := Prod.mk.inj hsame
      rw [call_eq_pass htarget]
      generalize haction : String.ofList (actionString token args) = action
      obtain ⟨hrefused, hpass⟩ | hbuiltin | ⟨hcustom, hregistry, hevents, cooldowns, hrestarts,
        hrows⟩ := pass_of_full m msg hst ⟨action, args, t, sc', w'⟩ hsc hfull hw r
      · exact Or.inl ⟨hrefused, _, hpass⟩
      · exact Or.inr (Or.inl hbuiltin)
      · exact Or.inr (Or.inr ⟨hcustom, hregistry, hevents, token, args, t, cooldowns, rfl, htarget,
          haction ▸ hrestarts, hrows⟩)

end Bot

/-! ### Messages to a bot -/

/-- The rows that the stores of a guild hold, if the guild is open. -/
def BotState.rows? (v : GuildView γ ω) (s : BotState γ ω) (guild : String) : Option GuildTables :=
  (s.directory.scopes.get? guild).map fun sc ↦ v.rows sc.stored

/-- The events of a guild, if it is open. -/
def BotState.events? (s : BotState γ ω) (guild : String) : Option Events :=
  (s.directory.scopes.get? guild).map (·.events)

/-- States of a bot that differ at most in the rows of one guild, and in what guilds share. -/
structure BotState.SameBut (v : GuildView γ ω) (guild : String) (s s' : BotState γ ω) : Prop where
  registry : s'.registry = s.registry
  events : ∀ other, s'.events? other = s.events? other
  rows : ∀ other, other ≠ guild → s'.rows? v other = s.rows? v other

namespace Bot

variable {bot : Bot γ ω} {v : GuildView γ ω} {m : Moment} {msg : Message} {s : BotState γ ω}

/-- What is done in an open guild and leaves the registry and the guild's events leaves all but
the rows of the guild. -/
theorem sameBut_insert {sc : Scope γ} (hopen : s.directory.scopes.get? msg.guild = some sc)
    (sc' : Scope γ) (hevents : sc'.events = sc.events) (world : ω) :
    s.SameBut v msg.guild { s with
      directory := { s.directory with scopes := s.directory.scopes.insert msg.guild sc' }
      world } where
  registry := rfl
  events other := by
    simp only [BotState.events?, Table.get?_insert]
    split_ifs with hother
    · rw [hother, hopen, Option.map_some, Option.map_some, hevents]
    · rfl
  rows other hother := by simp only [BotState.rows?, Table.get?_insert, if_neg hother]

/-- A message to an open guild changes nothing unless a command runs, and for a custom command at
most when the cooldown that governs the action last started. -/
theorem handle_of_full (hb : bot.backend.Lawful v) (hs : s.Faithful v) {sc : Scope γ}
    (hopen : s.directory.scopes.get? msg.guild = some sc) {outcome : Outcome}
    {reply : Option Reply} (houtcome : (bot.handle m msg s).1 = .ok (outcome, reply)) :
    let s' := (bot.handle m msg s).2
    (¬ outcome.IsRun ∧ s.SameBut v msg.guild s' ∧ s'.world = s.world ∧
        s'.rows? v msg.guild = s.rows? v msg.guild) ∨
      (∃ id, outcome = .builtin id) ∨
      (∃ name, outcome = .custom name) ∧ s.SameBut v msg.guild s' ∧
        ∃ cp cooldowns, bot.checkpoint? msg s = some cp ∧
          (v.rows sc.stored).cooldowns.Restarts m.now cp.action cooldowns ∧
          s'.rows? v msg.guild = some { v.rows sc.stored with cooldowns } := by
  obtain ⟨hsc, hfull⟩ := hs.1 msg.guild sc hopen
  have hscope : s.directory.scope bot.backend msg.guild s.world =
      (.ok sc, s.directory, s.world) := by
    simp only [Directory.scope, hopen]
  rw [handle_eq] at houtcome ⊢
  split_ifs at houtcome ⊢ with hblank
  · obtain ⟨rfl, -⟩ := Prod.mk.inj (Except.ok.inj houtcome)
    exact Or.inl ⟨id, ⟨rfl, fun _ ↦ rfl, fun _ _ ↦ rfl⟩, rfl, rfl⟩
  have hrespond := respond_of_full m msg hb.stores hsc hfull hs.2
    (.ofText bot.mark.toList msg.text.toList) s.registry
  simp only [Directory.within, hscope, inGuild] at houtcome ⊢
  rcases hresult : bot.respond m msg (.ofText bot.mark.toList msg.text.toList) s.registry sc
    s.world with ⟨⟨handled, text⟩, registry, sc', world⟩
  simp only [hresult, Except.ok.injEq, Prod.mk.injEq] at houtcome hrespond ⊢
  obtain ⟨rfl, -⟩ := houtcome
  obtain ⟨hnot, patterns, rfl, rfl, rfl⟩ | hbuiltin | ⟨hcustom, rfl, hevents, token, args, t,
    cooldowns, hrequest, htarget, hrestarts, hrows⟩ := hrespond
  · refine Or.inl ⟨hnot, sameBut_insert hopen { sc with patterns } rfl _, rfl, ?_⟩
    simp [BotState.rows?, hopen, Table.get?_insert]
  · exact Or.inr (Or.inl hbuiltin)
  · have hcheckpoint : bot.checkpoint? msg s =
        some ⟨String.ofList (actionString token args), args, t, sc, s.world⟩ := by
      simp only [checkpoint?, hrequest, hscope, htarget]
    refine Or.inr (Or.inr ⟨hcustom, sameBut_insert hopen sc' hevents _, _, cooldowns, hcheckpoint,
      hrestarts, ?_⟩)
    simp only [BotState.rows?, Table.get?_insert, if_true, Option.map_some, hrows]

/-- What a message to an open guild changes, after any messages, failures and closed guilds. Where
it is ignored, denied, resting or answered by a keyword, no row, no event and no command changes.
Where it runs a custom command, all that may change is that the cooldown that governs its action
starts again at that moment. -/
theorem message_changes_at_most (hb : bot.backend.Lawful v) {registry : Registry Builtin}
    {events : Events} {world : ω} (hworld : v.tidy world) {history : List (BotEvent ω)}
    (htidy : ∀ event ∈ history, event.IsTidy v) {isOpen : Bool} {rows : GuildTables}
    {outcome : Outcome} :
    let s := bot.after history { directory := { events }, registry, world }
    let s' := (bot.process isOpen m msg s).2
    s.rows? v msg.guild = some rows →
    (bot.process isOpen m msg s).1.1 = .ok outcome →
      match outcome with
      | .ignored | .denied | .coolingDown _ | .keyword _ =>
        s.SameBut v msg.guild s' ∧ s'.world = s.world ∧ s'.rows? v msg.guild = some rows
      | .custom _ =>
        s.SameBut v msg.guild s' ∧ ∃ cp cooldowns, bot.checkpoint? msg s = some cp ∧
          rows.cooldowns.Restarts m.now cp.action cooldowns ∧
          s'.rows? v msg.guild = some { rows with cooldowns }
      | .builtin _ => True := by
  intro s s' hopen houtcome
  obtain ⟨sc, hsc, rfl⟩ := Option.map_eq_some_iff.mp hopen
  obtain ⟨reply, hhandle⟩ := handle_of_process houtcome
  have hs : s.Faithful v := faithful_after hb htidy ⟨Directory.faithful_empty v events, hworld⟩
  have hchanges := handle_of_full hb hs hsc hhandle
  rw [← process_snd bot isOpen, hopen] at hchanges
  obtain ⟨hnot, hkept⟩ | ⟨id, rfl⟩ | ⟨⟨name, rfl⟩, hcustom⟩ := hchanges
  · cases outcome with
    | ignored | denied | coolingDown left | keyword name => exact hkept
    | builtin id | custom name => exact absurd trivial hnot
  · exact trivial
  · exact hcustom

end Bot

/-! ### A slow custom command -/

/-- Guilds with a custom command that rests for five seconds. -/
def slowHug : Switchboard where
  seed := ⟨{}, { rows := .ofRows [{ action := "hug", duration := .ofSeconds 5 }] },
    { rows := .ofRows [{ name := "hug", template := "hello", owner := 7 }] }, {}⟩

namespace Bot

theorem message_changes_at_most_hug :
    let s := switchedBot.after [.message true (secondsIn 0) (saying "good evening")]
      { directory := {}, registry := ∅, world := slowHug }
    let s' := (switchedBot.process true (secondsIn 1) (saying "!hug") s).2
    ∃ rows cooldowns, s.rows? Backend.switchedView "hall" = some rows ∧
      rows.cooldowns.Restarts (secondsIn 1).now "hug" cooldowns ∧
      s'.rows? Backend.switchedView "hall" = some { rows with cooldowns } := by
  intro s s'
  have houtcome : (switchedBot.process true (secondsIn 1) (saying "!hug") s).1.1 =
      .ok (.custom "hug") := by decide
  have hslow : Backend.switchedView.tidy slowHug :=
    ⟨⟨rfl, rfl, rfl, rfl⟩, ⟨Table.isKeyed_empty, Table.isKeyed_ofRows _, Table.isKeyed_ofRows _,
      Table.isKeyed_empty⟩⟩
  have htidy : ∀ event ∈ [BotEvent.message true (secondsIn 0) (saying "good evening")],
      event.IsTidy Backend.switchedView := by
    intro event hevent
    obtain rfl := List.mem_singleton.mp hevent
    exact trivial
  have hopen : (s.rows? Backend.switchedView "hall").isSome := by decide
  obtain ⟨rows, hrows⟩ := Option.isSome_iff_exists.mp hopen
  obtain ⟨-, cp, cooldowns, hcheckpoint, hrestarts, hafter⟩ :=
    message_changes_at_most Backend.lawful_switched hslow htidy hrows houtcome
  have haction : (switchedBot.checkpoint? (saying "!hug") s).map (·.action) = some "hug" := by
    decide
  rw [hcheckpoint, Option.map_some, Option.some.injEq] at haction
  exact ⟨rows, cooldowns, hrows, haction ▸ hrestarts, hafter⟩

end Bot

end Guildhall
