import Guildhall.Proofs.ActionWords
import Guildhall.Proofs.Dispatch

/-!
Spellings of a subcommand. A built-in command reads its subcommand in lower case, so that it does
the same for every spelling (`Builtin.run_respelled`), while an action keeps the words of its
arguments as they are written. So a rule holds for one spelling: what an action demands is decided
by the rules at the beginnings of its words (`Table.governing?_actionOf`), and two spellings of a
subcommand are denied alike where the rules at these beginnings demand the same of both
(`Bot.respelled_denied_iff`). A rule for one spelling alone is no rule for another
(`Bot.respelled_list_is_granted`).
-/

set_option autoImplicit false

namespace Guildhall

open Text

variable {γ ω : Type}

/-! ### What rules demand -/

/-- The rank and the role that a rule lets act. -/
def PermissionRule.demand (rule : PermissionRule) : Rank × Option Id := (rule.rank, rule.role)

theorem PermissionRule.grants_eq_of_demand {rule rule' : PermissionRule}
    (hdemand : rule.demand = rule'.demand) (rank : Rank) (invoker : Invoker) :
    rule.grants rank invoker = rule'.grants rank invoker := by
  obtain ⟨hrank, hrole⟩ := Prod.mk.inj hdemand
  simp only [grants, hrank, hrole]

/-- An action without a rule demands the same as every other one. -/
theorem PermissionRule.demand_getD {found found' : Option PermissionRule}
    (halike : found.map (·.demand) = found'.map (·.demand)) (action action' : String) :
    (found.getD (.unrestricted action)).demand = (found'.getD (.unrestricted action')).demand := by
  cases found with
  | none =>
    rw [Option.map_none, eq_comm, Option.map_eq_none_iff] at halike
    rw [halike]
    rfl
  | some rule =>
    rw [Option.map_some, eq_comm, Option.map_eq_some_iff] at halike
    obtain ⟨rule', rfl, hdemand⟩ := halike
    exact hdemand.symm

/-- Whether the rules of a command demand the same of two spellings of a subcommand, whatever words
follow it. -/
def Table.DemandsAlike (t : Table String PermissionRule) (token sub sub' : List Char)
    (rest : List (List Char)) : Prop :=
  ∀ more, more <+: rest →
    (t.get? (actionOf token (sub :: more))).map (·.demand) =
      (t.get? (actionOf token (sub' :: more))).map (·.demand)

/-- Lookups that find alike at each place of a list find alike in the list. -/
theorem map_findSome?_congr {α β δ : Type} {l : List α} {f f' : α → Option β} (g : β → δ)
    (halike : ∀ a ∈ l, (f a).map g = (f' a).map g) :
    (l.findSome? f).map g = (l.findSome? f').map g := by
  induction l with
  | nil => rfl
  | cons a l ih =>
    obtain ⟨ha, hl⟩ := List.forall_mem_cons.mp halike
    rw [List.findSome?_cons, List.findSome?_cons]
    cases hfirst : f a with
    | none =>
      rw [hfirst, Option.map_none, eq_comm, Option.map_eq_none_iff] at ha
      rw [ha]
      exact ih hl
    | some b =>
      rw [hfirst, Option.map_some, eq_comm, Option.map_eq_some_iff] at ha
      obtain ⟨b', hb', hsame⟩ := ha
      rw [hb', Option.map_some, Option.map_some, hsame]

/-- Where the rules demand the same of two spellings, the rules that govern the two actions do. -/
theorem Table.DemandsAlike.governing? {t : Table String PermissionRule}
    {token sub sub' : List Char} {rest : List (List Char)}
    (halike : t.DemandsAlike token sub sub' rest) (htoken : ∀ c ∈ token, isBlank c = false)
    (hsub : ∀ c ∈ sub, isBlank c = false) (hsub' : ∀ c ∈ sub', isBlank c = false)
    (hrest : ∀ word ∈ rest, ∀ c ∈ word, isBlank c = false) :
    (t.governing? (actionOf token (sub :: rest))).map (·.demand) =
      (t.governing? (actionOf token (sub' :: rest))).map (·.demand) := by
  rw [governing?_actionOf t htoken (List.forall_mem_cons.mpr ⟨hsub, hrest⟩),
    governing?_actionOf t htoken (List.forall_mem_cons.mpr ⟨hsub', hrest⟩)]
  simp only [List.inits_cons, List.reverse_cons, ← List.map_reverse, List.findSome?_append,
    List.findSome?_map, Option.map_or]
  -- Only the beginning without the subcommand is the same in both spellings.
  have hlonger := map_findSome?_congr (l := rest.inits.reverse) PermissionRule.demand
    fun more hmore ↦ halike more ((List.mem_inits more rest).mp (List.mem_reverse.mp hmore))
  exact congrArg (Option.or · _) hlonger

/-- Arguments name one subcommand where their first words are the same in lower case and what
follows is the same. -/
theorem subcommand_eq_iff {args args' : List Char} : subcommand args = subcommand args' ↔
    toLower (splitFirst args).1 = toLower (splitFirst args').1 ∧
      (splitFirst args).2 = (splitFirst args').2 := by
  rw [← String.ofList_inj]
  exact Prod.mk.injEq _ _ _ _ |>.to_iff

/-- Where the rules demand the same of two spellings, so do the rules that govern the actions of
arguments that differ in the spelling of the subcommand. -/
theorem Table.DemandsAlike.governing?_actionString {t : Table String PermissionRule}
    {token args args' : List Char}
    (halike : t.DemandsAlike token (splitFirst args).1 (splitFirst args').1
      (words (splitFirst args).2))
    (htoken : ∀ c ∈ token, isBlank c = false) (hsub : subcommand args = subcommand args') :
    (t.governing? (String.ofList (actionString token args))).map (·.demand) =
      (t.governing? (String.ofList (actionString token args'))).map (·.demand) := by
  obtain ⟨hlower, hrest⟩ := subcommand_eq_iff.mp hsub
  rw [ofList_actionString, ofList_actionString, words_eq args, words_eq args', ← hrest]
  have hnil : (splitFirst args).1 = [] ↔ (splitFirst args').1 = [] := by
    rw [← toLower_eq_nil_iff, hlower, toLower_eq_nil_iff]
  by_cases hempty : (splitFirst args).1 = []
  · rw [if_pos hempty, if_pos (hnil.mp hempty)]
  · rw [if_neg hempty, if_neg (mt hnil.mpr hempty)]
    exact halike.governing? htoken (fun c ↦ isBlank_of_mem_splitFirst)
      (fun c ↦ isBlank_of_mem_splitFirst) fun word hword ↦ (isWord_of_mem_words hword).2

/-! ### Respelled messages -/

/-- A built-in command that reads its arguments as a subcommand and what follows it does the same
for every spelling of the subcommand. -/
theorem Builtin.run_respelled {b : Builtin} (hb : b ≠ .ping) (st : GuildStores (γ × ω)) (m : Moment)
    (msg : Message) {args args' : List Char} (hsub : subcommand args = subcommand args')
    (text' : String) (spec : CommandSpec) (r : Registry Builtin) (sc : Scope γ) (w : ω) :
    b.run st m msg args spec r sc w = b.run st m { msg with text := text' } args' spec r sc w := by
  cases b with
  | ping => exact absurd rfl hb
  | perm => simp only [run, PermissionRequest.ofArgs, hsub]
  | cooldown => simp only [run, CooldownRequest.ofArgs, hsub]
  | command => simp only [run, CustomRequest.ofArgs, hsub]
  | keyword => simp only [run, KeywordRequest.ofArgs, hsub]
  | event => simp only [run, SignupRequest.ofArgs, hsub]
  | help => simp only [run, HelpRequest.ofArgs, hsub]
  | builtins => simp only [run, ToggleRequest.ofArgs, hsub]

namespace Bot

variable {bot : Bot γ ω} {v : GuildView γ ω} {m : Moment} {msg : Message}

/-- A checkpoint in a guild whose rows are all known denies whom the governing rule does not let
act. -/
theorem pass_denied_iff (bot : Bot γ ω) (m : Moment) (msg : Message) (r : Registry Builtin)
    (cp : Checkpoint γ ω) (hsc : cp.scope.Faithful v) (hfull : cp.scope.IsFull)
    (hw : v.tidy cp.world) :
    (bot.pass m msg r cp).1.1 = .denied ↔
      (((v.rows cp.scope.stored).permissions.governing? cp.action).getD
        (.unrestricted cp.action)).grants (bot.rankOf msg.invoker) msg.invoker = false := by
  rw [pass_eq_iff id, check_fst_of_full bot m msg hsc hfull hw]
  dsimp only
  split_ifs with hgrants
  · simp [hgrants]
  · simp [hgrants]

/-- Messages that call one token differ in their checkpoints by their arguments only. -/
theorem checkpoint?_respelled {s : BotState γ ω} {text' : String} {token args args' : List Char}
    (hrequest : Request.ofText bot.mark.toList msg.text.toList = .command token args)
    (hrequest' : Request.ofText bot.mark.toList text'.toList = .command token args') :
    bot.checkpoint? { msg with text := text' } s = (bot.checkpoint? msg s).map fun cp ↦
      { cp with action := String.ofList (actionString token args'), args := args' } := by
  simp only [checkpoint?, hrequest, hrequest']
  rcases s.directory.scope bot.backend msg.guild s.world with ⟨e | sc, d, w⟩
  · rfl
  dsimp only
  rcases bot.target (String.ofList token) s.registry sc w with ⟨_ | t, sc', w'⟩ <;> rfl

/-- A message is denied where its checkpoint denies it. -/
theorem handle_denied_iff {s : BotState γ ω} (m : Moment) (msg : Message) :
    (bot.handle m msg s).1.map (·.1) = .ok .denied ↔
      ∃ cp, bot.checkpoint? msg s = some cp ∧ (bot.pass m msg s.registry cp).1.1 = .denied :=
  handle_eq_iff id

/-- Two messages that differ in the spelling of the subcommand are both denied or neither is, where
the rules of the guild demand the same of the two spellings. -/
theorem denied_iff_of_demandsAlike (hb : bot.backend.Lawful v) {s : BotState γ ω}
    (hs : s.Faithful v) {text' : String} {token args args' : List Char}
    (hrequest : Request.ofText bot.mark.toList msg.text.toList = .command token args)
    (hrequest' : Request.ofText bot.mark.toList text'.toList = .command token args')
    (hsub : subcommand args = subcommand args')
    (halike : ∀ cp, bot.checkpoint? msg s = some cp →
      (v.rows cp.scope.stored).permissions.DemandsAlike token (splitFirst args).1
        (splitFirst args').1 (words (splitFirst args).2)) :
    (bot.handle m msg s).1.map (·.1) = .ok .denied ↔
      (bot.handle m { msg with text := text' } s).1.map (·.1) = .ok .denied := by
  rw [handle_denied_iff, handle_denied_iff, checkpoint?_respelled hrequest hrequest']
  cases hcheckpoint : bot.checkpoint? msg s with
  | none => simp
  | some cp =>
    obtain ⟨hsc, hfull, hw⟩ := faithful_checkpoint hb hs.1 hs.2 hcheckpoint
    have hrules := (halike cp hcheckpoint).governing?_actionString
      (Request.token_of_ofText hrequest).2 hsub
    have haction : cp.action = String.ofList (actionString token args) := by
      obtain ⟨token', -, -, -, hcalled, -, -, haction⟩ := checkpoint?_eq_some hcheckpoint
      obtain ⟨rfl, rfl⟩ := Request.command.inj (hrequest.symm.trans hcalled)
      exact haction
    rw [← haction] at hrules
    have hgrants := PermissionRule.grants_eq_of_demand (PermissionRule.demand_getD hrules cp.action
      (String.ofList (actionString token args'))) (bot.rankOf msg.invoker) msg.invoker
    simp only [Option.map_some, Option.some.injEq, exists_eq_left']
    have hdenied' := pass_denied_iff bot m { msg with text := text' } s.registry
      { cp with action := String.ofList (actionString token args'), args := args' } hsc hfull hw
    rw [pass_denied_iff bot m msg s.registry cp hsc hfull hw, hgrants]
    exact hdenied'.symm

/-- Two messages that differ in the spelling of the subcommand ask a built-in command for the same.
After any messages, failures and closed guilds they are both denied or neither is, where the rules
of the guild demand the same of the two spellings. -/
theorem respelled_denied_iff (hb : bot.backend.Lawful v) {registry : Registry Builtin}
    {events : Events} {world : ω} (hworld : v.tidy world) {history : List (BotEvent ω)}
    (htidy : ∀ event ∈ history, event.IsTidy v) {text' : String} {token args args' : List Char}
    (hrequest : Request.ofText bot.mark.toList msg.text.toList = .command token args)
    (hrequest' : Request.ofText bot.mark.toList text'.toList = .command token args')
    (hsub : subcommand args = subcommand args') :
    (∀ b ≠ Builtin.ping, ∀ spec r sc w, b.run bot.backend.stores m msg args spec r sc w =
      b.run bot.backend.stores m { msg with text := text' } args' spec r sc w) ∧
    let s := bot.after history { directory := { events }, registry, world }
    (∀ cp, bot.checkpoint? msg s = some cp →
      (v.rows cp.scope.stored).permissions.DemandsAlike token (splitFirst args).1
        (splitFirst args').1 (words (splitFirst args).2)) →
    ((bot.handle m msg s).1.map (·.1) = .ok .denied ↔
      (bot.handle m { msg with text := text' } s).1.map (·.1) = .ok .denied) := by
  refine ⟨fun b hping spec r sc w ↦ b.run_respelled hping _ m msg hsub text' spec r sc w, ?_⟩
  intro s halike
  have hs : s.Faithful v := faithful_after hb htidy ⟨Directory.faithful_empty v events, hworld⟩
  exact denied_iff_of_demandsAlike hb hs hrequest hrequest' hsub halike

end Bot

/-! ### A rule for one spelling -/

/-- A bot of guilds that start with rules by which only owners run some actions. -/
def ownersOnly (actions : List String) : BotState (GuildRows Switched) Switchboard where
  registry := (∅ : Registry Builtin).register Builtin.event.spec .event
  world := { seed := ⟨{ rows := .ofRows (actions.map fun action ↦ { action, rank := .owner }) },
    {}, {}, {}⟩ }

namespace Bot

/-- With a rule for each of two spellings, both are denied. -/
theorem respelled_denied_iff_list :
    let s := switchedBot.after [] (ownersOnly ["event list", "event LIST"])
    (switchedBot.handle (secondsIn 0) (saying "!event list feast") s).1.map (·.1) = .ok .denied ∧
      (switchedBot.handle (secondsIn 0) (saying "!event LIST feast") s).1.map (·.1) =
        .ok .denied := by
  intro s
  have hdenied : (switchedBot.handle (secondsIn 0) (saying "!event list feast") s).1.map (·.1) =
      .ok .denied := by decide
  have hworld : Backend.switchedView.tidy s.world :=
    ⟨⟨rfl, rfl, rfl, rfl⟩, ⟨Table.isKeyed_ofRows _, Table.isKeyed_empty, Table.isKeyed_empty,
      Table.isKeyed_empty⟩⟩
  have hrequest : Request.ofText switchedBot.mark.toList (saying "!event list feast").text.toList =
      .command "event".toList "list feast".toList := by decide
  have hrequest' : Request.ofText switchedBot.mark.toList "!event LIST feast".toList =
      .command "event".toList "LIST feast".toList := by decide
  have hrows : ∀ cp, switchedBot.checkpoint? (saying "!event list feast") s = some cp →
      (Backend.switchedView.rows cp.scope.stored).permissions =
        s.world.seed.permissions.rows := by
    intro cp hcheckpoint
    have hstored : (switchedBot.checkpoint? (saying "!event list feast") s).map
        (fun cp ↦ (Backend.switchedView.rows cp.scope.stored).permissions) =
          some s.world.seed.permissions.rows := by decide
    rw [hcheckpoint] at hstored
    exact Option.some.inj hstored
  have halike : s.world.seed.permissions.rows.DemandsAlike "event".toList "list".toList
      "LIST".toList ["feast".toList] := by
    intro more hmore
    rw [← List.mem_inits] at hmore
    revert more
    decide
  refine ⟨hdenied, ((respelled_denied_iff Backend.lawful_switched hworld (by simp) hrequest
    hrequest' (by decide)).2 ?_).mp hdenied⟩
  intro cp hcheckpoint
  rw [hrows cp hcheckpoint]
  exact halike

/-- A rule for one spelling of a subcommand does not hold for another one that asks for the
same. -/
theorem respelled_list_is_granted :
    subcommand "list feast".toList = subcommand "LIST feast".toList ∧
      (switchedBot.handle (secondsIn 0) (saying "!event list feast")
        (ownersOnly ["event list"])).1.map (·.1) = .ok .denied ∧
      (switchedBot.handle (secondsIn 0) (saying "!event LIST feast")
        (ownersOnly ["event list"])).1.map (·.1) = .ok (.builtin "event") := by
  decide +kernel

end Bot

end Guildhall
