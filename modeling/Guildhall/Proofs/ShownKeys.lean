import Guildhall.Proofs.Answers
import Guildhall.Proofs.GuildDocument
import Guildhall.Proofs.TypedKeys

/-!
Removing what a list shows. The rows of every collection are kept by one built-in command
(`Collection.keeper`). What it announces as stored stands under a key that a text named
(`Builtin.stored_spec`), its list has a line for the row that begins with the key
(`Collection.isListed_of_lists`), and the words of the key, given back to the command, remove the
row and no other (`Collection.removes_words`), for the key names itself. So every row that was
stored can be removed under what is shown of it (`Builtin.shown_row_can_be_removed`).
-/

set_option autoImplicit false

namespace Guildhall

open Text

variable {σ V γ ω : Type}

/-! ### Caches over stores that work -/

/-- Whether a store answers when it is asked for its rows, or to delete the row of a key. -/
structure RowStore.WorksOn (st : RowStore σ V) (key : String) (s : σ) : Prop where
  loadAll : (st.loadAll s).1.isOk
  delete : (st.delete key s).1.isOk

namespace Cache

variable [Keyed V] {st : RowStore σ V} {holds : σ → Table String V → Prop} {c : Cache V} {s : σ}
  {t : Table String V} {key : String}

theorem listAll_fst (hst : st.Lawful holds) (hc : c.Reflects holds s t)
    (hworks : st.WorksOn key s) :
    (c.listAll st s).1 = .ok t.values := by
  have hok : (c.listAll st s).1.isOk := by
    have hload := hworks.loadAll
    unfold listAll
    split_ifs
    · rfl
    · rcases hcall : st.loadAll s with ⟨fault | rows, s'⟩
      · simp [hcall, Except.isOk, Except.toBool] at hload
      · rfl
  have hagrees := agrees_listAll hst hc.mirrors hc.keyed hc.holds
  generalize c.listAll st s = r at hok hagrees
  cases hagrees with
  | ok => rfl
  | error => cases hok

theorem remove_fst (hst : st.Lawful holds) (hc : c.Reflects holds s t)
    (hworks : st.WorksOn key s) :
    (c.remove st key s).1 = .ok (t.contains key) := by
  have hdelete := hworks.delete
  have hcall := hst.delete key hc.holds
  unfold remove
  rcases hresult : st.delete key s with ⟨fault | existed, s'⟩
  · simp [hresult, Except.isOk, Except.toBool] at hdelete
  · rw [hresult] at hcall
    obtain ⟨rfl, -⟩ := hcall
    rfl

end Cache

/-! ### Listings -/

/-- Whether a text lists something by a name: a line begins with it. -/
def IsListed (name text : String) : Prop :=
  ∃ lines detail, text = "\n".intercalate lines ∧ "- " ++ name ++ detail ∈ lines

/-- What stands first in the line of a row is shown under the title of a listing. -/
theorem isListed_of_mem {α : Type} {rows : List α} {row : α} (hrow : row ∈ rows) (title : String)
    (line : α → String) {name : String} (detail : String)
    (hline : line row = "- " ++ name ++ detail) :
    IsListed name ("\n".intercalate (title :: rows.map line)) :=
  ⟨_, detail, rfl, List.mem_cons_of_mem _ (hline ▸ List.mem_map_of_mem hrow)⟩

theorem PermissionAnswer.isListed_listing {rules : List PermissionRule} {rule : PermissionRule}
    (hrule : rule ∈ rules) : IsListed rule.action (listing rules).text := by
  let line (rule : PermissionRule) : String := s!"- {rule.action}: {rule.requirement}"
  have htext : (listing rules).text = "\n".intercalate ("Permission rules:" :: rules.map line) := by
    cases rules with
    | nil => cases hrule
    | cons => rfl
  rw [htext]
  exact isListed_of_mem hrule _ line s!": {rule.requirement}"
    (by simp [line, toString, String.append_assoc])

theorem CooldownAnswer.isListed_listing {rules : List CooldownRule} {rule : CooldownRule}
    (hrule : rule ∈ rules) (henforced : rule.isEnforced = true) :
    IsListed rule.action (listing rules).text := by
  let line (rule : CooldownRule) : String := s!"- {rule.action}: {rule.duration.text}"
  have hactive : rule ∈ rules.filter (·.isEnforced) := List.mem_filter_of_mem hrule henforced
  have htext : (listing rules).text =
      "\n".intercalate ("Cooldowns:" :: (rules.filter (·.isEnforced)).map line) := by
    unfold text
    dsimp only
    generalize rules.filter (·.isEnforced) = active at hactive ⊢
    cases active with
    | nil => cases hactive
    | cons => rfl
  rw [htext]
  exact isListed_of_mem hactive _ line s!": {rule.duration.text}"
    (by simp [line, toString, String.append_assoc])

theorem CustomAnswer.isListed_listing {rows : List CustomCommand} {row : CustomCommand}
    (hrow : row ∈ rows) (mark : String) :
    IsListed (mark ++ row.name) ((listing rows).text mark) := by
  let line (row : CustomCommand) : String := s!"- {mark}{row.name}: {templateLine row.template}"
  have htext : (listing rows).text mark =
      "\n".intercalate ("Custom commands:" :: rows.map line) := by
    cases rows with
    | nil => cases hrow
    | cons => rfl
  rw [htext]
  exact isListed_of_mem hrow _ line s!": {templateLine row.template}"
    (by simp [line, toString, String.append_assoc])

theorem KeywordAnswer.isListed_listing {rows : List Keyword} {row : Keyword} (hrow : row ∈ rows) :
    IsListed row.name (listing rows).text := by
  let line (row : Keyword) : String :=
    s!"- {row.name} /{row.pattern}/: {templateLine row.template}"
  have htext : (listing rows).text = "\n".intercalate ("Keywords:" :: rows.map line) := by
    cases rows with
    | nil => cases hrow
    | cons => rfl
  rw [htext]
  exact isListed_of_mem hrow _ line s!" /{row.pattern}/: {templateLine row.template}"
    (by simp [line, toString, String.append_assoc])

/-! ### The rows of a collection -/

/-- The key under which an answer says that a row was stored. A cooldown of no duration is none. -/
def Answer.stored? : Answer → Option (Collection × String)
  | permissions (.requires rule) => some (.permissions, rule.action)
  | cooldowns (.limited action duration) =>
    if duration.isZero then none else some (.cooldowns, action)
  | custom (.written _ name) => some (.commands, name)
  | keywords (.written _ name) => some (.keywords, name)
  | _ => none

namespace Collection

/-- The built-in command that keeps a collection. -/
def keeper : Collection → Builtin
  | permissions => .perm
  | cooldowns => .cooldown
  | commands => .command
  | keywords => .keyword

/-- The answer that the row of a key was taken away. -/
def removed (key : String) : Collection → Answer
  | permissions => .permissions (.removed key)
  | cooldowns => .cooldowns (.removed key)
  | commands => .custom (.deleted key)
  | keywords => .keywords (.deleted key)

/-- Whether a row is listed: a cooldown of no duration is not. -/
def lists : (c : Collection) → c.Row → Prop
  | permissions, _ => True
  | cooldowns, rule => CooldownRule.isEnforced rule = true
  | commands, _ => True
  | keywords, _ => True

/-- What a listing shows a row by; `mark` is the text that commands start with. -/
def label (mark key : String) : Collection → String
  | commands => mark ++ key
  | _ => key

/-- The answer that lists rows of a collection. -/
def listing : (c : Collection) → List c.Row → Answer
  | permissions, rows => .permissions (.listing rows)
  | cooldowns, rows => .cooldowns (.listing rows)
  | commands, rows => .custom (.listing rows)
  | keywords, rows => .keywords (.listing rows)

/-- A listing has a line for every row that it lists, and the key of the row stands first. -/
theorem isListed_listing {c : Collection} {rows : List c.Row} {row : c.Row} (hrow : row ∈ rows)
    (hlists : c.lists row) (mark member : String) :
    IsListed (c.label mark (Keyed.key row)) ((c.listing rows).text mark member) := by
  cases c with
  | permissions => exact PermissionAnswer.isListed_listing hrow
  | cooldowns => exact CooldownAnswer.isListed_listing hrow hlists
  | commands => exact CustomAnswer.isListed_listing hrow mark
  | keywords => exact KeywordAnswer.isListed_listing hrow

end Collection

/-! ### Caches and stores of a collection -/

/-- The caches of a guild. -/
def Scope.caches (sc : Scope γ) : GuildRows Cache :=
  ⟨sc.policy.permissions, sc.policy.cooldowns, sc.commands, sc.keywords⟩

theorem Scope.Faithful.reflects {v : GuildView γ ω} {sc : Scope γ} {w : ω} (hsc : sc.Faithful v)
    (hw : v.tidy w) (c : Collection) :
    (sc.caches.of c).Reflects (fun s t ↦ v.holds s ((v.rows sc.stored).put c t)) (sc.stored, w)
      ((v.rows sc.stored).of c) := by
  cases c with
  | permissions => exact (hsc.policy hw).permissions
  | cooldowns => exact (hsc.policy hw).cooldowns
  | commands => exact hsc.reflectsCommands hw
  | keywords => exact hsc.reflectsKeywords hw

theorem GuildStores.Lawful.of {st : GuildStores σ} {holds : σ → GuildTables → Prop}
    (hst : GuildStores.Lawful st holds) (rows : GuildTables) (c : Collection) :
    (st.of c).Lawful fun s t ↦ holds s (rows.put c t) := by
  cases c with
  | permissions => exact hst.permissions rows
  | cooldowns => exact hst.cooldowns rows
  | commands => exact hst.commands rows
  | keywords => exact hst.keywords rows

/-! ### The command of a collection -/

/-- A command that is asked to remove a key removes it from the cache of its collection. -/
theorem Collection.run_removal {c : Collection} {key : String} {args : List Char}
    (hverb : (subcommand args).1 ∈ removalVerbs)
    (hkey : c.keyNamed? (subcommand args).2 = some key.toList) (st : GuildStores (γ × ω))
    (m : Moment) (msg : Message) (spec : CommandSpec) (registry : Registry Builtin) (sc : Scope γ)
    (w : ω) :
    let r := c.keeper.run st m msg args spec registry sc w
    let removal := (sc.caches.of c).remove (st.of c) key (sc.stored, w)
    (removal.1 = .ok true → r.1 = c.removed key) ∧ (r.2.2.1.stored, r.2.2.2) = removal.2.2 := by
  intro r removal
  cases c with
  | permissions =>
    rcases hresult : sc.policy.permissions.remove st.permissions key (sc.stored, w) with
      ⟨answer, cache, s⟩
    have hremoval : removal = (answer, cache, s) := hresult
    simp only [hremoval, r, keeper, Builtin.run, PermissionRequest.ofArgs_removal hverb hkey,
      Scope.onPolicy, PermissionRequest.run, Policy.removePermission, Policy.onPermissions,
      GuildRows.rules, hresult]
    rcases answer with e | _ | _ <;> simp [removed]
  | cooldowns =>
    rcases hresult : sc.policy.cooldowns.remove st.cooldowns key (sc.stored, w) with
      ⟨answer, cache, s⟩
    have hremoval : removal = (answer, cache, s) := hresult
    simp only [hremoval, r, keeper, Builtin.run, CooldownRequest.ofArgs_removal hverb hkey,
      Scope.onPolicy, CooldownRequest.run, Policy.removeCooldown, Policy.onCooldowns,
      GuildRows.rules, hresult]
    rcases answer with e | _ | _ <;> simp [removed]
  | commands =>
    rcases hresult : sc.commands.remove st.commands key (sc.stored, w) with ⟨answer, cache, s⟩
    have hremoval : removal = (answer, cache, s) := hresult
    simp only [hremoval, r, keeper, Builtin.run, CustomRequest.ofArgs_removal hverb hkey,
      Scope.onCommands, CustomRequest.run, hresult]
    rcases answer with e | _ | _ <;> simp [removed]
  | keywords =>
    rcases hresult : sc.keywords.remove st.keywords key (sc.stored, w) with ⟨answer, cache, s⟩
    have hremoval : removal = (answer, cache, s) := hresult
    simp only [hremoval, r, keeper, Builtin.run, KeywordRequest.ofArgs_removal hverb hkey,
      Scope.onKeywords, KeywordRequest.run, hresult]
    rcases answer with e | _ | _ <;> simp [removed]

/-- A command that is asked for its list answers the rows of its collection. -/
theorem Collection.run_list {c : Collection} {args : List Char}
    (hverb : (subcommand args).1 = "list") (st : GuildStores (γ × ω)) (m : Moment) (msg : Message)
    (spec : CommandSpec) (registry : Registry Builtin) (sc : Scope γ) (w : ω) {rows : List c.Row}
    (hrows : ((sc.caches.of c).listAll (st.of c) (sc.stored, w)).1 = .ok rows) :
    (c.keeper.run st m msg args spec registry sc w).1 = c.listing rows := by
  cases c with
  | permissions =>
    have hlist : PermissionRequest.ofArgs args = .list := by simp [PermissionRequest.ofArgs, hverb]
    rcases hresult : sc.policy.permissions.listAll st.permissions (sc.stored, w) with
      ⟨answer, cache, s⟩
    obtain rfl : answer = .ok rows := (congrArg Prod.fst hresult).symm.trans hrows
    simp only [keeper, Builtin.run, hlist, Scope.onPolicy, PermissionRequest.run,
      Policy.listPermissions, Policy.onPermissions, GuildRows.rules, hresult, listing]
  | cooldowns =>
    have hlist : CooldownRequest.ofArgs args = .list := by simp [CooldownRequest.ofArgs, hverb]
    rcases hresult : sc.policy.cooldowns.listAll st.cooldowns (sc.stored, w) with
      ⟨answer, cache, s⟩
    obtain rfl : answer = .ok rows := (congrArg Prod.fst hresult).symm.trans hrows
    simp only [keeper, Builtin.run, hlist, Scope.onPolicy, CooldownRequest.run,
      Policy.listCooldowns, Policy.onCooldowns, GuildRows.rules, hresult, listing]
  | commands =>
    have hlist : CustomRequest.ofArgs args = .list := by
      simp [CustomRequest.ofArgs, WriteMode.ofVerb?, hverb]
    rcases hresult : sc.commands.listAll st.commands (sc.stored, w) with ⟨answer, cache, s⟩
    obtain rfl : answer = .ok rows := (congrArg Prod.fst hresult).symm.trans hrows
    simp only [keeper, Builtin.run, hlist, Scope.onCommands, CustomRequest.run, hresult, listing]
  | keywords =>
    have hlist : KeywordRequest.ofArgs args = .list := by
      simp [KeywordRequest.ofArgs, WriteMode.ofVerb?, hverb]
    rcases hresult : sc.keywords.listAll st.keywords (sc.stored, w) with ⟨answer, cache, s⟩
    obtain rfl : answer = .ok rows := (congrArg Prod.fst hresult).symm.trans hrows
    simp only [keeper, Builtin.run, hlist, Scope.onKeywords, KeywordRequest.run, hresult, listing]

/-! ### What is stored, listed and removed -/

section Guild

variable {v : GuildView γ ω} {st : GuildStores (γ × ω)} (hst : GuildStores.Lawful st v.holds)
  {sc : Scope γ} {w : ω} (hsc : sc.Faithful v) (hw : v.tidy w)
include hst hsc hw

/-- A rule that an answer announces is there, under an action that a text names. -/
theorem PermissionRequest.stored_of_requires {args : List Char} {rule : PermissionRule}
    (hanswer : ((ofArgs args).run st.rules sc.policy (sc.stored, w)).1 = .requires rule) :
    (∃ text, Collection.permissions.keyNamed? text = some rule.action.toList) ∧
      ((v.rows ((ofArgs args).run st.rules sc.policy (sc.stored, w)).2.2.1).of .permissions).get?
        rule.action = some rule := by
  have hrules : st.rules.permissions.Lawful _ := hst.permissions (v.rows sc.stored)
  obtain ⟨t', ⟨-, -, hrows⟩, htrue⟩ := isTrue_run hrules (hsc.policy hw).permissions (ofArgs args)
  rw [hanswer] at htrue
  obtain rfl : t' = Table.insert _ rule.action rule := htrue
  refine ⟨exists_text_of_ofArgs (written?_of_requires hanswer), ?_⟩
  rw [hrows]
  exact Table.get?_insert_self _ _ _

/-- So is a cooldown that an answer announces, and it has the duration that is announced. -/
theorem CooldownRequest.stored_of_limited {args : List Char} {action : String}
    {duration : Duration}
    (hanswer : ((ofArgs args).run st.rules sc.policy (sc.stored, w)).1 = .limited action duration) :
    (∃ text, Collection.cooldowns.keyNamed? text = some action.toList) ∧
      ∃ rule, ((v.rows ((ofArgs args).run st.rules sc.policy (sc.stored, w)).2.2.1).of
        .cooldowns).get? action = some rule ∧ rule.duration = duration := by
  have hrules : st.rules.cooldowns.Lawful _ := hst.cooldowns (v.rows sc.stored)
  obtain ⟨t', ⟨-, -, hrows⟩, htrue⟩ := isTrue_run hrules (hsc.policy hw).cooldowns (ofArgs args)
  rw [hanswer] at htrue
  let rule : CooldownRule :=
    { action, duration, last := ((v.rows sc.stored).cooldowns.get? action).bind (·.last) }
  obtain rfl : t' = Table.insert _ action rule := htrue
  refine ⟨exists_text_of_ofArgs (written?_of_limited hanswer), rule, ?_, rfl⟩
  rw [hrows]
  exact Table.get?_insert_self _ _ _

/-- So is a custom command that an answer announces. -/
theorem CustomRequest.stored_of_written {args : List Char} {isBuiltin : String → Bool} {owner : Id}
    {mode : WriteMode} {name : String}
    (hanswer : ((ofArgs args).run st.commands isBuiltin owner sc.commands (sc.stored, w)).1 =
      .written mode name) :
    (∃ text, Collection.commands.keyNamed? text = some name.toList) ∧
      ∃ row, ((v.rows ((ofArgs args).run st.commands isBuiltin owner sc.commands
        (sc.stored, w)).2.2.1).of .commands).get? name = some row := by
  obtain ⟨t', ⟨-, -, hrows⟩, htrue⟩ := isTrue_run (hst.commands (v.rows sc.stored))
    (hsc.reflectsCommands hw) isBuiltin owner (ofArgs args)
  rw [hanswer] at htrue
  obtain ⟨-, template, -, rfl⟩ := htrue
  let row : CustomCommand := { name, template, owner }
  refine ⟨exists_text_of_ofArgs (written?_of_written hanswer), row, ?_⟩
  rw [hrows]
  exact Table.get?_insert_self _ _ _

/-- So is a keyword that an answer announces. -/
theorem KeywordRequest.stored_of_written {args : List Char} {owner : Id} {mode : WriteMode}
    {name : String}
    (hanswer : ((ofArgs args).run st.keywords owner sc.keywords (sc.stored, w)).1 =
      .written mode name) :
    (∃ text, Collection.keywords.keyNamed? text = some name.toList) ∧
      ∃ row, ((v.rows ((ofArgs args).run st.keywords owner sc.keywords
        (sc.stored, w)).2.2.1).of .keywords).get? name = some row := by
  obtain ⟨t', ⟨-, -, hrows⟩, htrue⟩ := isTrue_run (hst.keywords (v.rows sc.stored))
    (hsc.reflectsKeywords hw) owner (ofArgs args)
  rw [hanswer] at htrue
  obtain ⟨-, pattern, template, -, rfl⟩ := htrue
  let row : Keyword := { name, pattern, template, owner }
  refine ⟨exists_text_of_ofArgs (written?_of_written hanswer), row, ?_⟩
  rw [hrows]
  exact Table.get?_insert_self _ _ _

/-- What a command announces as stored is a row that it lists, under a key that a text names. -/
theorem Builtin.stored_spec {b : Builtin} {m : Moment} {msg : Message} {args : List Char}
    {spec : CommandSpec} {registry : Registry Builtin} {c : Collection} {key : String}
    (hstored : (b.run st m msg args spec registry sc w).1.stored? = some (c, key)) :
    b = c.keeper ∧ (∃ text, c.keyNamed? text = some key.toList) ∧
      ∃ row, ((v.rows (b.run st m msg args spec registry sc w).2.2.1.stored).of c).get? key =
        some row ∧ c.lists row := by
  cases b with
  | perm =>
    simp only [run, Scope.onPolicy] at hstored ⊢
    rcases hresult : (PermissionRequest.ofArgs args).run st.rules sc.policy (sc.stored, w) with
      ⟨answer, p, s⟩
    simp only [hresult] at hstored
    cases answer with
    | requires rule =>
      obtain ⟨rfl, rfl⟩ := Prod.mk.inj (Option.some.inj hstored)
      obtain ⟨hkey, hrow⟩ :=
        PermissionRequest.stored_of_requires hst hsc hw (congrArg Prod.fst hresult)
      rw [hresult] at hrow
      exact ⟨rfl, hkey, rule, hrow, trivial⟩
    | _ => cases hstored
  | cooldown =>
    simp only [run, Scope.onPolicy] at hstored ⊢
    rcases hresult : (CooldownRequest.ofArgs args).run st.rules sc.policy (sc.stored, w) with
      ⟨answer, p, s⟩
    simp only [hresult] at hstored
    cases answer with
    | limited action duration =>
      simp only [Answer.stored?] at hstored
      split_ifs at hstored with hzero
      obtain ⟨rfl, rfl⟩ := Prod.mk.inj (Option.some.inj hstored)
      obtain ⟨hkey, rule, hrow, hduration⟩ :=
        CooldownRequest.stored_of_limited hst hsc hw (congrArg Prod.fst hresult)
      rw [hresult] at hrow
      refine ⟨rfl, hkey, rule, hrow, ?_⟩
      simp [Collection.lists, CooldownRule.isEnforced, hduration, hzero]
    | _ => cases hstored
  | command =>
    simp only [run, Scope.onCommands] at hstored ⊢
    rcases hresult : (CustomRequest.ofArgs args).run st.commands
        (fun name ↦ (registry.entryOfTrigger? name).isSome) msg.invoker.id sc.commands
        (sc.stored, w) with ⟨answer, cache, s⟩
    simp only [hresult] at hstored
    cases answer with
    | written mode name =>
      obtain ⟨rfl, rfl⟩ := Prod.mk.inj (Option.some.inj hstored)
      obtain ⟨hkey, row, hrow⟩ :=
        CustomRequest.stored_of_written hst hsc hw (congrArg Prod.fst hresult)
      rw [hresult] at hrow
      exact ⟨rfl, hkey, row, hrow, trivial⟩
    | _ => cases hstored
  | keyword =>
    simp only [run, Scope.onKeywords] at hstored ⊢
    rcases hresult : (KeywordRequest.ofArgs args).run st.keywords msg.invoker.id sc.keywords
        (sc.stored, w) with ⟨answer, cache, s⟩
    simp only [hresult] at hstored
    cases answer with
    | written mode name =>
      obtain ⟨rfl, rfl⟩ := Prod.mk.inj (Option.some.inj hstored)
      obtain ⟨hkey, row, hrow⟩ :=
        KeywordRequest.stored_of_written hst hsc hw (congrArg Prod.fst hresult)
      rw [hresult] at hrow
      exact ⟨rfl, hkey, row, hrow, trivial⟩
    | _ => cases hstored
  | event => cases hstored
  | help => cases hstored
  | ping => cases hstored
  | builtins => cases hstored

variable {c : Collection} {key : String} (hworks : (st.of c).WorksOn key (sc.stored, w))
  {row : c.Row} (hrow : ((v.rows sc.stored).of c).get? key = some row) (m : Moment) (msg : Message)
  (spec : CommandSpec) (registry : Registry Builtin)
include hworks hrow

/-- A row that is there and that can be listed is shown by its key. -/
theorem Collection.isListed_of_lists {args : List Char} (hverb : (subcommand args).1 = "list")
    (hlists : c.lists row) (mark member : String) :
    IsListed (c.label mark key)
      ((c.keeper.run st m msg args spec registry sc w).1.text mark member) := by
  have hreflects := hsc.reflects hw c
  have hrows := Cache.listAll_fst (hst.of (v.rows sc.stored) c) hreflects hworks
  have hmem : row ∈ ((v.rows sc.stored).of c).values := Table.mem_values_iff.mpr ⟨key, hrow⟩
  have hlisted := isListed_listing hmem hlists mark member
  rw [run_list hverb st m msg spec registry sc w hrows]
  rwa [hreflects.keyed key row hrow] at hlisted

/-- Whoever gives back the words of a key that a text names takes away the row of this key and no
other. -/
theorem Collection.removes_words {args text : List Char}
    (hverb : (subcommand args).1 ∈ removalVerbs)
    (hwords : words (subcommand args).2 = words key.toList)
    (hkey : c.keyNamed? text = some key.toList) :
    let r := c.keeper.run st m msg args spec registry sc w
    r.1 = c.removed key ∧ v.rows r.2.2.1.stored =
      (v.rows sc.stored).put c (((v.rows sc.stored).of c).erase key) := by
  intro r
  have hlawful := hst.of (v.rows sc.stored) c
  have hreflects := hsc.reflects hw c
  have hnamed := (keyNamed?_congr hwords).trans (keyNamed?_self hkey)
  obtain ⟨hanswer, hstate⟩ := run_removal hverb hnamed st m msg spec registry sc w
  have hthere : ((v.rows sc.stored).of c).contains key = true := Option.isSome_of_eq_some hrow
  have hresult := Cache.remove_fst hlawful hreflects hworks
  have hrows := Cache.remove_spec hlawful hreflects key
  rw [hthere] at hresult
  refine ⟨hanswer hresult, ?_⟩
  generalize (sc.caches.of c).remove (st.of c) key (sc.stored, w) = removal
    at hresult hrows hstate
  obtain ⟨answer, cache, s⟩ := removal
  obtain rfl : answer = .ok true := hresult
  obtain ⟨-, -, -, herased⟩ := hrows
  exact (congrArg (v.rows ·.1) hstate).trans herased

end Guild

/-- What a list shows can be removed. If a command answers that it stored a row, then it stored one
under the key that it names, and one that is listed. As long as there is a row under this key, in
whatever state the guild then is, the list of the command shows it by its key, and the command takes
it away, and no other row of any collection, when it is given the key back; the store only has to
answer. -/
theorem Builtin.shown_row_can_be_removed {v : GuildView γ ω} {st : GuildStores (γ × ω)}
    (hst : GuildStores.Lawful st v.holds) {sc : Scope γ} {w : ω} (hsc : sc.Faithful v)
    (hw : v.tidy w) {b : Builtin} {m : Moment} {msg : Message} {args : List Char}
    {spec : CommandSpec} {registry : Registry Builtin} {c : Collection} {key : String}
    (hstored : (b.run st m msg args spec registry sc w).1.stored? = some (c, key)) :
    (b = c.keeper ∧
      ∃ row, ((v.rows (b.run st m msg args spec registry sc w).2.2.1.stored).of c).get? key =
        some row ∧ c.lists row) ∧
    ∀ (sc' : Scope γ) (w' : ω), sc'.Faithful v → v.tidy w' →
      (st.of c).WorksOn key (sc'.stored, w') →
      ∀ row, ((v.rows sc'.stored).of c).get? key = some row →
      ∀ (m' : Moment) (msg' : Message) (spec' : CommandSpec) (registry' : Registry Builtin),
        let run (args : String) := b.run st m' msg' args.toList spec' registry' sc' w'
        (c.lists row → ∀ mark member,
          IsListed (c.label mark key) ((run "list").1.text mark member)) ∧
        ∀ verb ∈ removalVerbs,
          (run (verb ++ " " ++ key)).1 = c.removed key ∧
            v.rows (run (verb ++ " " ++ key)).2.2.1.stored =
              (v.rows sc'.stored).put c (((v.rows sc'.stored).of c).erase key) := by
  obtain ⟨rfl, ⟨text, hkey⟩, hrow⟩ := stored_spec hst hsc hw hstored
  refine ⟨⟨rfl, hrow⟩, ?_⟩
  intro sc' w' hsc' hw' hworks row hrow m' msg' spec' registry'
  refine ⟨fun hlists mark member ↦ ?_, fun verb hverb ↦ ?_⟩
  · have hlist : (subcommand "list".toList).1 = "list" := by decide
    exact Collection.isListed_of_lists hst hsc' hw' hworks hrow m' msg' spec' registry' hlist
      hlists mark member
  · obtain ⟨hsub, hwords⟩ := subcommand_append hverb key
    rw [← hsub] at hverb
    exact Collection.removes_words hst hsc' hw' hworks hrow m' msg' spec' registry' hverb hwords
      hkey

/-- A rule for an action that ends in a final sigma. -/
def polisRule : PermissionRule := { action := "πολις Foo", rank := .admin }

/-- A guild that has this rule alone. -/
def polisHall : Scope (GuildRows Switched) where
  id := "hall"
  stored := ⟨{ rows := .ofRows [polisRule] }, {}, {}, {}⟩

/-- A rule whose action is typed in capitals, behind marks and with two spaces, is removed under the
action that is shown. -/
theorem Builtin.shown_row_can_be_removed_polis :
    let w : Switchboard := {}
    let m : Moment := { now := ⟨0⟩, today := { year := 2024, month := 5, day := 1 } }
    let ada : Invoker := { id := 1, name := "ada" }
    let msg : Message := { guild := "hall", channel := "general", invoker := ada, text := "" }
    let run (args : String) (sc : Scope (GuildRows Switched)) :=
      Builtin.perm.run Backend.switched.stores m msg args.toList { id := "perm" } ∅ sc w
    let hall : Scope (GuildRows Switched) := { id := "hall", stored := ⟨{}, {}, {}, {}⟩ }
    (run "set admin !!ΠΟΛΙΣ  Foo" hall).1 = .permissions (.requires polisRule) ∧
    (run "remove πολις Foo" polisHall).1 = .permissions (.removed "πολις Foo") ∧
    Backend.switchedView.rows (run "remove πολις Foo" polisHall).2.2.1.stored = ∅ := by
  intro w m ada msg run hall
  have hkeyed : GuildTables.IsKeyed ∅ :=
    ⟨Table.isKeyed_empty, Table.isKeyed_empty, Table.isKeyed_empty, Table.isKeyed_empty⟩
  have htidy : Backend.switchedView.tidy w := ⟨⟨rfl, rfl, rfl, rfl⟩, hkeyed⟩
  have hempty : hall.Faithful Backend.switchedView :=
    Scope.faithful_fresh ⟨rfl, rfl, rfl, rfl⟩ hkeyed
  have hpolis : polisHall.Faithful Backend.switchedView :=
    Scope.faithful_fresh ⟨rfl, rfl, rfl, rfl⟩
      ⟨Table.isKeyed_ofRows _, Table.isKeyed_empty, Table.isKeyed_empty, Table.isKeyed_empty⟩
  have hset : (run "set admin !!ΠΟΛΙΣ  Foo" hall).1 = .permissions (.requires polisRule) := by
    decide +kernel
  have hstored : (run "set admin !!ΠΟΛΙΣ  Foo" hall).1.stored? =
      some (.permissions, "πολις Foo") := by
    rw [hset]
    rfl
  have hworks : (Backend.switched.stores.of .permissions).WorksOn "πολις Foo"
      (polisHall.stored, w) := ⟨rfl, rfl⟩
  have hrow : (Backend.switchedView.rows polisHall.stored).permissions.get? "πολις Foo" =
      some polisRule := by decide +kernel
  obtain ⟨-, hlater⟩ := shown_row_can_be_removed Backend.lawful_switched.stores hempty htidy hstored
  obtain ⟨-, hremove⟩ := hlater polisHall w hpolis htidy hworks polisRule hrow m msg
    { id := "perm" } ∅
  obtain ⟨hanswer, hrows⟩ := hremove "remove" (by decide)
  exact ⟨hset, hanswer, hrows⟩

end Guildhall
