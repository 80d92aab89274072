import Guildhall.Bot.Session
import Guildhall.Proofs.ActionWords
import Guildhall.Proofs.FileBackend
import Guildhall.Proofs.Frame
import Guildhall.Proofs.GuildFile
import Guildhall.Proofs.Spelling

/-!
Default rules of new guilds. A guild without a file starts with the rules of the configuration, each
under its action as it is written there (`GuildFile.seeded_of_openIn`, `Directory.scope_of_new`). A
message is checked under the action that its words make, which are as many as those of the text
after the mark (`Request.length_words_of_ofText`). So a message that is the mark and the action of a
default rule is decided by that rule exactly if the rule's action is written as actions are
(`Session.default_rule_governs_iff`); a rule whose action is not holds for no message
(`Session.capital_rule_is_not_enforced`).
-/

set_option autoImplicit false

namespace Guildhall

open Text

/-! ### Opening a new guild -/

namespace GuildFile

/-- A guild that is opened for the first time has the default rules. -/
theorem seeded_of_openIn {fmt : RowFormat} {directory guild : String}
    {seed : List PermissionRule} {d : Disk} (hnew : d.entry? (pathFor directory guild) = none)
    {f : GuildFile} (hopen : (openIn fmt directory seed guild d).1 = .ok f) :
    f.rows = seeded seed := by
  rw [openIn_eq] at hopen
  have hspec := Disk.createDirectory?_spec directory d
  rcases hcreate : d.createDirectory? directory with _ | d₁
  · simp [hcreate] at hopen
  rw [hcreate] at hspec
  have hname := isOrdinary_fileName guild
  -- The way to the directory is made without touching what the file's name holds.
  have hheld : d₁.held directory (fileName guild) = none := by
    rw [pathFor, ← fileName, Disk.entry?_join directory d hname] at hnew
    rw [← hnew, Disk.held, Disk.held]
    exact hspec.2.2.2 _ fun hway ↦ not_isOwn_of_mem_ancestors hway (Or.inl rfl)
  have hread : ∃ fault, d₁.read (pathFor directory guild) = .error fault := by
    rw [pathFor, ← fileName, Disk.read_join directory d₁ hname, hheld]
    dsimp only
    split_ifs
    · exact ⟨_, rfl⟩
    · exact ⟨_, rfl⟩
  obtain ⟨fault, hfault⟩ := hread
  simp only [hcreate, openThere, hfault] at hopen
  cases fault with
  | unreadable => simp at hopen
  | absent =>
    rcases hsave : save fmt (pathFor directory guild) (seeded seed) d₁ with ⟨e | ⟨⟩, d₂⟩
    · simp [hsave] at hopen
    · simp only [hsave, Except.ok.injEq] at hopen
      rw [← hopen]

end GuildFile

/-- What a new scope reads of its guild's file leaves the file as it was. -/
theorem Scope.preload_files (fmt : RowFormat) (directory : String) (seed : List PermissionRule)
    (id : String) (serial : Nat) (stored : GuildFile) (events : Events) (d : Disk) :
    let fresh : Scope GuildFile := { id, serial, stored, events }
    let r := fresh.preload (Backend.files fmt directory seed).stores d
    r.1 = .ok () ∧ r.2.1.stored = stored ∧ r.2.2 = d :=
  ⟨rfl, rfl, rfl⟩

/-- A guild that is opened for the first time mirrors its stores, in full, and these hold the
default rules. -/
theorem Directory.scope_of_new {fmt : RowFormat} {directory guild : String}
    {seed : List PermissionRule} {dir : Directory GuildFile} {d : Disk}
    (hclosed : dir.scopes.get? guild = none)
    (hnew : d.entry? (GuildFile.pathFor directory guild) = none) {sc : Scope GuildFile}
    {dir' : Directory GuildFile} {d' : Disk}
    (hscope : dir.scope (Backend.files fmt directory seed) guild d = (.ok sc, dir', d')) :
    sc.Faithful (GuildFile.view fun _ ↦ True) ∧ sc.IsFull ∧
      sc.stored.rows = GuildFile.seeded seed := by
  simp only [Directory.scope, hclosed] at hscope
  rcases hopen : (Backend.files fmt directory seed).openGuild guild d with ⟨fault | stored, d₁⟩
  · simp [hopen] at hscope
  have hstored : stored.rows = GuildFile.seeded seed :=
    GuildFile.seeded_of_openIn hnew (congrArg Prod.fst hopen)
  simp only [hopen] at hscope
  have hpreload := Scope.preload_files fmt directory seed guild dir.opened stored dir.events d₁
  generalize hfresh : ({ id := guild, serial := dir.opened, stored, events := dir.events } :
    Scope GuildFile) = fresh at hscope hpreload
  have hkeyed : stored.rows.IsKeyed := by
    rw [hstored]
    exact GuildFile.isKeyed_seeded seed
  have hfaithful : fresh.Faithful (GuildFile.view fun _ ↦ True) :=
    hfresh ▸ Scope.faithful_fresh hkeyed hkeyed
  have hworld : d₁.Keeps fun _ ↦ True := fun _ _ _ ↦ trivial
  have hevolves := Scope.evolves_preload (Backend.files fmt directory seed).stores fresh d₁
  obtain ⟨⟨hsc, -⟩, -⟩ :=
    hevolves.faithful (GuildFile.lawful_stores (fun _ _ _ _ ↦ trivial) directory seed) hfaithful
      hworld
  obtain ⟨hread, hkept, -⟩ := hpreload
  have hfull := Scope.isFull_of_preload hread
  rcases hresult : fresh.preload (Backend.files fmt directory seed).stores d₁ with
    ⟨e | ⟨⟩, sc₁, d₂⟩
  · simp [hresult] at hscope
  rw [hresult] at hsc hkept hfull
  simp only [hresult, Prod.mk.injEq, Except.ok.injEq] at hscope
  obtain ⟨rfl, -⟩ := hscope
  exact ⟨hsc, hfull, (congrArg GuildFile.rows hkept).trans hstored⟩

/-! ### The words of a message -/

/-- A command has one word more than its arguments, however the words are written. -/
theorem Request.length_words_of_ofText {mark text token args : List Char} (hne : mark ≠ [])
    (hmark : ∀ c ∈ mark.head?, isBlank c = false)
    (hcommand : Request.ofText mark (mark ++ text) = .command token args) :
    (words text).length = (words args).length + 1 := by
  obtain ⟨body, hafter, hlast, hbody⟩ := Request.ofText_eq_command hcommand
  obtain ⟨-, rfl, hfirst⟩ := Request.ofBody_eq_command hlast hbody
  have hstart : trimStart (mark ++ text) = mark ++ text := by
    refine trimStart_eq_self fun c hc ↦ hmark c ?_
    rwa [List.head?_append_of_ne_nil _ hne] at hc
  have htrimmed : trimEnd (mark ++ text) = mark ++ body := by
    rw [← hstart]
    exact after?_eq_some hafter
  obtain ⟨blanks, hblanks, hsplit⟩ := exists_eq_trimEnd_append (mark ++ text)
  rw [htrimmed, List.append_assoc, List.append_cancel_left_eq] at hsplit
  rw [hsplit, words_append_blanks body hblanks, words_eq body, if_neg hfirst, List.length_cons]

/-! ### Default rules -/

/-- The mark of a configuration that is accepted is not empty. -/
theorem Config.mark_ne_nil_of_parse {yaml : String} {config : Config}
    (hparse : Config.parse yaml = .ok config) : config.mark.toList ≠ [] := by
  intro hempty
  simp only [Config.parse] at hparse
  split at hparse
  · cases hparse
  · rename_i c hdecoded
    split_ifs at hparse with hblank
    obtain rfl := Except.ok.inj hparse
    simp [hempty] at hblank

/-- The rule that governs an action in a policy whose rows are all known. -/
theorem Scope.resolvePermission_of_full {γ ω : Type} {v : GuildView γ ω} {sc : Scope γ} {w : ω}
    (st : GuildStores (γ × ω)) (hsc : sc.Faithful v) (hfull : sc.IsFull) (action : String) :
    (sc.onPolicy (·.resolvePermission st.rules action ·) w).1 =
      ((v.rows sc.stored).permissions.governing? action).getD (.unrestricted action) := by
  have hpolicy := ((Scope.isFull_iff sc).mp hfull).1
  have hresolve := hsc.permissions.resolve_eq_of_full hpolicy.1 st.permissions action (sc.stored, w)
  have hfound := Policy.resolvePermission_fst st.rules sc.policy (sc.stored, w) action
  have hrules : st.rules.permissions = st.permissions := rfl
  rw [hrules, hresolve] at hfound
  exact hfound

/-- A row governs its own action. -/
theorem Table.governing?_self {V : Type} {t : Table String V} {action : String} {row : V}
    (hrow : t.get? action = some row) : t.governing? action = some row := by
  refine governing?_eq_some_iff.mpr ⟨action, hrow, Or.inl rfl, fun key _ _ hgoverns ↦ ?_⟩
  rw [← String.length_toList, ← String.length_toList]
  exact hgoverns.isPrefix_toList.length_le

/-- The last of the rules with one action is the rule of an action of as many words exactly if the
two actions are the same. -/
theorem Table.governing?_ofRows_iff {rules : List PermissionRule} {rule : PermissionRule}
    (hlast : rules.reverse.find? (·.action = rule.action) = some rule) {token : List Char}
    (hne : token ≠ []) (htoken : ∀ c ∈ token, isBlank c = false) {ws : List (List Char)}
    (hws : ∀ word ∈ ws, word ≠ [] ∧ ∀ c ∈ word, isBlank c = false)
    (hlength : (words rule.action.toList).length = ws.length + 1) :
    ((Table.ofRows rules).governing? (actionOf token ws)).getD
        (.unrestricted (actionOf token ws)) = rule ↔ actionOf token ws = rule.action := by
  have hrule : (Table.ofRows rules).get? rule.action = some rule := by
    rw [get?_ofRows]
    exact hlast
  constructor
  · intro hdefault
    cases hgoverning : (Table.ofRows rules).governing? (actionOf token ws) with
    | none =>
      rw [hgoverning] at hdefault
      exact congrArg PermissionRule.action hdefault
    | some governing =>
      rw [hgoverning, Option.getD_some] at hdefault
      subst hdefault
      obtain ⟨key, hkey, hgoverns, -⟩ := governing?_eq_some_iff.mp hgoverning
      obtain rfl : governing.action = key := isKeyed_ofRows _ key governing hkey
      exact (eq_of_governs_actionOf hne htoken hws hgoverns hlength).symm
  · intro hsame
    rw [hsame, governing?_self hrule, Option.getD_some]

namespace Session

/-- The mark and the action of a default rule, said first of all in a guild without a file, are
decided by the rule that is found for the action that they are checked under, and that is the
default rule exactly if the two actions are the same. -/
theorem default_rule_governs_iff {yaml : String} {session : Session}
    (hparse : Config.parse yaml = .ok session.config)
    (hmark : ∀ c ∈ session.config.mark.toList.head?, isBlank c = false) (rule : PermissionRule)
    (hlast : session.config.defaultPermissions.reverse.find? (·.action = rule.action) = some rule)
    {msg : Message} (htext : msg.text = session.config.mark ++ rule.action)
    {s : BotState GuildFile Disk} (hclosed : s.directory.scopes.get? msg.guild = none)
    (hnew : s.world.entry? (GuildFile.pathFor session.directory msg.guild) = none)
    {cp : Checkpoint GuildFile Disk} (hcheckpoint : session.bot.checkpoint? msg s = some cp) :
    let found := (cp.scope.onPolicy
      (·.resolvePermission session.bot.backend.stores.rules cp.action ·) cp.world).1
    (∀ m, (session.bot.handle m msg s).1.map (·.1) = .ok .denied ↔
        found.grants (session.bot.rankOf msg.invoker) msg.invoker = false) ∧
      (found = rule ↔ cp.action = rule.action) := by
  obtain ⟨token, sc, d, w, hrequest, hscope, htarget, haction⟩ :=
    Bot.checkpoint?_eq_some hcheckpoint
  obtain ⟨hsc, hfull, hrows⟩ := Directory.scope_of_new hclosed hnew hscope
  have hsame : cp.scope = sc := by
    have hkept := session.bot.target_of_full hsc hfull (String.ofList token) s.registry w
    rw [htarget] at hkept
    exact congrArg Prod.fst hkept
  subst hsame
  intro found
  have hfound : found = (cp.scope.stored.rows.permissions.governing? cp.action).getD
      (.unrestricted cp.action) :=
    Scope.resolvePermission_of_full session.bot.backend.stores hsc hfull cp.action
  constructor
  · intro m
    simp only [Bot.handle_denied_iff, hcheckpoint, Option.some.injEq, exists_eq_left']
    rw [hfound]
    exact Bot.pass_denied_iff session.bot m msg s.registry cp hsc hfull fun _ _ _ ↦ trivial
  · have hstored : cp.scope.stored.rows.permissions =
        Table.ofRows session.config.defaultPermissions := congrArg (·.permissions) hrows
    rw [htext, String.toList_append] at hrequest
    obtain ⟨hne, hword⟩ := Request.token_of_ofText hrequest
    rw [hfound, hstored, haction, ofList_actionString]
    exact Table.governing?_ofRows_iff hlast hne hword (fun _ ↦ isWord_of_mem_words)
      (Request.length_words_of_ofText (Config.mark_ne_nil_of_parse hparse) hmark hrequest)

/-- A session before its first message, with a rule by which only owners may run an action. -/
def withRule (action : String) : Session where
  config := { defaultPermissions := [{ action, rank := .owner }] }
  directory := "guilds"
  console := { guild := "hall", speaker := 3, speakerName := "guest" }
  state := {
    directory := {}
    registry := (∅ : Registry Builtin).register Builtin.ping.spec .ping
    world := {} }

theorem default_rule_governs_iff_ping :
    let session := withRule "ping"
    ∃ cp, session.bot.checkpoint? (saying "!ping") session.state = some cp ∧
      (cp.scope.onPolicy (·.resolvePermission session.bot.backend.stores.rules cp.action ·)
        cp.world).1 = { action := "ping", rank := .owner } := by
  intro session
  have hparse : Config.parse "default_permissions:\n- action: ping\n  required_rank: owner\n" =
      .ok session.config := by decide +kernel
  have hcalled : (session.bot.checkpoint? (saying "!ping") session.state).map (·.action) =
      some "ping" := by decide +kernel
  obtain ⟨cp, hcheckpoint, haction⟩ := Option.map_eq_some_iff.mp hcalled
  have hmark : ∀ c ∈ session.config.mark.toList.head?, isBlank c = false := by
    intro c hc
    have hhead : session.config.mark.toList.head? = some '!' := by decide
    obtain rfl : '!' = c := Option.some.inj (hhead.symm.trans hc)
    decide
  have hdefault := default_rule_governs_iff hparse hmark
    { action := "ping", rank := .owner } rfl rfl rfl (by decide +kernel) hcheckpoint
  exact ⟨cp, hcheckpoint, hdefault.2.mpr haction⟩

/-- A default rule whose action begins with a capital is not the rule of the message that is the
mark and its action: everyone may run the command. -/
theorem capital_rule_is_not_enforced :
    let session := withRule "Ping"
    Config.parse "default_permissions:\n- action: Ping\n  required_rank: owner\n" =
        .ok session.config ∧
      (session.bot.checkpoint? (saying "!Ping") session.state).map (·.action) = some "ping" ∧
      (session.bot.handle { now := ⟨0⟩, today := default } (saying "!Ping")
        session.state).1.map (·.1) = .ok (.builtin "ping") := by
  decide +kernel

end Session

end Guildhall
