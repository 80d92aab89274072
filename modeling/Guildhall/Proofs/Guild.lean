import Guildhall.Guild.Directory
import Guildhall.Proofs.Policy

/-!
Guilds over stores that fail. Everything that is done in an open guild is made of calls of its four
caches and of changes to its events and its patterns (`Scope.Evolves`); such steps leave a scope
that mirrors its stores, and full where it was full (`Scope.Evolves.faithful`). A guild is opened
only if every row could be read (`Directory.faithful_scope`), so that in an open guild nothing has
to be read any more. What every guild has from its opening on and every step keeps
(`Backend.Maintains`) is had by every open guild (`Directory.All`).
-/

set_option autoImplicit false

namespace Guildhall

variable {γ ω : Type}

/-! ### Lawful guilds -/

/-- Each of the four stores keeps its rows and touches none of the others'. -/
structure GuildStores.Lawful {σ : Type} (st : GuildStores σ) (holds : σ → GuildTables → Prop) :
    Prop where
  permissions : ∀ rows : GuildTables,
    st.permissions.Lawful fun s t ↦ holds s { rows with permissions := t }
  cooldowns : ∀ rows : GuildTables,
    st.cooldowns.Lawful fun s t ↦ holds s { rows with cooldowns := t }
  commands : ∀ rows : GuildTables,
    st.commands.Lawful fun s t ↦ holds s { rows with commands := t }
  keywords : ∀ rows : GuildTables,
    st.keywords.Lawful fun s t ↦ holds s { rows with keywords := t }

/-- Every row of every collection stands under its own key. -/
structure GuildTables.IsKeyed (rows : GuildTables) : Prop where
  permissions : rows.permissions.IsKeyed
  cooldowns : rows.cooldowns.IsKeyed
  commands : rows.commands.IsKeyed
  keywords : rows.keywords.IsKeyed

/-- How the rows of a guild are read off what its stores hold, what a guild's stores may hold, and
what guilds may share. -/
structure GuildView (γ ω : Type) where
  rows : γ → GuildTables
  sound : γ → Prop
  tidy : ω → Prop

def GuildView.holds (v : GuildView γ ω) (s : γ × ω) (rows : GuildTables) : Prop :=
  v.sound s.1 ∧ v.tidy s.2 ∧ v.rows s.1 = rows

/-- The stores of a backend keep their rows, and a guild that can be opened has its rows under
their own keys. -/
structure Backend.Lawful (b : Backend γ ω) (v : GuildView γ ω) : Prop where
  stores : GuildStores.Lawful b.stores v.holds
  opens : ∀ guild {w}, v.tidy w →
    match b.openGuild guild w with
    | (.ok stored, w') => v.tidy w' ∧ v.sound stored ∧ (v.rows stored).IsKeyed
    | (.error _, w') => v.tidy w'

theorem GuildStores.Lawful.rules {σ : Type} {st : GuildStores σ}
    {holds : σ → GuildTables → Prop} (hst : GuildStores.Lawful st holds) (rows : GuildTables) :
    st.rules.Lawful fun s r ↦
      holds s { rows with permissions := r.permissions, cooldowns := r.cooldowns } where
  permissions r := hst.permissions { rows with cooldowns := r.cooldowns }
  cooldowns r := hst.cooldowns { rows with permissions := r.permissions }

namespace Backend

/-- The rows of a guild behind switches. No row has an alias, here and in the guilds to come, whose
rows stand under their own keys. -/
def switchedView : GuildView (GuildRows Switched) Switchboard where
  rows s := ⟨s.permissions.rows, s.cooldowns.rows, s.commands.rows, s.keywords.rows⟩
  sound s := s.permissions.aliases = [] ∧ s.cooldowns.aliases = [] ∧ s.commands.aliases = [] ∧
    s.keywords.aliases = []
  tidy w := (w.seed.permissions.aliases = [] ∧ w.seed.cooldowns.aliases = [] ∧
    w.seed.commands.aliases = [] ∧ w.seed.keywords.aliases = []) ∧
    GuildTables.IsKeyed
      ⟨w.seed.permissions.rows, w.seed.cooldowns.rows, w.seed.commands.rows, w.seed.keywords.rows⟩

theorem lawful_switched : switched.Lawful switchedView where
  stores := {
    permissions := fun rows ↦ by
      dsimp only [switched]
      refine RowStore.lawful_switched.within _ _ ?_ ?_
      · rintro s t ⟨hsound, -, hrows⟩
        exact ⟨hsound.1, congrArg (·.permissions) hrows⟩
      · rintro s t r _ ⟨hsound, htidy, hrows⟩ ⟨haliases, rfl⟩
        refine ⟨⟨haliases, hsound.2⟩, htidy, ?_⟩
        exact congrArg (fun rows : GuildTables ↦ { rows with permissions := r.1.rows }) hrows
    cooldowns := fun rows ↦ by
      dsimp only [switched]
      refine RowStore.lawful_switched.within _ _ ?_ ?_
      · rintro s t ⟨hsound, -, hrows⟩
        exact ⟨hsound.2.1, congrArg (·.cooldowns) hrows⟩
      · rintro s t r _ ⟨hsound, htidy, hrows⟩ ⟨haliases, rfl⟩
        refine ⟨⟨hsound.1, haliases, hsound.2.2⟩, htidy, ?_⟩
        exact congrArg (fun rows : GuildTables ↦ { rows with cooldowns := r.1.rows }) hrows
    commands := fun rows ↦ by
      dsimp only [switched]
      refine RowStore.lawful_switched.within _ _ ?_ ?_
      · rintro s t ⟨hsound, -, hrows⟩
        exact ⟨hsound.2.2.1, congrArg (·.commands) hrows⟩
      · rintro s t r _ ⟨hsound, htidy, hrows⟩ ⟨haliases, rfl⟩
        refine ⟨⟨hsound.1, hsound.2.1, haliases, hsound.2.2.2⟩, htidy, ?_⟩
        exact congrArg (fun rows : GuildTables ↦ { rows with commands := r.1.rows }) hrows
    keywords := fun rows ↦ by
      dsimp only [switched]
      refine RowStore.lawful_switched.within _ _ ?_ ?_
      · rintro s t ⟨hsound, -, hrows⟩
        exact ⟨hsound.2.2.2, congrArg (·.keywords) hrows⟩
      · rintro s t r _ ⟨hsound, htidy, hrows⟩ ⟨haliases, rfl⟩
        refine ⟨⟨hsound.1, hsound.2.1, hsound.2.2.1, haliases⟩, htidy, ?_⟩
        exact congrArg (fun rows : GuildTables ↦ { rows with keywords := r.1.rows }) hrows }
  opens guild w hw := by
    simp only [switched]
    cases w.openFails with
    | true => exact hw
    | false => exact ⟨hw, hw.1, hw.2⟩

end Backend

namespace Scope

/-! ### What is done in a guild -/

/-- The scope and the world after the guild's rules have changed. -/
def withPolicy (sc : Scope γ) (a : Policy × γ × ω) : Scope γ × ω :=
  ({ sc with policy := a.1, stored := a.2.1 }, a.2.2)

/-- One call of one cache, or a change to the events or the patterns. -/
inductive Step (st : GuildStores (γ × ω)) : Scope γ × ω → Scope γ × ω → Prop
  | policy (sc : Scope γ) {a b : Policy × γ × ω} (hstep : Policy.Step st.rules a b) :
    Step st (sc.withPolicy a) (sc.withPolicy b)
  | commands (call : CacheCall CustomCommand) (hcall : call.Keeps) (sc : Scope γ)
    (w : ω) : Step st (sc, w) (sc.onCommands (call.run st.commands) w).2
  | keywords (call : CacheCall Keyword) (hcall : call.Keeps) (sc : Scope γ) (w : ω) :
    Step st (sc, w) (sc.onKeywords (call.run st.keywords) w).2
  | events (events : Events) (sc : Scope γ) (w : ω) : Step st (sc, w) ({ sc with events }, w)
  | patterns (patterns : PatternCache) (sc : Scope γ) (w : ω) :
    Step st (sc, w) ({ sc with patterns }, w)

/-- Steps, one after the other. -/
def Evolves (st : GuildStores (γ × ω)) : Scope γ × ω → Scope γ × ω → Prop :=
  Relation.ReflTransGen (Step st)

section Operations

variable (st : GuildStores (γ × ω)) (sc : Scope γ) (w : ω)

/-- What is done to the rules is done in the guild. -/
theorem evolves_onPolicy {α : Type} {run : Policy → γ × ω → α × Policy × (γ × ω)}
    (hrun : Policy.Evolves st.rules (sc.policy, sc.stored, w) (run sc.policy (sc.stored, w)).2) :
    Evolves st (sc, w) (sc.onPolicy run w).2 :=
  hrun.lift sc.withPolicy fun _ _ hstep ↦ .policy sc hstep

theorem evolves_onCommands (call : CacheCall CustomCommand) (hcall : call.Keeps) :
    Evolves st (sc, w) (sc.onCommands (call.run st.commands) w).2 :=
  .single (.commands call hcall sc w)

theorem evolves_onKeywords (call : CacheCall Keyword) (hcall : call.Keeps) :
    Evolves st (sc, w) (sc.onKeywords (call.run st.keywords) w).2 :=
  .single (.keywords call hcall sc w)

theorem evolves_onEvents {α : Type} (run : Events → α × Events) :
    Evolves st (sc, w) (sc.onEvents run w).2 :=
  .single (.events (run sc.events).2 sc w)

theorem evolves_preload : Evolves st (sc, w) (sc.preload st w).2 := by
  have hpolicy := evolves_onPolicy st sc w
    (Policy.evolves_preload st.rules sc.policy (sc.stored, w))
  simp only [preload]
  rcases hfirst : sc.onPolicy (·.preload st.rules ·) w with ⟨e | ⟨⟩, sc₁, w₁⟩
  · rwa [hfirst] at hpolicy
  rw [hfirst] at hpolicy
  have hcommands := evolves_onCommands st sc₁ w₁ .listAll trivial
  have hread : (sc₁.onCommands (CacheCall.listAll.run st.commands) w₁).2 =
      (sc₁.onCommands (·.listAll st.commands ·) w₁).2 := rfl
  rw [hread] at hcommands
  dsimp only
  rcases hsecond : sc₁.onCommands (·.listAll st.commands ·) w₁ with ⟨e | rows, sc₂, w₂⟩
  · rw [hsecond] at hcommands
    exact hpolicy.trans hcommands
  rw [hsecond] at hcommands
  have hkeywords := evolves_onKeywords st sc₂ w₂ .listAll trivial
  have hread' : (sc₂.onKeywords (CacheCall.listAll.run st.keywords) w₂).2 =
      (sc₂.onKeywords (·.listAll st.keywords ·) w₂).2 := rfl
  rw [hread'] at hkeywords
  dsimp only
  rcases hthird : sc₂.onKeywords (·.listAll st.keywords ·) w₂ with ⟨e | rows, sc₃, w₃⟩
  · rw [hthird] at hkeywords
    exact (hpolicy.trans hcommands).trans hkeywords
  · rw [hthird] at hkeywords
    exact (hpolicy.trans hcommands).trans hkeywords

theorem evolves_customCommand (name : String) :
    Evolves st (sc, w) (sc.customCommand st name w).2 := by
  simp only [customCommand, Cache.findCommand]
  generalize String.ofList (Text.toLower name.toList) = key
  have hget := evolves_onCommands st sc w (.get key) trivial
  have hsame : (sc.onCommands (·.find st.commands key ·) w).2 =
      (sc.onCommands (CacheCall.run st.commands (.get key)) w).2 := by
    simp only [onCommands, Cache.find, CacheCall.run]
    rcases sc.commands.get st.commands key (sc.stored, w) with ⟨e | found, c, s⟩ <;> rfl
  rw [hsame]
  exact hget

theorem evolves_matchingKeyword (text : String) :
    Evolves st (sc, w) (sc.matchingKeyword st text w).2 := by
  have hlist := evolves_onKeywords st sc w .listAll trivial
  have hread : (sc.onKeywords (CacheCall.listAll.run st.keywords) w).2 =
      (sc.onKeywords (·.listAll st.keywords ·) w).2 := rfl
  rw [hread] at hlist
  simp only [matchingKeyword]
  rcases hfirst : sc.onKeywords (·.listAll st.keywords ·) w with ⟨e | keywords, sc₁, w₁⟩
  · rwa [hfirst] at hlist
  · rw [hfirst] at hlist
    exact hlist.tail (.patterns (sc₁.patterns.firstMatch keywords text).2 sc₁ w₁)

end Operations

/-! ### Faithful scopes -/

/-- A scope whose caches mirror the rows that its stores hold. -/
structure Faithful (v : GuildView γ ω) (sc : Scope γ) : Prop where
  sound : v.sound sc.stored
  keyed : (v.rows sc.stored).IsKeyed
  permissions : sc.policy.permissions.Mirrors (v.rows sc.stored).permissions
  cooldowns : sc.policy.cooldowns.Mirrors (v.rows sc.stored).cooldowns
  commands : sc.commands.Mirrors (v.rows sc.stored).commands
  keywords : sc.keywords.Mirrors (v.rows sc.stored).keywords

/-- Every cache is full. -/
def IsFull (sc : Scope γ) : Prop := ∀ state ∈ sc.states, state = .full

theorem isFull_iff (sc : Scope γ) :
    sc.IsFull ↔ sc.policy.IsFull ∧ sc.commands.state = .full ∧ sc.keywords.state = .full := by
  simp [IsFull, states, Policy.IsFull, and_assoc]

section Faithful

variable {v : GuildView γ ω} {st : GuildStores (γ × ω)} {sc : Scope γ} {w : ω}

/-- The rules of a faithful scope reflect the rows of its rules. -/
theorem Faithful.policy (hsc : sc.Faithful v) (hw : v.tidy w) :
    sc.policy.Reflects
      (fun s r ↦ v.holds s { v.rows sc.stored with
        permissions := r.permissions, cooldowns := r.cooldowns })
      (sc.stored, w)
      ⟨(v.rows sc.stored).permissions, (v.rows sc.stored).cooldowns⟩ where
  permissions := ⟨hsc.permissions, ⟨hsc.sound, hw, rfl⟩, hsc.keyed.permissions⟩
  cooldowns := ⟨hsc.cooldowns, ⟨hsc.sound, hw, rfl⟩, hsc.keyed.cooldowns⟩

theorem Faithful.reflectsCommands (hsc : sc.Faithful v) (hw : v.tidy w) :
    sc.commands.Reflects (fun s t ↦ v.holds s { v.rows sc.stored with commands := t })
      (sc.stored, w) (v.rows sc.stored).commands :=
  ⟨hsc.commands, ⟨hsc.sound, hw, rfl⟩, hsc.keyed.commands⟩

theorem Faithful.reflectsKeywords (hsc : sc.Faithful v) (hw : v.tidy w) :
    sc.keywords.Reflects (fun s t ↦ v.holds s { v.rows sc.stored with keywords := t })
      (sc.stored, w) (v.rows sc.stored).keywords :=
  ⟨hsc.keywords, ⟨hsc.sound, hw, rfl⟩, hsc.keyed.keywords⟩

/-- A scope is faithful if its caches mirror the rows that its stores are known to hold. -/
theorem faithful_of_rows {rows : GuildTables} (hholds : v.holds (sc.stored, w) rows)
    (hkeyed : rows.IsKeyed) (hpermissions : sc.policy.permissions.Mirrors rows.permissions)
    (hcooldowns : sc.policy.cooldowns.Mirrors rows.cooldowns)
    (hcommands : sc.commands.Mirrors rows.commands)
    (hkeywords : sc.keywords.Mirrors rows.keywords) : sc.Faithful v ∧ v.tidy w := by
  obtain ⟨hsound, hw, rfl⟩ := hholds
  exact ⟨⟨hsound, hkeyed, hpermissions, hcooldowns, hcommands, hkeywords⟩, hw⟩

/-- One step leaves a faithful scope, and a full one where it was full. -/
theorem Step.faithful (hst : GuildStores.Lawful st v.holds) {a b : Scope γ × ω}
    (hstep : Step st a b) (ha : a.1.Faithful v) (hw : v.tidy a.2) :
    (b.1.Faithful v ∧ v.tidy b.2) ∧ (a.1.IsFull → b.1.IsFull) := by
  simp only [isFull_iff]
  cases hstep with
  | policy sc hstep =>
    rename_i a b
    have hrules := hst.rules (v.rows a.2.1)
    obtain ⟨rows, hreflects, hfull⟩ := hstep.reflects hrules (ha.policy hw)
    refine ⟨faithful_of_rows hreflects.permissions.holds ?_ hreflects.permissions.mirrors
      hreflects.cooldowns.mirrors ha.commands ha.keywords, fun h ↦ ⟨hfull h.1, h.2⟩⟩
    exact ⟨hreflects.permissions.keyed, hreflects.cooldowns.keyed, ha.keyed.commands,
      ha.keyed.keywords⟩
  | commands call hcall sc w =>
    have hreflects := ha.reflectsCommands hw
    have hlawful := hst.commands (v.rows sc.stored)
    have hrun := CacheCall.reflects_run hlawful hreflects call
    refine ⟨faithful_of_rows hrun.holds ?_ ha.permissions ha.cooldowns hrun.mirrors ha.keywords,
      fun h ↦ ⟨h.1, CacheCall.state_run_of_full hlawful hreflects call hcall h.2.1, h.2.2⟩⟩
    exact ⟨ha.keyed.permissions, ha.keyed.cooldowns, hrun.keyed, ha.keyed.keywords⟩
  | keywords call hcall sc w =>
    have hreflects := ha.reflectsKeywords hw
    have hlawful := hst.keywords (v.rows sc.stored)
    have hrun := CacheCall.reflects_run hlawful hreflects call
    refine ⟨faithful_of_rows hrun.holds ?_ ha.permissions ha.cooldowns ha.commands hrun.mirrors,
      fun h ↦ ⟨h.1, h.2.1, CacheCall.state_run_of_full hlawful hreflects call hcall h.2.2⟩⟩
    exact ⟨ha.keyed.permissions, ha.keyed.cooldowns, ha.keyed.commands, hrun.keyed⟩
  | events events sc w =>
    refine ⟨⟨?_, hw⟩, fun h ↦ h⟩
    exact ⟨ha.sound, ha.keyed, ha.permissions, ha.cooldowns, ha.commands, ha.keywords⟩
  | patterns patterns sc w =>
    refine ⟨⟨?_, hw⟩, fun h ↦ h⟩
    exact ⟨ha.sound, ha.keyed, ha.permissions, ha.cooldowns, ha.commands, ha.keywords⟩

/-- Any steps leave a faithful scope, and a full one where it was full. -/
theorem Evolves.faithful (hst : GuildStores.Lawful st v.holds) {a b : Scope γ × ω}
    (hevolves : Evolves st a b) (ha : a.1.Faithful v) (hw : v.tidy a.2) :
    (b.1.Faithful v ∧ v.tidy b.2) ∧ (a.1.IsFull → b.1.IsFull) := by
  induction hevolves with
  | refl => exact ⟨⟨ha, hw⟩, fun h ↦ h⟩
  | tail _ hstep ih =>
    obtain ⟨⟨hmiddle, hwmiddle⟩, hfull⟩ := ih
    obtain ⟨hlast, hfull'⟩ := hstep.faithful hst hmiddle hwmiddle
    exact ⟨hlast, hfull' ∘ hfull⟩

end Faithful

/-! ### Opening a guild -/

theorem faithful_fresh {v : GuildView γ ω} {guild : String} {serial : Nat} {stored : γ}
    {events : Events} (hsound : v.sound stored) (hkeyed : (v.rows stored).IsKeyed) :
    ({ id := guild, serial, stored, events } : Scope γ).Faithful v where
  sound := hsound
  keyed := hkeyed
  permissions := Cache.mirrors_fresh _ _
  cooldowns := Cache.mirrors_fresh _ _
  commands := Cache.mirrors_fresh _ _
  keywords := Cache.mirrors_fresh _ _

/-- Where every row could be read, every cache is full. -/
theorem isFull_of_preload {st : GuildStores (γ × ω)} {sc : Scope γ} {w : ω}
    (hpreload : (sc.preload st w).1 = .ok ()) : (sc.preload st w).2.1.IsFull := by
  rw [isFull_iff]
  simp only [preload] at hpreload ⊢
  rcases hfirst : sc.onPolicy (·.preload st.rules ·) w with ⟨e | ⟨⟩, sc₁, w₁⟩
  · simp [hfirst] at hpreload
  simp only [hfirst] at hpreload ⊢
  simp only [onPolicy, Prod.mk.injEq] at hfirst
  rcases hsecond : sc₁.onCommands (·.listAll st.commands ·) w₁ with ⟨e | rows, sc₂, w₂⟩
  · simp [hsecond] at hpreload
  simp only [hsecond] at hpreload ⊢
  simp only [onCommands, Prod.mk.injEq] at hsecond
  rcases hthird : sc₂.onKeywords (·.listAll st.keywords ·) w₂ with ⟨e | rows, sc₃, w₃⟩
  · simp [hthird] at hpreload
  simp only [onKeywords, Prod.mk.injEq] at hthird
  obtain ⟨hok₁, rfl, -⟩ := hfirst
  obtain ⟨hok₂, rfl, -⟩ := hsecond
  obtain ⟨hok₃, rfl, -⟩ := hthird
  exact ⟨Policy.isFull_of_preload hok₁, Cache.state_of_listAll hok₂,
    Cache.state_of_listAll hok₃⟩

end Scope

/-! ### What open guilds have in common -/

/-- A property that every guild has once it has been opened and that every step in it keeps, as
long as what guilds share is tidy. -/
structure Backend.Maintains (b : Backend γ ω) (v : GuildView γ ω) (P : Scope γ → Prop) : Prop where
  opens : ∀ guild serial events {w}, v.tidy w →
    match b.openGuild guild w with
    | (.ok stored, w') =>
      let r := ({ id := guild, serial, stored, events } : Scope γ).preload b.stores w'
      (r.1 = .ok () → P r.2.1) ∧ v.tidy r.2.2
    | (.error _, w') => v.tidy w'
  step : ∀ {a a' : Scope γ × ω}, Scope.Step b.stores a a' → P a.1 → v.tidy a.2 →
    P a'.1 ∧ v.tidy a'.2

theorem Backend.Maintains.evolves {b : Backend γ ω} {v : GuildView γ ω} {P : Scope γ → Prop}
    (hb : b.Maintains v P) {a a' : Scope γ × ω} (hevolves : Scope.Evolves b.stores a a')
    (ha : P a.1) (hw : v.tidy a.2) : P a'.1 ∧ v.tidy a'.2 := by
  induction hevolves with
  | refl => exact ⟨ha, hw⟩
  | tail _ hstep ih => exact hb.step hstep ih.1 ih.2

/-- Guilds mirror their stores, in full, from their opening on. -/
theorem Backend.Lawful.maintains {b : Backend γ ω} {v : GuildView γ ω} (hb : b.Lawful v) :
    b.Maintains v fun sc ↦ sc.Faithful v ∧ sc.IsFull where
  opens guild serial events w hw := by
    have hopens := hb.opens guild hw
    generalize b.openGuild guild w = opened at hopens ⊢
    rcases opened with ⟨fault | stored, w₁⟩
    · exact hopens
    · obtain ⟨hw₁, hsound, hkeyed⟩ := hopens
      have hfresh : ({ id := guild, serial, stored, events } : Scope γ).Faithful v :=
        Scope.faithful_fresh hsound hkeyed
      obtain ⟨⟨hsc, hw₂⟩, -⟩ :=
        (Scope.evolves_preload b.stores _ w₁).faithful hb.stores hfresh hw₁
      exact ⟨fun hpreload ↦ ⟨hsc, Scope.isFull_of_preload hpreload⟩, hw₂⟩
  step hstep ha hw := by
    obtain ⟨⟨hsc, hw'⟩, hfull⟩ := hstep.faithful hb.stores ha.1 hw
    exact ⟨⟨hsc, hfull ha.2⟩, hw'⟩

namespace Directory

/-- Every open guild has the property. -/
def All (P : Scope γ → Prop) (d : Directory γ) : Prop :=
  ∀ guild sc, d.scopes.get? guild = some sc → P sc

/-- Every open guild mirrors its stores, in full. -/
def Faithful (v : GuildView γ ω) (d : Directory γ) : Prop :=
  ∀ guild sc, d.scopes.get? guild = some sc → sc.Faithful v ∧ sc.IsFull

theorem all_empty (P : Scope γ → Prop) (events : Events) : ({ events } : Directory γ).All P :=
  fun guild sc hsc ↦ by simp at hsc

theorem faithful_empty (v : GuildView γ ω) (events : Events) :
    ({ events } : Directory γ).Faithful v := all_empty _ events

section All

variable {b : Backend γ ω} {v : GuildView γ ω} {P : Scope γ → Prop} {d : Directory γ} {w : ω}

theorem All.insert (hd : d.All P) (guild : String) {sc : Scope γ} (hsc : P sc) (opened : Nat) :
    ({ d with scopes := d.scopes.insert guild sc, opened } : Directory γ).All P := by
  intro guild' sc' hsc'
  rw [Table.get?_insert] at hsc'
  split_ifs at hsc'
  · rwa [← Option.some.inj hsc']
  · exact hd guild' sc' hsc'

theorem All.teardown (hd : d.All P) (guild : String) : (d.teardown guild).2.All P := by
  intro guild' sc' hsc'
  simp only [Directory.teardown, Table.get?_erase] at hsc'
  split_ifs at hsc'
  exact hd guild' sc' hsc'

/-- A guild that is open, or could be opened, has what open guilds have. -/
theorem all_scope (hb : b.Maintains v P) (hd : d.All P) (hw : v.tidy w) (guild : String) :
    match d.scope b guild w with
    | (.ok sc, d', w') => P sc ∧ d'.All P ∧ v.tidy w'
    | (.error _, d', w') => d'.All P ∧ v.tidy w' := by
  unfold scope
  cases hopen : d.scopes.get? guild with
  | some sc => exact ⟨hd guild sc hopen, hd, hw⟩
  | none =>
    have hopens := hb.opens guild d.opened d.events hw
    generalize b.openGuild guild w = opened at hopens ⊢
    rcases opened with ⟨fault | stored, w₁⟩
    · exact ⟨hd, hopens⟩
    · -- A guild that could not be read in full is not kept, whatever its caches know by then.
      dsimp only at hopens ⊢
      generalize Scope.preload b.stores _ w₁ = read at hopens ⊢
      rcases read with ⟨e | ⟨⟩, sc, w₂⟩
      · exact ⟨hd, hopens.2⟩
      · exact ⟨hopens.1 rfl, hd.insert guild (hopens.1 rfl) _, hopens.2⟩

/-- What is done in one guild leaves every open guild what open guilds have. -/
theorem all_within {α : Type} (hb : b.Maintains v P) (hd : d.All P) (hw : v.tidy w)
    {guild : String} {run : Scope γ → ω → α × Scope γ × ω} {result : Except OpenError α}
    {d' : Directory γ} {w' : ω} (hwithin : d.within b guild run w = (result, d', w'))
    (hrun : ∀ sc w, Scope.Evolves b.stores (sc, w) (run sc w).2) : d'.All P ∧ v.tidy w' := by
  have hscope := all_scope hb hd hw guild
  unfold within at hwithin
  rcases hopen : d.scope b guild w with ⟨e | sc, d₁, w₁⟩
  · simp only [hopen, Prod.mk.injEq] at hwithin
    obtain ⟨-, rfl, rfl⟩ := hwithin
    rw [hopen] at hscope
    exact hscope
  · simp only [hopen, Prod.mk.injEq] at hwithin
    obtain ⟨-, rfl, rfl⟩ := hwithin
    rw [hopen] at hscope
    obtain ⟨hsc, hd₁, hw₁⟩ := hscope
    obtain ⟨hsc', hw'⟩ := hb.evolves (hrun sc w₁) hsc hw₁
    exact ⟨hd₁.insert guild hsc' d₁.opened, hw'⟩

end All

/-- A guild that is open, or could be opened, mirrors its stores, in full. -/
theorem faithful_scope {b : Backend γ ω} {v : GuildView γ ω} {d : Directory γ} {w : ω}
    (hb : b.Lawful v) (hd : d.Faithful v) (hw : v.tidy w) (guild : String) :
    match d.scope b guild w with
    | (.ok sc, d', w') => sc.Faithful v ∧ sc.IsFull ∧ d'.Faithful v ∧ v.tidy w'
    | (.error _, d', w') => d'.Faithful v ∧ v.tidy w' := by
  have hscope := all_scope hb.maintains hd hw guild
  generalize d.scope b guild w = r at hscope ⊢
  rcases r with ⟨e | sc, d', w'⟩
  · exact hscope
  · exact ⟨hscope.1.1, hscope.1.2, hscope.2⟩

end Directory

end Guildhall
