import Guildhall.Proofs.Policy

/-!
Spacing of runs. A check that lets an action pass restarts the cooldown that governs it
(`Policy.started_of_checkCooldown`). From then on no operation moves the start of that cooldown
back, short of removing it: other checks restart it later, and a new duration keeps when it last
started (`PolicyCall.startedSince_run`). So two checks that one rule lets pass are more than its
duration apart, whatever was done in between (`PolicyCall.checks_are_spaced`).
-/

set_option autoImplicit false

namespace Guildhall

variable {σ V : Type}

/-! ### Stores that never fail -/

namespace RowStore

/-- No call fails, and no row is refused. -/
structure Reliable (st : RowStore σ V) : Prop where
  loadAll : ∀ s, (st.loadAll s).1.isOk
  loadOne : ∀ key s, (st.loadOne key s).1.isOk
  upsert : ∀ row s, (st.upsert row s).1 = .ok true
  delete : ∀ key s, (st.delete key s).1.isOk

theorem reliable_memory [Keyed V] : (memory : RowStore (Table String V) V).Reliable where
  loadAll _ := rfl
  loadOne _ _ := rfl
  upsert _ _ := rfl
  delete _ _ := rfl

theorem Reliable.within {τ : Type} {st : RowStore σ V} (hst : st.Reliable) (view : τ → σ)
    (put : τ → σ → τ) : (st.within view put).Reliable where
  loadAll s := hst.loadAll (view s)
  loadOne key s := hst.loadOne key (view s)
  upsert row s := hst.upsert row (view s)
  delete key s := hst.delete key (view s)

end RowStore

namespace Cache

variable {st : RowStore σ V} {c : Cache V} {s : σ} {t : Table String V}

theorem isOk_get (hst : st.Reliable) (key : String) (c : Cache V) (s : σ) :
    (c.get st key s).1.isOk := by
  unfold get
  cases c.lookup key with
  | some known => rfl
  | none =>
    have hload := hst.loadOne key s
    simp only [loadOne]
    rcases hresult : st.loadOne key s with ⟨fault | row, s'⟩
    · simp [hresult, Except.isOk, Except.toBool] at hload
    · rfl

variable [Keyed V]

theorem isOk_upsert (hst : st.Reliable) (row : V) (c : Cache V) (s : σ) :
    (c.upsert st row s).1.isOk := by
  have hwrite := hst.upsert row s
  unfold upsert
  rcases hresult : st.upsert row s with ⟨fault | accepted, s'⟩
  · simp [hresult] at hwrite
  · rw [hresult, Except.ok.injEq] at hwrite
    subst hwrite
    rfl

theorem isOk_replace (hst : st.Reliable) (row : V) (c : Cache V) (s : σ) :
    (c.replace st row s).1.isOk := by
  have hget := isOk_get hst (Keyed.key row) c s
  unfold replace upsertIf
  rcases hfound : c.get st (Keyed.key row) s with ⟨e | found, c₁, s₁⟩
  · simp [hfound, Except.isOk, Except.toBool] at hget
  · have hwrite := isOk_upsert hst row c₁ s₁
    dsimp only
    split_ifs
    · rcases hresult : c₁.upsert st row s₁ with ⟨e | ⟨⟩, c₂, s₂⟩
      · simp [hresult, Except.isOk, Except.toBool] at hwrite
      · rfl
    · rfl

omit [Keyed V] in
/-- What is found at a word-bounded beginning stands there. -/
theorem Mirrors.get?_of_longestPresent (hc : c.Mirrors t) {query : String} {row : V}
    (hrow : c.longestPresent query = some row) : ∃ key, t.get? key = some row := by
  rw [longestPresent, Trie.prefixMatches_eq] at hrow
  obtain ⟨⟨path, slot⟩, hmem, hslot⟩ := List.exists_of_findSome?_eq_some hrow
  rw [List.mem_reverse, List.mem_filterMap] at hmem
  obtain ⟨p, -, hp⟩ := hmem
  obtain ⟨slot', hknown, hsame⟩ := Option.map_eq_some_iff.mp hp
  obtain ⟨rfl, rfl⟩ := Prod.mk.inj hsame
  exact ⟨String.ofList p, (hc.known p slot' hknown).symm.trans hslot⟩

/-- A row that a lookup finds is one of the rows, whatever was asked for. -/
theorem get?_of_resolve {holds : σ → Table String V → Prop} (hst : st.Lawful holds)
    (hc : c.Mirrors t) (hs : holds s t) {query : String} {row : V}
    (hrow : (c.resolve st query s).1 = .ok (some row)) : ∃ key, t.get? key = some row := by
  unfold resolve at hrow
  split_ifs at hrow with hfull
  · exact hc.get?_of_longestPresent (Except.ok.inj hrow)
  · have hloads := loadEach_spec hst hs c (c.missing query)
    rcases hcall : c.loadEach st (c.missing query) s with ⟨e | rows, s'⟩
    · simp [hcall] at hrow
    · rw [hcall] at hloads hrow
      obtain ⟨rfl, -⟩ := hloads
      obtain ⟨hmirrors, -⟩ := mirrors_foldl_remember hc hfull (c.missing query)
      exact hmirrors.get?_of_longestPresent (Except.ok.inj hrow)

end Cache

/-- A call that changes no row. -/
def CacheCall.Reads : CacheCall V → Prop
  | get _ | resolve _ | listAll | invalidate => True
  | upsert _ | insertNew _ | replace _ | remove _ => False

theorem CacheCall.rowsAfter_of_reads [Keyed V] {call : CacheCall V} (hreads : call.Reads)
    (answer : Except CacheError (CacheAnswer V)) (t : Table String V) :
    call.rowsAfter answer t = t := by
  cases answer with
  | error e => rfl
  | ok a => cases call <;> first | rfl | exact hreads.elim

/-! ### What operations leave of the cooldowns -/

namespace Policy

variable {st : RuleStores σ} {rows : σ → RuleTables} {p : Policy} {s : σ}

/-- A policy that reflects the rows that its stores hold. -/
def Follows (rows : σ → RuleTables) (a : Policy × σ) : Prop :=
  a.1.Reflects (fun s t ↦ rows s = t) a.2 (rows a.2)

theorem Reflects.follows {t : RuleTables} (hp : p.Reflects (fun s t ↦ rows s = t) s t) :
    rows s = t ∧ Follows rows (p, s) := by
  have hrows : rows s = t := hp.permissions.holds
  subst hrows
  exact ⟨rfl, hp⟩

/-- What an operation leaves that did not change the cooldowns. -/
structure KeepsCooldowns (rows : σ → RuleTables) (s : σ) (a : Policy × σ) : Prop where
  follows : Follows rows a
  cooldowns : (rows a.2).cooldowns = (rows s).cooldowns

theorem KeepsCooldowns.trans {a : Policy × σ} {s₁ : σ} (h₁ : (rows s₁).cooldowns =
    (rows s).cooldowns) (h₂ : KeepsCooldowns rows s₁ a) : KeepsCooldowns rows s a :=
  ⟨h₂.follows, h₂.cooldowns.trans h₁⟩

section

variable (hst : st.Lawful fun s t ↦ rows s = t)
include hst

theorem keepsCooldowns_onPermissions (hp : Follows rows (p, s))
    (call : CacheCall PermissionRule) :
    KeepsCooldowns rows s (p.onPermissions (call.run st.permissions) s).2 := by
  obtain ⟨hrows, hfollows⟩ := (Reflects.onPermissions hst hp call).follows
  exact ⟨hfollows, by rw [hrows]⟩

theorem follows_onCooldowns (hp : Follows rows (p, s)) (call : CacheCall CooldownRule) :
    let r := p.onCooldowns (call.run st.cooldowns) s
    Follows rows r.2 ∧ (rows r.2.2).cooldowns = call.rowsAfter r.1 (rows s).cooldowns := by
  obtain ⟨hrows, hfollows⟩ := (Reflects.onCooldowns hst hp call).follows
  exact ⟨hfollows, by rw [hrows]⟩

theorem keepsCooldowns_of_reads (hp : Follows rows (p, s)) (call : CacheCall CooldownRule)
    (hreads : call.Reads) :
    KeepsCooldowns rows s (p.onCooldowns (call.run st.cooldowns) s).2 := by
  obtain ⟨hfollows, hrows⟩ := follows_onCooldowns hst hp call
  exact ⟨hfollows, hrows.trans (CacheCall.rowsAfter_of_reads hreads _ _)⟩

/-- The rule that governs an action is one that is stored under its own action. -/
theorem cooldownRule_spec (hp : Follows rows (p, s)) (action : String) :
    let r := p.cooldownRule st action s
    KeepsCooldowns rows s r.2 ∧ ∀ rule, r.1 = some rule →
      (rows s).cooldowns.get? rule.action = some rule ∧ rule.isEnforced = true := by
  have hkeeps := keepsCooldowns_of_reads hst hp (.resolve action) trivial
  have hread : (p.onCooldowns (CacheCall.run st.cooldowns (.resolve action)) s).2 =
      (p.onCooldowns (·.resolve st.cooldowns action ·) s).2 := rfl
  rw [hread] at hkeeps
  have hfound : ∀ rule, (p.onCooldowns (·.resolve st.cooldowns action ·) s).1 = .ok (some rule) →
      (rows s).cooldowns.get? rule.action = some rule := by
    intro rule hrule
    obtain ⟨key, hget⟩ := Cache.get?_of_resolve (hst.cooldowns (rows s)) hp.cooldowns.mirrors
      hp.cooldowns.holds hrule
    have hkey : rule.action = key := hp.cooldowns.keyed key rule hget
    rw [hkey, hget]
  simp only [cooldownRule]
  rcases hresult : p.onCooldowns (·.resolve st.cooldowns action ·) s with ⟨e | found, p', s'⟩
  · rw [hresult] at hkeeps
    exact ⟨hkeeps, fun rule hrule ↦ by cases hrule⟩
  · rw [hresult] at hkeeps hfound
    refine ⟨hkeeps, fun rule hrule ↦ ?_⟩
    obtain ⟨rfl, henforced⟩ := Option.filter_eq_some_iff.mp hrule
    exact ⟨hfound rule rfl, henforced⟩

/-- A lookup under one action changes no row and, unless it fails, finds the row. -/
theorem get_spec (hp : Follows rows (p, s)) (key : String) :
    let r := p.onCooldowns (·.get st.cooldowns key ·) s
    KeepsCooldowns rows s r.2 ∧ ∀ found, r.1 = .ok found →
      found = (rows s).cooldowns.get? key := by
  refine ⟨keepsCooldowns_of_reads hst hp (.get key) trivial, fun found hfound ↦ ?_⟩
  have hrun : (CacheCall.run st.cooldowns (.get key) p.cooldowns s).1 = .ok (.row found) :=
    congrArg (·.map CacheAnswer.row) hfound
  exact CacheAnswer.row.inj (CacheCall.answer_of_run (hst.cooldowns (rows s)) hp.cooldowns
    (.get key) trivial hrun)

/-- A rule that is replaced in place of itself is there afterwards, unless the store failed. -/
theorem replace_spec (hp : Follows rows (p, s)) (row : CooldownRule)
    (hstored : (rows s).cooldowns.contains row.action = true) :
    let r := p.onCooldowns (·.replace st.cooldowns row ·) s
    let replaced := (rows s).cooldowns.insert row.action row
    Follows rows r.2 ∧
      ((rows r.2.2).cooldowns = (rows s).cooldowns ∨ (rows r.2.2).cooldowns = replaced) ∧
      (st.cooldowns.Reliable → (rows r.2.2).cooldowns = replaced) := by
  obtain ⟨hfollows, hrows⟩ := follows_onCooldowns hst hp (.replace row)
  have hreplaced : (CacheCall.onTable (.replace row) (rows s).cooldowns).2 =
      (rows s).cooldowns.insert row.action row := if_pos hstored
  have hok : st.cooldowns.Reliable →
      (p.onCooldowns (CacheCall.run st.cooldowns (.replace row)) s).1.isOk := by
    intro hreliable
    have hcall := Cache.isOk_replace hreliable row p.cooldowns s
    simp only [onCooldowns, CacheCall.run]
    generalize (p.cooldowns.replace st.cooldowns row s).1 = answer at hcall ⊢
    cases answer with
    | error e => exact hcall
    | ok a => rfl
  refine ⟨hfollows, ?_, fun hreliable ↦ ?_⟩
  · rcases hanswer : (p.onCooldowns (CacheCall.run st.cooldowns (.replace row)) s).1 with e | a
    · rw [hanswer] at hrows
      exact Or.inl hrows
    · rw [hanswer, CacheCall.rowsAfter, hreplaced] at hrows
      exact Or.inr hrows
  · rcases hanswer : (p.onCooldowns (CacheCall.run st.cooldowns (.replace row)) s).1 with e | a
    · have hfails := hok hreliable
      rw [hanswer] at hfails
      cases hfails
    · rw [hanswer, CacheCall.rowsAfter, hreplaced] at hrows
      exact hrows

end

/-! ### Checks -/

/-- The second half of a check, for the rule that governs the action. -/
def settle (st : RuleStores σ) (now : Instant) (key : String) (p : Policy) (s : σ) :
    Option Duration × Policy × σ :=
  match p.onCooldowns (·.get st.cooldowns key ·) s with
  | (.error _, p, s) => (none, p, s)
  | (.ok found, p, s) =>
    match found.filter (·.isEnforced) with
    | none => (none, p, s)
    | some rule =>
      match rule.left? now with
      | some left => (some left, p, s)
      | none =>
        let (_, p, s) := p.onCooldowns
          (·.replace st.cooldowns { rule with last := some { instant := now } } ·) s
        (none, p, s)

theorem checkCooldown_eq_settle {rank : Rank} (hrank : rank.isPrivileged = false) (now : Instant)
    {action : String} {governing : CooldownRule} {p' : Policy} {s' : σ}
    (hgoverning : p.cooldownRule st action s = (some governing, p', s')) :
    p.checkCooldown st rank now action s = settle st now governing.action p' s' := by
  rw [checkCooldown, if_neg (by simp [hrank]), hgoverning]
  rfl

/-- The rows after a rule was started at an instant. -/
def started (t : Table String CooldownRule) (rule : CooldownRule) (now : Instant) :
    Table String CooldownRule :=
  t.insert rule.action { rule with last := some { instant := now } }

section

variable (hst : st.Lawful fun s t ↦ rows s = t)
include hst

/-- The second half of a check leaves the cooldowns as they were or starts the rule. Unless the
store fails, it answers what is left of the time of an enforced rule, and starts the rule where
nothing is. -/
theorem settle_spec (hp : Follows rows (p, s)) (now : Instant) (key : String) :
    let r := settle st now key p s
    Follows rows r.2 ∧
      ((rows r.2.2).cooldowns = (rows s).cooldowns ∨
        ∃ rule, (rows s).cooldowns.get? key = some rule ∧
          (rows r.2.2).cooldowns = started (rows s).cooldowns rule now) ∧
      (st.cooldowns.Reliable → ∀ rule, (rows s).cooldowns.get? key = some rule →
        rule.isEnforced = true → r.1 = rule.left? now ∧
          (rows r.2.2).cooldowns = if rule.left? now = none
            then started (rows s).cooldowns rule now else (rows s).cooldowns) := by
  obtain ⟨hkeeps, hfound⟩ := get_spec hst hp key
  have hok := fun hreliable : st.cooldowns.Reliable ↦
    Cache.isOk_get hreliable key p.cooldowns s
  simp only [settle]
  rcases hget : p.onCooldowns (·.get st.cooldowns key ·) s with ⟨e | found, p₁, s₁⟩
  · rw [hget] at hkeeps
    refine ⟨hkeeps.follows, Or.inl hkeeps.cooldowns, fun hreliable ↦ ?_⟩
    have hfails := hok hreliable
    have herror : (p.cooldowns.get st.cooldowns key s).1 = .error e := congrArg Prod.fst hget
    rw [herror] at hfails
    cases hfails
  rw [hget] at hkeeps hfound
  obtain rfl := hfound found rfl
  dsimp only
  cases hstored : (rows s).cooldowns.get? key with
  | none =>
    simp only [Option.filter_none]
    exact ⟨hkeeps.follows, Or.inl hkeeps.cooldowns, fun _ rule hrule ↦ by cases hrule⟩
  | some rule =>
    cases henforced : rule.isEnforced with
    | false =>
      simp only [Option.filter_some, henforced, Bool.false_eq_true, if_false]
      refine ⟨hkeeps.follows, Or.inl hkeeps.cooldowns, fun _ rule' hrule' henforced' ↦ ?_⟩
      rw [← Option.some.inj hrule', henforced] at henforced'
      cases henforced'
    | true =>
      simp only [Option.filter_some, henforced, if_true]
      cases hleft : rule.left? now with
      | some left =>
        refine ⟨hkeeps.follows, Or.inl hkeeps.cooldowns, fun _ rule' hrule' _ ↦ ?_⟩
        obtain rfl := Option.some.inj hrule'
        rw [if_neg (by simp [hleft])]
        exact ⟨hleft.symm, hkeeps.cooldowns⟩
      | none =>
        have hkey : rule.action = key := hp.cooldowns.keyed key rule hstored
        have hcontains : (rows s₁).cooldowns.contains rule.action = true := by
          rw [hkeeps.cooldowns, Table.contains, hkey, hstored]
          rfl
        obtain ⟨hfollows, hcases, hreplaced⟩ := replace_spec hst hkeeps.follows
          { rule with last := some { instant := now } } hcontains
        rw [hkeeps.cooldowns] at hcases hreplaced
        refine ⟨hfollows, ?_, fun hreliable rule' hrule' _ ↦ ?_⟩
        · exact hcases.imp id fun hrows ↦ ⟨rule, rfl, hrows⟩
        · obtain rfl := Option.some.inj hrule'
          rw [if_pos hleft]
          exact ⟨hleft.symm, hreplaced hreliable⟩

/-- A check leaves the cooldowns as they were or starts the rule that is stored for an action. -/
theorem checkCooldown_spec (hp : Follows rows (p, s)) (rank : Rank) (now : Instant)
    (action : String) :
    let r := p.checkCooldown st rank now action s
    Follows rows r.2 ∧
      ((rows r.2.2).cooldowns = (rows s).cooldowns ∨
        ∃ rule, (rows s).cooldowns.get? rule.action = some rule ∧
          (rows r.2.2).cooldowns = started (rows s).cooldowns rule now) := by
  cases hrank : rank.isPrivileged with
  | true =>
    have hexempt : p.checkCooldown st rank now action s = (none, p, s) := if_pos hrank
    rw [hexempt]
    exact ⟨hp, Or.inl rfl⟩
  | false =>
    obtain ⟨hkeeps, hgoverns⟩ := cooldownRule_spec hst hp action
    rcases hgoverning : p.cooldownRule st action s with ⟨_ | governing, p', s'⟩
    · rw [hgoverning] at hkeeps
      simp only [checkCooldown, hrank, hgoverning, Bool.false_eq_true, if_false]
      exact ⟨hkeeps.follows, Or.inl hkeeps.cooldowns⟩
    · rw [hgoverning] at hkeeps
      obtain ⟨hfollows, hcases, -⟩ := settle_spec hst hkeeps.follows now governing.action
      rw [hkeeps.cooldowns] at hcases
      rw [checkCooldown_eq_settle hrank now hgoverning]
      refine ⟨hfollows, hcases.imp id ?_⟩
      rintro ⟨rule, hstored, hrows⟩
      have hkey : rule.action = governing.action := hp.cooldowns.keyed _ _ hstored
      exact ⟨rule, hkey ▸ hstored, hrows⟩

/-- A check by an invoker below admin answers what is left of the time of the rule that governs the
action. Where nothing is left the rule starts, and else no cooldown changes. -/
theorem checkCooldown_of_reliable (hreliable : st.cooldowns.Reliable) (hp : Follows rows (p, s))
    {rank : Rank} (hrank : rank.isPrivileged = false) (now : Instant) {action : String}
    {rule : CooldownRule} (hrule : (p.cooldownRule st action s).1 = some rule) :
    let r := p.checkCooldown st rank now action s
    (rows s).cooldowns.get? rule.action = some rule ∧ Follows rows r.2 ∧ r.1 = rule.left? now ∧
      (rows r.2.2).cooldowns = if rule.left? now = none
        then started (rows s).cooldowns rule now else (rows s).cooldowns := by
  obtain ⟨hkeeps, hgoverns⟩ := cooldownRule_spec hst hp action
  obtain ⟨hstored, henforced⟩ := hgoverns rule hrule
  rcases hgoverning : p.cooldownRule st action s with ⟨governing, p', s'⟩
  rw [hgoverning] at hkeeps hrule
  subst hrule
  obtain ⟨hfollows, -, hanswers⟩ := settle_spec hst hkeeps.follows now rule.action
  rw [hkeeps.cooldowns] at hanswers
  rw [checkCooldown_eq_settle hrank now hgoverning]
  exact ⟨hstored, hfollows, hanswers hreliable rule hstored henforced⟩

/-- A check by an invoker below admin that lets an action pass starts the rule that governs it, and
the time of that rule was over. -/
theorem started_of_checkCooldown (hreliable : st.cooldowns.Reliable) (hp : Follows rows (p, s))
    {rank : Rank} (hrank : rank.isPrivileged = false) {now : Instant} {action : String}
    {rule : CooldownRule} (hrule : (p.cooldownRule st action s).1 = some rule)
    (hpasses : (p.checkCooldown st rank now action s).1 = none) :
    let after := (p.checkCooldown st rank now action s).2
    (rows s).cooldowns.get? rule.action = some rule ∧
      (rule.last.bind fun last ↦ remaining? rule.duration last.instant now) = none ∧
        Follows rows after ∧ (rows after.2).cooldowns = started (rows s).cooldowns rule now := by
  obtain ⟨hstored, hfollows, hanswer, hstarted⟩ :=
    checkCooldown_of_reliable hst hreliable hp hrank now hrule
  have hover : rule.left? now = none := hanswer.symm.trans hpasses
  rw [if_pos hover] at hstarted
  exact ⟨hstored, hover, hfollows, hstarted⟩

/-- Setting a cooldown leaves the cooldowns as they were or gives the rule a new duration and keeps
when it last ran. -/
theorem setCooldown_spec (hp : Follows rows (p, s)) (action : String) (duration : Duration) :
    let after := (p.setCooldown st action duration s).2
    Follows rows after ∧ ((rows after.2).cooldowns = (rows s).cooldowns ∨
      (rows after.2).cooldowns = (rows s).cooldowns.insert action
        { action, duration, last := ((rows s).cooldowns.get? action).bind (·.last) }) := by
  obtain ⟨hkeeps, hfound⟩ := get_spec hst hp action
  simp only [setCooldown]
  rcases hget : p.onCooldowns (·.get st.cooldowns action ·) s with ⟨e | found, p₁, s₁⟩
  · rw [hget] at hkeeps
    exact ⟨hkeeps.follows, Or.inl hkeeps.cooldowns⟩
  · rw [hget] at hkeeps hfound
    obtain rfl := hfound found rfl
    obtain ⟨hfollows, hrows⟩ := follows_onCooldowns hst hkeeps.follows
      (.upsert { action, duration, last := ((rows s).cooldowns.get? action).bind (·.last) })
    rw [hkeeps.cooldowns] at hrows
    refine ⟨hfollows, ?_⟩
    generalize (p₁.onCooldowns (CacheCall.run st.cooldowns _) s₁).1 = answer at hrows
    cases answer with
    | error e => exact Or.inl hrows
    | ok a => exact Or.inr hrows

theorem removeCooldown_spec (hp : Follows rows (p, s)) (action : String) :
    let after := (p.removeCooldown st action s).2
    Follows rows after ∧ ((rows after.2).cooldowns = (rows s).cooldowns ∨
      (rows after.2).cooldowns = (rows s).cooldowns.erase action) := by
  obtain ⟨hfollows, hrows⟩ := follows_onCooldowns hst hp (.remove action)
  refine ⟨hfollows, ?_⟩
  generalize (p.onCooldowns (CacheCall.run st.cooldowns (.remove action)) s).1 = answer at hrows
  cases answer with
  | error e => exact Or.inl hrows
  | ok a => exact Or.inr hrows

theorem keepsCooldowns_preload (hp : Follows rows (p, s)) :
    KeepsCooldowns rows s (p.preload st s).2 := by
  have hfirst := keepsCooldowns_onPermissions hst hp .listAll
  have hread : (p.onPermissions (CacheCall.run st.permissions .listAll) s).2 =
      (p.onPermissions (·.listAll st.permissions ·) s).2 := rfl
  rw [hread] at hfirst
  simp only [preload]
  rcases hpermissions : p.onPermissions (·.listAll st.permissions ·) s with ⟨e | found, p₁, s₁⟩
  · rwa [hpermissions] at hfirst
  · rw [hpermissions] at hfirst
    have hsecond := keepsCooldowns_of_reads hst hfirst.follows .listAll trivial
    have hread' : (p₁.onCooldowns (CacheCall.run st.cooldowns .listAll) s₁).2 =
        (p₁.onCooldowns (·.listAll st.cooldowns ·) s₁).2 := rfl
    rw [hread'] at hsecond
    dsimp only
    rcases hcooldowns : p₁.onCooldowns (·.listAll st.cooldowns ·) s₁ with ⟨e | found, p₂, s₂⟩
    · rw [hcooldowns] at hsecond
      exact hsecond.trans hfirst.cooldowns
    · rw [hcooldowns] at hsecond
      exact hsecond.trans hfirst.cooldowns

theorem keepsCooldowns_resolvePermission (hp : Follows rows (p, s)) (action : String) :
    KeepsCooldowns rows s (p.resolvePermission st action s).2 := by
  have hkeeps := keepsCooldowns_onPermissions hst hp (.resolve action)
  have hsame : (p.resolvePermission st action s).2 =
      (p.onPermissions (CacheCall.run st.permissions (.resolve action)) s).2 := by
    simp only [resolvePermission, onPermissions, CacheCall.run]
    rcases p.permissions.resolve st.permissions action s with ⟨e | _ | rule, c, s'⟩ <;> rfl
  rwa [hsame]

end

end Policy

/-! ### The start of a cooldown -/

/-- The cooldown of an action last started at an instant of the calendar that is not before
`start`. -/
def Table.StartedSince (t : Table String CooldownRule) (action : String) (start : Instant) :
    Prop :=
  ∃ rule last, t.get? action = some rule ∧ rule.last = some last ∧
    start.nanos ≤ last.instant.nanos ∧ last.instant.InCalendar

namespace Table.StartedSince

variable {t : Table String CooldownRule} {action : String} {start : Instant}

theorem started (ht : t.StartedSince action start) (rule : CooldownRule) {now : Instant}
    (hnow : start.nanos ≤ now.nanos) (hcalendar : now.InCalendar) :
    (Policy.started t rule now).StartedSince action start := by
  obtain ⟨stored, last, hget, hlast, hsince⟩ := ht
  by_cases hkey : action = rule.action
  · refine ⟨{ rule with last := some { instant := now } }, { instant := now }, ?_, rfl, hnow,
      hcalendar⟩
    rw [Policy.started, Table.get?_insert, if_pos hkey]
  · refine ⟨stored, last, ?_, hlast, hsince⟩
    rw [Policy.started, Table.get?_insert, if_neg hkey, hget]

/-- A new duration keeps when a cooldown last started. -/
theorem set (ht : t.StartedSince action start) (other : String) (duration : Duration) :
    (t.insert other { action := other, duration, last := (t.get? other).bind (·.last) }
      : Table String CooldownRule).StartedSince action start := by
  obtain ⟨stored, last, hget, hlast, hsince⟩ := ht
  by_cases hkey : action = other
  · subst hkey
    refine ⟨_, last, by rw [Table.get?_insert_self], ?_, hsince⟩
    rw [hget, Option.bind_some, hlast]
  · exact ⟨stored, last, by rw [Table.get?_insert, if_neg hkey, hget], hlast, hsince⟩

theorem erase (ht : t.StartedSince action start) {other : String} (hother : other ≠ action) :
    (t.erase other).StartedSince action start := by
  obtain ⟨stored, last, hget, hlast, hsince⟩ := ht
  exact ⟨stored, last, by rw [Table.get?_erase, if_neg hother.symm, hget], hlast, hsince⟩

end Table.StartedSince

namespace PolicyCall

open Policy

variable {st : RuleStores σ} {rows : σ → RuleTables}

/-- An operation on the rules that does not remove the cooldown of an action, at a time that is
not before `start`. What is done with the cooldown cache itself only reads it. -/
def Spares (action : String) (start : Instant) : PolicyCall → Prop
  | checkCooldown _ now _ => start.nanos ≤ now.nanos ∧ now.InCalendar
  | removeCooldown other => other ≠ action
  | cooldownCache call => call.Reads
  | preload | resolvePermission _ | authorize _ _ _ | setPermission _ | removePermission _
  | listPermissions | setCooldown _ _ | listCooldowns | permissionCache _ => True

/-- No operation moves the start of a cooldown back, unless it removes the cooldown. -/
theorem startedSince_run (hst : st.Lawful fun s t ↦ rows s = t) {p : Policy} {s : σ}
    (hp : Follows rows (p, s)) {action : String} {start : Instant}
    (hstarted : (rows s).cooldowns.StartedSince action start) {call : PolicyCall}
    (hspares : call.Spares action start) :
    Follows rows (call.run st p s) ∧
      (rows (call.run st p s).2).cooldowns.StartedSince action start := by
  have hkept {a : Policy × σ} (hkeeps : KeepsCooldowns rows s a) :
      Follows rows a ∧ (rows a.2).cooldowns.StartedSince action start :=
    ⟨hkeeps.follows, hkeeps.cooldowns ▸ hstarted⟩
  cases call with
  | preload => exact hkept (keepsCooldowns_preload hst hp)
  | resolvePermission _ => exact hkept (keepsCooldowns_resolvePermission hst hp _)
  | authorize rank invoker _ => exact hkept (keepsCooldowns_resolvePermission hst hp _)
  | checkCooldown rank now other =>
    obtain ⟨hfollows, hrows | ⟨rule, -, hrows⟩⟩ := checkCooldown_spec hst hp rank now other
    · exact hkept ⟨hfollows, hrows⟩
    · exact ⟨hfollows, hrows ▸ hstarted.started rule hspares.1 hspares.2⟩
  | setPermission rule => exact hkept (keepsCooldowns_onPermissions hst hp (.upsert rule))
  | removePermission other => exact hkept (keepsCooldowns_onPermissions hst hp (.remove other))
  | listPermissions => exact hkept (keepsCooldowns_onPermissions hst hp .listAll)
  | setCooldown other duration =>
    obtain ⟨hfollows, hrows | hrows⟩ := setCooldown_spec hst hp other duration
    · exact hkept ⟨hfollows, hrows⟩
    · exact ⟨hfollows, hrows ▸ hstarted.set other duration⟩
  | removeCooldown other =>
    obtain ⟨hfollows, hrows | hrows⟩ := removeCooldown_spec hst hp other
    · exact hkept ⟨hfollows, hrows⟩
    · exact ⟨hfollows, hrows ▸ hstarted.erase hspares⟩
  | listCooldowns => exact hkept (keepsCooldowns_of_reads hst hp .listAll trivial)
  | permissionCache call => exact hkept (keepsCooldowns_onPermissions hst hp call)
  | cooldownCache call => exact hkept (keepsCooldowns_of_reads hst hp call hspares)

theorem startedSince_runAll (hst : st.Lawful fun s t ↦ rows s = t) {action : String}
    {start : Instant} {calls : List PolicyCall} (hspare : ∀ call ∈ calls, call.Spares action start)
    {p : Policy} {s : σ} (hp : Follows rows (p, s))
    (hstarted : (rows s).cooldowns.StartedSince action start) :
    Follows rows (runAll st calls p s) ∧
      (rows (runAll st calls p s).2).cooldowns.StartedSince action start := by
  induction calls generalizing p s with
  | nil => exact ⟨hp, hstarted⟩
  | cons call calls ih =>
    obtain ⟨hcall, hcalls⟩ := List.forall_mem_cons.mp hspare
    obtain ⟨hfollows, hstarted'⟩ := startedSince_run hst hp hstarted hcall
    exact ih hcalls hfollows hstarted'

/-- Cooldown spacing. Two checks by invokers below admin that let their actions pass, although one
enforced rule governs both, are more apart than that rule lasts when the second is made, whatever
was done before them and, short of removing the rule, between them. -/
theorem checks_are_spaced (hst : st.Lawful fun s t ↦ rows s = t)
    (hreliable : st.cooldowns.Reliable) {p : Policy} {s : σ} (hp : Follows rows (p, s))
    (before between : List PolicyCall) {rank₁ rank₂ : Rank} (hrank₁ : rank₁.isPrivileged = false)
    (hrank₂ : rank₂.isPrivileged = false) {t₁ t₂ : Instant} (ht₁ : t₁.InCalendar)
    (ht₂ : t₂.InCalendar) {action₁ action₂ : String} {rule₁ rule₂ : CooldownRule}
    (hsame : rule₂.action = rule₁.action)
    (hspare : ∀ call ∈ between, call.Spares rule₁.action t₁) :
    let a := runAll st before p s
    let first := a.1.checkCooldown st rank₁ t₁ action₁ a.2
    let b := runAll st between first.2.1 first.2.2
    let second := b.1.checkCooldown st rank₂ t₂ action₂ b.2
    (a.1.cooldownRule st action₁ a.2).1 = some rule₁ → first.1 = none →
      (b.1.cooldownRule st action₂ b.2).1 = some rule₂ → second.1 = none →
        (rows b.2).cooldowns.get? rule₁.action = some rule₂ ∧
          (rule₂.duration.nanos : Int) < t₂.nanos - t₁.nanos := by
  intro a first b second hrule₁ hfirst hrule₂ hsecond
  obtain ⟨t, ht⟩ := reflects_runAll hst before hp
  have ha : Follows rows (a.1, a.2) := ht.follows.2
  obtain ⟨-, -, hfollows, hstarted⟩ :=
    started_of_checkCooldown hst hreliable ha hrank₁ hrule₁ hfirst
  have hsince : (rows first.2.2).cooldowns.StartedSince rule₁.action t₁ := by
    refine ⟨{ rule₁ with last := some { instant := t₁ } }, { instant := t₁ }, ?_, rfl, le_rfl, ht₁⟩
    rw [hstarted, started, Table.get?_insert, if_pos rfl]
  obtain ⟨hb, rule, last, hget, hlast, hlater, hcalendar⟩ :=
    startedSince_runAll hst hspare hfollows hsince
  obtain ⟨hstored, hover, -, -⟩ := started_of_checkCooldown hst hreliable hb hrank₂ hrule₂ hsecond
  rw [hsame] at hstored
  obtain rfl := Option.some.inj (hget.symm.trans hstored)
  rw [hlast, Option.bind_some, remaining?_eq_none_iff hcalendar ht₂] at hover
  exact ⟨hstored, by omega⟩

/-- A rule by which pings are at least five seconds apart. -/
def slowPing : RuleTables := ⟨∅, .ofRows [{ action := "ping", duration := .ofSeconds 5 }]⟩

/-- A cooldown that is lifted and set again, and a check that has to wait. -/
def liftedAndSet : List PolicyCall :=
  [.setCooldown "ping" .zero, .setCooldown "ping" (.ofSeconds 5),
    .checkCooldown .member (.ofParts 3 0) "ping"]

theorem checks_are_spaced_slowPing :
    let st := RuleStores.memory
    let first := Policy.checkCooldown st .member (.ofParts 0 0) "ping once" {} slowPing
    let b := runAll st liftedAndSet first.2.1 first.2.2
    let second := b.1.checkCooldown st .member (.ofParts 6 0) "ping twice" b.2
    first.1 = none ∧ second.1 = none ∧
      ((Duration.ofSeconds 5).nanos : Int) <
        (Instant.ofParts 6 0).nanos - (Instant.ofParts 0 0).nanos := by
  intro st first b second
  have hfresh : Follows id (({} : Policy), slowPing) :=
    reflects_fresh rfl Table.isKeyed_empty (Table.isKeyed_ofRows _)
  have hreliable : RuleStores.memory.cooldowns.Reliable := RowStore.reliable_memory.within _ _
  have hstart : (Instant.ofParts 0 0).InCalendar := ⟨by decide, by decide⟩
  have hlater : (Instant.ofParts 3 0).InCalendar := ⟨by decide, by decide⟩
  have hend : (Instant.ofParts 6 0).InCalendar := ⟨by decide, by decide⟩
  have hspare : ∀ call ∈ liftedAndSet, call.Spares "ping" (.ofParts 0 0) := by
    simpa [liftedAndSet, Spares] using ⟨by decide, hlater⟩
  have hrule₁ : (Policy.cooldownRule st "ping once" {} slowPing).1 =
      some { action := "ping", duration := .ofSeconds 5 } := by decide
  have hrule₂ : (b.1.cooldownRule st "ping twice" b.2).1 =
      some { action := "ping", duration := .ofSeconds 5, last := some ⟨.ofParts 0 0, 0⟩ } := by
    decide
  have hfirst : first.1 = none := by decide
  have hsecond : second.1 = none := by decide
  exact ⟨hfirst, hsecond, (checks_are_spaced RuleStores.lawful_memory hreliable hfresh []
    liftedAndSet rfl rfl hstart hend (by rfl) hspare hrule₁ hfirst hrule₂ hsecond).2⟩

end PolicyCall

end Guildhall
