import Guildhall.Policy.Resolver
import Guildhall.Proofs.Transparency
import Mathlib.Logic.Relation

/-!
Rules of a guild over stores that fail. Every operation on the rules is made of calls of the two
caches (`Policy.Evolves`), so that a policy that reflects its stores reflects them after any
operation (`Policy.Evolves.reflects`). Whatever fails, an action is granted only if the rows in
the store grant it or the invoker is an owner (`PolicyCall.authorize_runAll`).
-/

set_option autoImplicit false

namespace Guildhall

variable {σ : Type}

/-! ### Time -/

/-- The instants of the calendar, which has years of four digits before and after our era. -/
def Instant.InCalendar (t : Instant) : Prop :=
  -400000000000 * (nanosPerSecond : Int) ≤ t.nanos ∧
    t.nanos ≤ 400000000000 * (nanosPerSecond : Int)

/-- What is left is cut once, after all else was found exactly. -/
theorem remaining?_eq (d : Duration) (last now : Instant) :
    let e : Int := min (d.nanos : Int) Duration.longest.nanos - (now.nanos - last.nanos)
    remaining? d last now =
      if e < 0 then none else some ⟨(min e Duration.longest.nanos).toNat⟩ := by
  intro e
  have hdifference : ((min d.nanos Duration.longest.nanos : Nat) : Int) -
      (now.nanos - last.nanos) = e := by omega
  rw [remaining?, hdifference]
  by_cases hover : e < 0
  · rw [if_pos hover, if_pos hover]
  · rw [if_neg hover, if_neg hover]
    congr 2
    omega

/-- Nothing is left of a wait exactly when more than all of it has passed. -/
theorem remaining?_eq_none_iff {d : Duration} {last now : Instant} (hlast : last.InCalendar)
    (hnow : now.InCalendar) :
    remaining? d last now = none ↔ (d.nanos : Int) < now.nanos - last.nanos := by
  simp only [Instant.InCalendar, nanosPerSecond] at hlast hnow
  -- The calendar is shorter than the longest duration, so that no wait is cut to it.
  have hlongest : (Duration.longest.nanos : Int) = 2 ^ 63 * 1000000000 - 1 := rfl
  simp only [remaining?_eq, ite_eq_left_iff, reduceCtorEq, imp_false, not_not]
  omega

/-- What is left at an instant of the time that an action rests, if it ran before. -/
def CooldownRule.left? (rule : CooldownRule) (now : Instant) : Option Duration :=
  rule.last.bind fun last ↦ remaining? rule.duration last.instant now

/-- What is left at an instant of the cooldown that governs an action, for an invoker of some rank.
A rule of no duration counts for nothing, and admins do not wait. -/
def Table.left? (t : Table String CooldownRule) (rank : Rank) (now : Instant) (action : String) :
    Option Duration :=
  if rank.isPrivileged then none
  else ((t.governing? action).filter (·.isEnforced)).bind (·.left? now)

/-! ### Rule stores -/

/-- The rows of a guild's rules. -/
structure RuleTables where
  permissions : Table String PermissionRule
  cooldowns : Table String CooldownRule

/-- Each of the two stores keeps its rows and touches none of the other's. -/
structure RuleStores.Lawful (st : RuleStores σ) (holds : σ → RuleTables → Prop) : Prop where
  permissions : ∀ rows : RuleTables,
    st.permissions.Lawful fun s t ↦ holds s { rows with permissions := t }
  cooldowns : ∀ rows : RuleTables,
    st.cooldowns.Lawful fun s t ↦ holds s { rows with cooldowns := t }

namespace RuleStores

/-- Rules in memory. -/
def memory : RuleStores RuleTables where
  permissions := RowStore.memory.within (·.permissions) fun rows permissions ↦
    { rows with permissions }
  cooldowns := RowStore.memory.within (·.cooldowns) fun rows cooldowns ↦ { rows with cooldowns }

theorem lawful_memory : memory.Lawful (· = ·) where
  permissions rows := by
    refine RowStore.lawful_memory.within (fun rows : RuleTables ↦ rows.permissions)
      (fun rows permissions ↦ { rows with permissions }) ?_ ?_
    · rintro _ t rfl
      rfl
    · rintro _ t r t' rfl rfl
      rfl
  cooldowns rows := by
    refine RowStore.lawful_memory.within (fun rows : RuleTables ↦ rows.cooldowns)
      (fun rows cooldowns ↦ { rows with cooldowns }) ?_ ?_
    · rintro _ t rfl
      rfl
    · rintro _ t r t' rfl rfl
      rfl

/-- Stores of rules whose calls fail or are refused as one script says. -/
def scripted (st : RuleStores σ) : RuleStores (σ × List RowStore.Verdict) where
  permissions := st.permissions.scripted
  cooldowns := st.cooldowns.scripted

theorem Lawful.scripted {st : RuleStores σ} {holds : σ → RuleTables → Prop}
    (hst : st.Lawful holds) : st.scripted.Lawful fun s rows ↦ holds s.1 rows where
  permissions rows := (hst.permissions rows).scripted
  cooldowns rows := (hst.cooldowns rows).scripted

end RuleStores

/-- Whether rows let an invoker of this rank run an action: their governing rule does, or there is
none. -/
def Table.Grants (t : Table String PermissionRule) (rank : Rank) (invoker : Invoker)
    (action : String) : Prop :=
  ∀ rule, t.governing? action = some rule → rule.grants rank invoker = true

namespace Policy

/-- A policy whose caches reflect the rows that the stores hold. -/
structure Reflects (holds : σ → RuleTables → Prop) (p : Policy) (s : σ) (rows : RuleTables) :
    Prop where
  permissions : p.permissions.Reflects (fun s t ↦ holds s { rows with permissions := t }) s
    rows.permissions
  cooldowns : p.cooldowns.Reflects (fun s t ↦ holds s { rows with cooldowns := t }) s
    rows.cooldowns

/-- Both caches are full. -/
def IsFull (p : Policy) : Prop := p.permissions.state = .full ∧ p.cooldowns.state = .full

/-! ### What operations are made of -/

/-- One call of one cache. -/
inductive Step (st : RuleStores σ) : Policy × σ → Policy × σ → Prop
  | permissions (call : CacheCall PermissionRule) (hcall : call.Keeps) (p : Policy)
    (s : σ) : Step st (p, s) (p.onPermissions (call.run st.permissions) s).2
  | cooldowns (call : CacheCall CooldownRule) (hcall : call.Keeps) (p : Policy)
    (s : σ) : Step st (p, s) (p.onCooldowns (call.run st.cooldowns) s).2

/-- Calls of the caches, one after the other. -/
def Evolves (st : RuleStores σ) : Policy × σ → Policy × σ → Prop :=
  Relation.ReflTransGen (Step st)

section Operations

variable (st : RuleStores σ) (p : Policy) (s : σ)

theorem evolves_onPermissions (call : CacheCall PermissionRule) (hcall : call.Keeps) :
    Evolves st (p, s) (p.onPermissions (call.run st.permissions) s).2 :=
  .single (.permissions call hcall p s)

theorem evolves_onCooldowns (call : CacheCall CooldownRule) (hcall : call.Keeps) :
    Evolves st (p, s) (p.onCooldowns (call.run st.cooldowns) s).2 :=
  .single (.cooldowns call hcall p s)

theorem evolves_listPermissions : Evolves st (p, s) (p.listPermissions st s).2 :=
  evolves_onPermissions st p s .listAll trivial

theorem evolves_listCooldowns : Evolves st (p, s) (p.listCooldowns st s).2 :=
  evolves_onCooldowns st p s .listAll trivial

theorem evolves_preload : Evolves st (p, s) (p.preload st s).2 := by
  have hpermissions := evolves_listPermissions st p s
  simp only [preload]
  rw [listPermissions] at hpermissions
  rcases hfirst : p.onPermissions (·.listAll st.permissions ·) s with ⟨e | rules, p₁, s₁⟩
  · rwa [hfirst] at hpermissions
  · rw [hfirst] at hpermissions
    have hcooldowns := evolves_listCooldowns st p₁ s₁
    rw [listCooldowns] at hcooldowns
    dsimp only
    rcases hsecond : p₁.onCooldowns (·.listAll st.cooldowns ·) s₁ with ⟨e | rules, p₂, s₂⟩
    · rw [hsecond] at hcooldowns
      exact hpermissions.trans hcooldowns
    · rw [hsecond] at hcooldowns
      exact hpermissions.trans hcooldowns

theorem evolves_resolvePermission (action : String) :
    Evolves st (p, s) (p.resolvePermission st action s).2 := by
  have hresolve := evolves_onPermissions st p s (.resolve action) trivial
  have hsame : (p.resolvePermission st action s).2 =
      (p.onPermissions (·.resolve st.permissions action ·) s).2 := by
    simp only [resolvePermission]
    rcases p.onPermissions (·.resolve st.permissions action ·) s with ⟨e | _ | rule, p₁, s₁⟩ <;> rfl
  rw [hsame]
  exact hresolve

theorem evolves_authorize (rank : Rank) (invoker : Invoker) (action : String) :
    Evolves st (p, s) (p.authorize st rank invoker action s).2 :=
  evolves_resolvePermission st p s action

theorem evolves_cooldownRule (action : String) :
    Evolves st (p, s) (p.cooldownRule st action s).2 := by
  have hresolve := evolves_onCooldowns st p s (.resolve action) trivial
  have hsame : (p.cooldownRule st action s).2 =
      (p.onCooldowns (·.resolve st.cooldowns action ·) s).2 := by
    simp only [cooldownRule]
    rcases p.onCooldowns (·.resolve st.cooldowns action ·) s with ⟨e | found, p₁, s₁⟩ <;> rfl
  rw [hsame]
  exact hresolve

theorem evolves_setPermission (rule : PermissionRule) :
    Evolves st (p, s) (p.setPermission st rule s).2 :=
  evolves_onPermissions st p s (.upsert rule) trivial

theorem evolves_removePermission (action : String) :
    Evolves st (p, s) (p.removePermission st action s).2 :=
  evolves_onPermissions st p s (.remove action) trivial

theorem evolves_getPermission (action : String) :
    Evolves st (p, s) (p.getPermission st action s).2 :=
  evolves_onPermissions st p s (.get action) trivial

theorem evolves_removeCooldown (action : String) :
    Evolves st (p, s) (p.removeCooldown st action s).2 :=
  evolves_onCooldowns st p s (.remove action) trivial

theorem evolves_getCooldown (action : String) :
    Evolves st (p, s) (p.getCooldown st action s).2 :=
  evolves_onCooldowns st p s (.get action) trivial

theorem evolves_setCooldown (action : String) (duration : Duration) :
    Evolves st (p, s) (p.setCooldown st action duration s).2 := by
  have hget := evolves_getCooldown st p s action
  rw [getCooldown] at hget
  simp only [setCooldown]
  rcases hfirst : p.onCooldowns (·.get st.cooldowns action ·) s with ⟨e | found, p₁, s₁⟩
  · rwa [hfirst] at hget
  · rw [hfirst] at hget
    exact hget.trans (evolves_onCooldowns st p₁ s₁
      (.upsert { action, duration, last := found.bind (·.last) }) trivial)

theorem evolves_checkCooldown (rank : Rank) (now : Instant) (action : String) :
    Evolves st (p, s) (p.checkCooldown st rank now action s).2 := by
  have hresolve := evolves_cooldownRule st p s action
  simp only [checkCooldown]
  split_ifs with hprivileged
  · exact .refl
  rcases hfirst : p.cooldownRule st action s with ⟨_ | governing, p₁, s₁⟩
  · rwa [hfirst] at hresolve
  rw [hfirst] at hresolve
  have hget := evolves_getCooldown st p₁ s₁ governing.action
  rw [getCooldown] at hget
  rcases hsecond : p₁.onCooldowns (·.get st.cooldowns governing.action ·) s₁
    with ⟨e | found, p₂, s₂⟩
  · rw [hsecond] at hget
    simp only [hsecond]
    exact hresolve.trans hget
  rw [hsecond] at hget
  simp only [hsecond]
  cases found.filter (·.isEnforced) with
  | none => exact hresolve.trans hget
  | some rule =>
    dsimp only
    cases rule.last.bind fun last ↦ remaining? rule.duration last.instant now with
    | some left => exact hresolve.trans hget
    | none =>
      exact (hresolve.trans hget).trans (evolves_onCooldowns st p₂ s₂
        (.replace { rule with last := some { instant := now } }) trivial)

end Operations

/-! ### Policies that reflect their stores -/

section Reflects

variable {st : RuleStores σ} {holds : σ → RuleTables → Prop}

theorem reflects_fresh {s : σ} {rows : RuleTables} (hs : holds s rows)
    (hpermissions : rows.permissions.IsKeyed) (hcooldowns : rows.cooldowns.IsKeyed) :
    ({} : Policy).Reflects holds s rows where
  permissions := ⟨Cache.mirrors_fresh .permissions rows.permissions, hs, hpermissions⟩
  cooldowns := ⟨Cache.mirrors_fresh .cooldowns rows.cooldowns, hs, hcooldowns⟩

theorem Reflects.onPermissions (hst : st.Lawful holds) {p : Policy} {s : σ} {rows : RuleTables}
    (hp : p.Reflects holds s rows) (call : CacheCall PermissionRule) :
    let r := p.onPermissions (call.run st.permissions) s
    r.2.1.Reflects holds r.2.2
      { rows with permissions := call.rowsAfter r.1 rows.permissions } := by
  have hcall := CacheCall.reflects_run (hst.permissions rows) hp.permissions call
  exact ⟨hcall, ⟨hp.cooldowns.mirrors, hcall.holds, hp.cooldowns.keyed⟩⟩

theorem Reflects.onCooldowns (hst : st.Lawful holds) {p : Policy} {s : σ} {rows : RuleTables}
    (hp : p.Reflects holds s rows) (call : CacheCall CooldownRule) :
    let r := p.onCooldowns (call.run st.cooldowns) s
    r.2.1.Reflects holds r.2.2
      { rows with cooldowns := call.rowsAfter r.1 rows.cooldowns } := by
  have hcall := CacheCall.reflects_run (hst.cooldowns rows) hp.cooldowns call
  exact ⟨⟨hp.permissions.mirrors, hcall.holds, hp.permissions.keyed⟩, hcall⟩

/-- One call leaves a policy that reflects its stores, and full where it was full. -/
theorem Step.reflects (hst : st.Lawful holds) {a b : Policy × σ} (hstep : Step st a b)
    {rows : RuleTables} (ha : a.1.Reflects holds a.2 rows) :
    ∃ rows', b.1.Reflects holds b.2 rows' ∧ (a.1.IsFull → b.1.IsFull) := by
  cases hstep with
  | permissions call hcall p s =>
    refine ⟨_, ha.onPermissions hst call, fun hfull ↦ ⟨?_, hfull.2⟩⟩
    exact CacheCall.state_run_of_full (hst.permissions rows) ha.permissions call hcall hfull.1
  | cooldowns call hcall p s =>
    refine ⟨_, ha.onCooldowns hst call, fun hfull ↦ ⟨hfull.1, ?_⟩⟩
    exact CacheCall.state_run_of_full (hst.cooldowns rows) ha.cooldowns call hcall hfull.2

/-- Any calls leave a policy that reflects its stores, and full where it was full. -/
theorem Evolves.reflects (hst : st.Lawful holds) {a b : Policy × σ} (hevolves : Evolves st a b)
    {rows : RuleTables} (ha : a.1.Reflects holds a.2 rows) :
    ∃ rows', b.1.Reflects holds b.2 rows' ∧ (a.1.IsFull → b.1.IsFull) := by
  induction hevolves with
  | refl => exact ⟨rows, ha, id⟩
  | tail _ hstep ih =>
    obtain ⟨rows₁, hmiddle, hfull₁⟩ := ih
    obtain ⟨rows₂, hlast, hfull₂⟩ := hstep.reflects hst hmiddle
    exact ⟨rows₂, hlast, hfull₂ ∘ hfull₁⟩

/-- A policy that could read every rule is full. -/
theorem isFull_of_preload {p : Policy} {s : σ} (hpreload : (p.preload st s).1 = .ok ()) :
    (p.preload st s).2.1.IsFull := by
  simp only [preload] at hpreload ⊢
  rcases hfirst : p.onPermissions (·.listAll st.permissions ·) s with ⟨e | rules, p₁, s₁⟩
  · simp [hfirst] at hpreload
  simp only [hfirst] at hpreload ⊢
  rcases hsecond : p₁.onCooldowns (·.listAll st.cooldowns ·) s₁ with ⟨e | rules, p₂, s₂⟩
  · simp [hsecond] at hpreload
  simp only [Policy.onPermissions, Prod.mk.injEq] at hfirst
  simp only [Policy.onCooldowns, Prod.mk.injEq] at hsecond
  obtain ⟨hok₁, rfl, -⟩ := hfirst
  obtain ⟨hok₂, rfl, -⟩ := hsecond
  exact ⟨Cache.state_of_listAll hok₁, Cache.state_of_listAll hok₂⟩

/-! ### Authorization -/

theorem grants_unrestricted (rank : Rank) (invoker : Invoker) (action : String) :
    (PermissionRule.unrestricted action).grants rank invoker = true := by
  cases rank <;> rfl

theorem grants_failClosed_iff (rank : Rank) (invoker : Invoker) (action : String) :
    (PermissionRule.failClosed action).grants rank invoker = true ↔ rank = .owner := by
  have hgrants : (PermissionRule.failClosed action).grants rank invoker =
      decide (Rank.owner ≤ rank) := Bool.or_false _
  rw [hgrants]
  cases rank <;> decide

theorem grants_governing_iff (t : Table String PermissionRule) (rank : Rank) (invoker : Invoker)
    (action : String) :
    ((t.governing? action).getD (.unrestricted action)).grants rank invoker = true ↔
      t.Grants rank invoker action := by
  unfold Table.Grants
  cases t.governing? action with
  | none => simp [grants_unrestricted]
  | some rule => simp

theorem resolvePermission_fst (st : RuleStores σ) (p : Policy) (s : σ) (action : String) :
    (p.resolvePermission st action s).1 =
      match (p.permissions.resolve st.permissions action s).1 with
      | .ok found => found.getD (.unrestricted action)
      | .error _ => .failClosed action := by
  simp only [resolvePermission, Policy.onPermissions]
  rcases (p.permissions.resolve st.permissions action s).1 with e | _ | rule <;> rfl

theorem authorize_eq_granted_iff (st : RuleStores σ) (p : Policy) (s : σ) (rank : Rank)
    (invoker : Invoker) (action : String) :
    (p.authorize st rank invoker action s).1 = .granted ↔
      (p.resolvePermission st action s).1.grants rank invoker = true := by
  simp only [authorize]
  split_ifs with hgrants
  · simp [hgrants]
  · simp [hgrants]

/-- A lookup that succeeds finds the governing rule. -/
theorem resolve_of_reflects (hst : st.Lawful holds) {p : Policy} {s : σ} {rows : RuleTables}
    (hp : p.Reflects holds s rows) {action : String} (hspace : action.toList.head? ≠ some ' ')
    {found : Option PermissionRule}
    (hfound : (p.permissions.resolve st.permissions action s).1 = .ok found) :
    found = rows.permissions.governing? action := by
  have hrun : ((CacheCall.resolve action).run st.permissions p.permissions s).1 =
      .ok (.row found) := by simp only [CacheCall.run, hfound, Except.map]
  exact CacheAnswer.row.inj
    (CacheCall.answer_of_run (hst.permissions rows) hp.permissions (.resolve action) hspace hrun)

/-- An action is granted only if the rows grant it or the invoker is an owner, and exactly if the
rows grant it where the lookup succeeds. -/
theorem authorize_of_reflects (hst : st.Lawful holds) {p : Policy} {s : σ} {rows : RuleTables}
    (hp : p.Reflects holds s rows) (rank : Rank) (invoker : Invoker) {action : String}
    (hspace : action.toList.head? ≠ some ' ') :
    let decision := (p.authorize st rank invoker action s).1
    (decision = .granted → rows.permissions.Grants rank invoker action ∨ rank = .owner) ∧
      ((p.permissions.resolve st.permissions action s).1.isOk →
        (decision = .granted ↔ rows.permissions.Grants rank invoker action)) := by
  simp only [authorize_eq_granted_iff, resolvePermission_fst]
  cases hresolve : (p.permissions.resolve st.permissions action s).1 with
  | error e =>
    simp only [grants_failClosed_iff]
    exact ⟨Or.inr, fun hok ↦ by cases hok⟩
  | ok found =>
    have hgoverning := resolve_of_reflects hst hp hspace hresolve
    simp only [hgoverning, grants_governing_iff]
    exact ⟨Or.inl, fun _ ↦ trivial⟩

/-! ### Full policies -/

theorem authorize_eq_of_full (st : RuleStores σ) {p : Policy} {s : σ} {rows : RuleTables}
    (hp : p.Reflects holds s rows) (hfull : p.IsFull) (rank : Rank) (invoker : Invoker)
    (action : String) :
    p.authorize st rank invoker action s =
      (let rule := (rows.permissions.governing? action).getD (.unrestricted action)
        if rule.grants rank invoker then .granted else .denied rule, p, s) := by
  have hresolve := hp.permissions.mirrors.resolve_eq_of_full hfull.1 st.permissions action s
  simp only [authorize, resolvePermission, Policy.onPermissions, hresolve]
  cases rows.permissions.governing? action <;> rfl

/-- Where nothing has to be read, the rule that governs an action is found without a change. -/
theorem cooldownRule_eq_of_full (st : RuleStores σ) {p : Policy} {s : σ} {rows : RuleTables}
    (hp : p.Reflects holds s rows) (hfull : p.IsFull) (action : String) :
    p.cooldownRule st action s =
      ((rows.cooldowns.governing? action).filter (·.isEnforced), p, s) := by
  have hresolve := hp.cooldowns.mirrors.resolve_eq_of_full hfull.2 st.cooldowns action s
  simp only [cooldownRule, Policy.onCooldowns, hresolve]

/-- A check of a full policy answers what is left of the cooldown that governs the action. -/
theorem checkCooldown_fst_of_full (st : RuleStores σ) {p : Policy} {s : σ} {rows : RuleTables}
    (hp : p.Reflects holds s rows) (hfull : p.IsFull) (rank : Rank) (now : Instant)
    (action : String) :
    (p.checkCooldown st rank now action s).1 = rows.cooldowns.left? rank now action := by
  rw [checkCooldown, Table.left?, cooldownRule_eq_of_full st hp hfull]
  by_cases hrank : rank.isPrivileged = true
  · rw [if_pos hrank, if_pos hrank]
  rw [if_neg hrank, if_neg hrank]
  cases hrule : (rows.cooldowns.governing? action).filter (·.isEnforced) with
  | none => rfl
  | some rule =>
    obtain ⟨hfound, henforced⟩ := Option.filter_eq_some_iff.mp hrule
    have hget := hp.cooldowns.mirrors.get_eq_of_full hfull.2 st.cooldowns rule.action s
    have hstored : rows.cooldowns.get? rule.action = some rule :=
      hp.cooldowns.keyed.get?_of_governing? hfound
    simp only [Policy.onCooldowns, hget, hstored, Option.filter_some, henforced, if_true,
      Option.bind_some, CooldownRule.left?]
    cases rule.last.bind fun last ↦ remaining? rule.duration last.instant now with
    | none => rfl
    | some left => rfl

end Reflects

end Policy

/-! ### Runs -/

/-- An operation on a guild's rules, or a call of one of the two caches. -/
inductive PolicyCall where
  | preload
  | resolvePermission (action : String)
  | authorize (rank : Rank) (invoker : Invoker) (action : String)
  | checkCooldown (rank : Rank) (now : Instant) (action : String)
  | setPermission (rule : PermissionRule)
  | removePermission (action : String)
  | listPermissions
  | setCooldown (action : String) (duration : Duration)
  | removeCooldown (action : String)
  | listCooldowns
  | permissionCache (call : CacheCall PermissionRule)
  | cooldownCache (call : CacheCall CooldownRule)

namespace PolicyCall

open Policy

/-- What an operation leaves. -/
def run (st : RuleStores σ) (call : PolicyCall) (p : Policy) (s : σ) : Policy × σ :=
  match call with
  | preload => (p.preload st s).2
  | resolvePermission action => (p.resolvePermission st action s).2
  | authorize rank invoker action => (p.authorize st rank invoker action s).2
  | checkCooldown rank now action => (p.checkCooldown st rank now action s).2
  | setPermission rule => (p.setPermission st rule s).2
  | removePermission action => (p.removePermission st action s).2
  | listPermissions => (p.listPermissions st s).2
  | setCooldown action duration => (p.setCooldown st action duration s).2
  | removeCooldown action => (p.removeCooldown st action s).2
  | listCooldowns => (p.listCooldowns st s).2
  | permissionCache call => (p.onPermissions (call.run st.permissions) s).2
  | cooldownCache call => (p.onCooldowns (call.run st.cooldowns) s).2

def runAll (st : RuleStores σ) (calls : List PolicyCall) (p : Policy) (s : σ) : Policy × σ :=
  calls.foldl (fun a call ↦ call.run st a.1 a.2) (p, s)

/-- An operation is made of calls of the caches, unless it is such a call itself. -/
theorem evolves_run (st : RuleStores σ) (call : PolicyCall) (p : Policy) (s : σ)
    (hpermissions : ∀ c, call ≠ permissionCache c) (hcooldowns : ∀ c, call ≠ cooldownCache c) :
    Evolves st (p, s) (call.run st p s) := by
  cases call with
  | preload => exact evolves_preload st p s
  | resolvePermission action => exact evolves_resolvePermission st p s action
  | authorize rank invoker action => exact evolves_authorize st p s rank invoker action
  | checkCooldown rank now action => exact evolves_checkCooldown st p s rank now action
  | setPermission rule => exact evolves_setPermission st p s rule
  | removePermission action => exact evolves_removePermission st p s action
  | listPermissions => exact evolves_listPermissions st p s
  | setCooldown action duration => exact evolves_setCooldown st p s action duration
  | removeCooldown action => exact evolves_removeCooldown st p s action
  | listCooldowns => exact evolves_listCooldowns st p s
  | permissionCache c => exact absurd rfl (hpermissions c)
  | cooldownCache c => exact absurd rfl (hcooldowns c)

variable {st : RuleStores σ} {holds : σ → RuleTables → Prop}

theorem reflects_run (hst : st.Lawful holds) (call : PolicyCall) {p : Policy} {s : σ}
    {rows : RuleTables} (hp : p.Reflects holds s rows) :
    ∃ rows', (call.run st p s).1.Reflects holds (call.run st p s).2 rows' := by
  -- Calls of one cache may forget everything, which no operation of a policy does.
  by_cases hpermissions : ∃ c, call = permissionCache c
  · obtain ⟨c, rfl⟩ := hpermissions
    exact ⟨_, hp.onPermissions hst c⟩
  by_cases hcooldowns : ∃ c, call = cooldownCache c
  · obtain ⟨c, rfl⟩ := hcooldowns
    exact ⟨_, hp.onCooldowns hst c⟩
  have hevolves := evolves_run st call p s (not_exists.mp hpermissions)
    (not_exists.mp hcooldowns)
  obtain ⟨rows', hreflects, -⟩ := hevolves.reflects hst hp
  exact ⟨rows', hreflects⟩

theorem reflects_runAll (hst : st.Lawful holds) (calls : List PolicyCall) {p : Policy} {s : σ}
    {rows : RuleTables} (hp : p.Reflects holds s rows) :
    ∃ rows', (runAll st calls p s).1.Reflects holds (runAll st calls p s).2 rows' := by
  induction calls generalizing p s rows with
  | nil => exact ⟨rows, hp⟩
  | cons call calls ih =>
    obtain ⟨rows', hreflects⟩ := reflects_run hst call hp
    exact ih hreflects

/-- Failures never grant. After any operations over stores of which any call may fail or be
refused, an action is granted only if the permission rows then in the store grant it or the invoker
is an owner; where the lookup succeeds it is granted exactly if they do. -/
theorem authorize_runAll {rows : σ → RuleTables} (hst : st.Lawful fun s t ↦ rows s = t)
    {p : Policy} {s : σ} (hp : p.Reflects (fun s t ↦ rows s = t) s (rows s))
    (calls : List PolicyCall) (rank : Rank) (invoker : Invoker) {action : String}
    (hspace : action.toList.head? ≠ some ' ') :
    let now := runAll st calls p s
    let decision := (now.1.authorize st rank invoker action now.2).1
    (decision = .granted →
        (rows now.2).permissions.Grants rank invoker action ∨ rank = .owner) ∧
      ((now.1.permissions.resolve st.permissions action now.2).1.isOk →
        (decision = .granted ↔ (rows now.2).permissions.Grants rank invoker action)) := by
  obtain ⟨rows', hreflects⟩ := reflects_runAll hst calls hp
  have hrows : rows (runAll st calls p s).2 = rows' := hreflects.permissions.holds
  subst hrows
  exact authorize_of_reflects hst hreflects rank invoker hspace

/-- A rule by which only admins may do anything with roles. -/
def lockedRoles : RuleTables := ⟨.ofRows [{ action := "role", rank := .admin }], ∅⟩

/-- A lookup, a replacement and a removal of the rule. -/
def brokenCalls : List PolicyCall :=
  [.resolvePermission "role", .setPermission { action := "role", rank := .user },
    .removePermission "role"]

/-- A failed reading, a refused row and a failed removal. -/
def breaks : List RowStore.Verdict := [.fails, .refuses, .fails]

theorem authorize_runAll_brokenCalls :
    let now := runAll RuleStores.memory.scripted brokenCalls {} (lockedRoles, breaks)
    let invoker : Invoker := { id := 3, name := "guest" }
    (now.1.authorize RuleStores.memory.scripted .member invoker "role get" now.2).1 ≠ .granted ∧
      ¬ now.2.1.permissions.Grants .member invoker "role get" := by
  intro now invoker
  have hspace : "role get".toList.head? ≠ some ' ' := by decide
  have hfresh : ({} : Policy).Reflects (fun s rows ↦ s.1 = rows) (lockedRoles, breaks)
      lockedRoles := reflects_fresh rfl (Table.isKeyed_ofRows _) Table.isKeyed_empty
  have hdenied : (now.1.authorize RuleStores.memory.scripted .member invoker "role get" now.2).1 ≠
      .granted := by decide
  have hlookup : (now.1.permissions.resolve RuleStores.memory.scripted.permissions "role get"
      now.2).1.isOk := by decide
  have hnever := authorize_runAll RuleStores.lawful_memory.scripted hfresh brokenCalls .member
    invoker hspace
  exact ⟨hdenied, fun hgrants ↦ hdenied ((hnever.2 hlookup).mpr hgrants)⟩

end PolicyCall

end Guildhall
