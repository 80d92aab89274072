import Guildhall.Policy.Resolver
import Guildhall.Proofs.Transparency

/-!
Views of stores. A store may be seen as another through a view of its states (`RowStore.SeenAs`):
beside a log, say, or without one. What caches and policies do over the store that is seen is what
they do over the one behind the view: the answers are the same, they come to know the same, and the
states are those that the view shows (`CacheCall.actsAlike_run`).
-/

set_option autoImplicit false

namespace Guildhall

variable {σ τ α β V : Type}

/-- What an operation leaves, with the state seen through a view. -/
def seen (view : σ → τ) (r : α × β × σ) : α × β × τ := (r.1, r.2.1, view r.2.2)

/-- On the states that a view shows the second operation does what the first does behind it. -/
def ActsAlike (view : σ → τ) (op : β → σ → α × β × σ) (op' : β → τ → α × β × τ) : Prop :=
  ∀ x s, op' x (view s) = seen view (op x s)

/-- A store that is seen through a view as another. -/
structure RowStore.SeenAs (st : RowStore σ V) (view : σ → τ) (st' : RowStore τ V) : Prop where
  loadAll : ∀ s, st'.loadAll (view s) = ((st.loadAll s).1, view (st.loadAll s).2)
  loadOne : ∀ key s, st'.loadOne key (view s) = ((st.loadOne key s).1, view (st.loadOne key s).2)
  upsert : ∀ row s, st'.upsert row (view s) = ((st.upsert row s).1, view (st.upsert row s).2)
  delete : ∀ key s, st'.delete key (view s) = ((st.delete key s).1, view (st.delete key s).2)

/-! ### Caches -/

namespace Cache

variable {st : RowStore σ V} {view : σ → τ} {st' : RowStore τ V} (hst : st.SeenAs view st')

include hst

theorem loadOne_view (c : Cache V) (key : String) (s : σ) :
    c.loadOne st' key (view s) = ((c.loadOne st key s).1, view (c.loadOne st key s).2) := by
  simp only [loadOne, hst.loadOne]
  rcases st.loadOne key s with ⟨fault | row, s'⟩
  · rfl
  · rfl

theorem loadEach_view (c : Cache V) (keys : List String) (s : σ) :
    c.loadEach st' keys (view s) = ((c.loadEach st keys s).1, view (c.loadEach st keys s).2) := by
  induction keys generalizing s with
  | nil => rfl
  | cons key keys ih =>
    simp only [loadEach, loadOne_view hst]
    rcases c.loadOne st key s with ⟨e | row, s₁⟩
    · rfl
    · simp only [ih]
      rcases c.loadEach st keys s₁ with ⟨e | rows, s₂⟩
      · rfl
      · rfl

theorem actsAlike_get (key : String) : ActsAlike view (get st key) (get st' key) := by
  intro c s
  simp only [get]
  cases c.lookup key with
  | some known => rfl
  | none =>
    simp only [loadOne_view hst]
    rcases c.loadOne st key s with ⟨e | row, s'⟩
    · rfl
    · rfl

theorem actsAlike_find (key : String) : ActsAlike view (find st key) (find st' key) := by
  intro c s
  simp only [find, actsAlike_get hst key c s]
  rcases c.get st key s with ⟨e | found, c', s'⟩
  · rfl
  · rfl

theorem actsAlike_resolve (query : String) :
    ActsAlike view (resolve st query) (resolve st' query) := by
  intro c s
  simp only [resolve]
  split_ifs
  · rfl
  · simp only [loadEach_view hst]
    rcases c.loadEach st (c.missing query) s with ⟨e | rows, s'⟩
    · rfl
    · rfl

theorem actsAlike_remove (key : String) : ActsAlike view (remove st key) (remove st' key) := by
  intro c s
  simp only [remove, hst.delete]
  rcases st.delete key s with ⟨fault | existed, s'⟩
  · rfl
  · rfl

variable [Keyed V]

theorem actsAlike_listAll : ActsAlike view (listAll st) (listAll st') := by
  intro c s
  simp only [listAll]
  split_ifs
  · rfl
  · simp only [hst.loadAll]
    rcases st.loadAll s with ⟨fault | rows, s'⟩
    · rfl
    · rfl

theorem actsAlike_upsert (row : V) : ActsAlike view (upsert st row) (upsert st' row) := by
  intro c s
  simp only [upsert, hst.upsert]
  rcases st.upsert row s with ⟨fault | _ | _, s'⟩
  · rfl
  · rfl
  · rfl

theorem actsAlike_upsertIf (taken : Bool) (row : V) :
    ActsAlike view (upsertIf st taken row) (upsertIf st' taken row) := by
  intro c s
  simp only [upsertIf, actsAlike_get hst _ c s]
  rcases c.get st (Keyed.key row) s with ⟨e | found, c₁, s₁⟩
  · rfl
  · simp only [seen, actsAlike_upsert hst row c₁ s₁]
    split_ifs
    · rcases c₁.upsert st row s₁ with ⟨e | ⟨⟩, c₂, s₂⟩
      · rfl
      · rfl
    · rfl

end Cache

namespace CacheCall

variable [Keyed V] {st : RowStore σ V} {view : σ → τ} {st' : RowStore τ V}

/-- Each call of a cache does over the store that is seen what it does over the one behind. -/
theorem actsAlike_run (hst : st.SeenAs view st') (call : CacheCall V) :
    ActsAlike view (run st call) (run st' call) := by
  intro c s
  cases call with
  | get key => simp only [run, Cache.actsAlike_get hst key c s, seen]
  | resolve query => simp only [run, Cache.actsAlike_resolve hst query c s, seen]
  | listAll => simp only [run, Cache.actsAlike_listAll hst c s, seen]
  | upsert row => simp only [run, Cache.actsAlike_upsert hst row c s, seen]
  | insertNew row =>
    simp only [run, Cache.insertNew, Cache.actsAlike_upsertIf hst false row c s, seen]
  | replace row => simp only [run, Cache.replace, Cache.actsAlike_upsertIf hst true row c s, seen]
  | remove key => simp only [run, Cache.actsAlike_remove hst key c s, seen]
  | invalidate => rfl

end CacheCall

/-! ### Policies -/

/-- The stores of a guild's rules that are seen through a view as others. -/
structure RuleStores.SeenAs (st : RuleStores σ) (view : σ → τ) (st' : RuleStores τ) : Prop where
  permissions : st.permissions.SeenAs view st'.permissions
  cooldowns : st.cooldowns.SeenAs view st'.cooldowns

namespace Policy

variable {view : σ → τ}

theorem actsAlike_onPermissions {op : Cache PermissionRule → σ → α × Cache PermissionRule × σ}
    {op' : Cache PermissionRule → τ → α × Cache PermissionRule × τ} (hop : ActsAlike view op op') :
    ActsAlike view (onPermissions op) (onPermissions op') := by
  intro p s
  simp only [onPermissions, hop p.permissions s, seen]

theorem actsAlike_onCooldowns {op : Cache CooldownRule → σ → α × Cache CooldownRule × σ}
    {op' : Cache CooldownRule → τ → α × Cache CooldownRule × τ} (hop : ActsAlike view op op') :
    ActsAlike view (onCooldowns op) (onCooldowns op') := by
  intro p s
  simp only [onCooldowns, hop p.cooldowns s, seen]

variable {st : RuleStores σ} {st' : RuleStores τ} (hst : st.SeenAs view st')

include hst

theorem actsAlike_listPermissions : ActsAlike view (listPermissions st) (listPermissions st') :=
  actsAlike_onPermissions (Cache.actsAlike_listAll hst.permissions)

theorem actsAlike_getPermission (action : String) :
    ActsAlike view (getPermission st action) (getPermission st' action) :=
  actsAlike_onPermissions (Cache.actsAlike_get hst.permissions action)

theorem actsAlike_setPermission (rule : PermissionRule) :
    ActsAlike view (setPermission st rule) (setPermission st' rule) :=
  actsAlike_onPermissions (Cache.actsAlike_upsert hst.permissions rule)

theorem actsAlike_removePermission (action : String) :
    ActsAlike view (removePermission st action) (removePermission st' action) :=
  actsAlike_onPermissions (Cache.actsAlike_remove hst.permissions action)

theorem actsAlike_listCooldowns : ActsAlike view (listCooldowns st) (listCooldowns st') :=
  actsAlike_onCooldowns (Cache.actsAlike_listAll hst.cooldowns)

theorem actsAlike_removeCooldown (action : String) :
    ActsAlike view (removeCooldown st action) (removeCooldown st' action) :=
  actsAlike_onCooldowns (Cache.actsAlike_remove hst.cooldowns action)

theorem actsAlike_preload : ActsAlike view (preload st) (preload st') := by
  intro p s
  simp only [preload, actsAlike_onPermissions (Cache.actsAlike_listAll hst.permissions) p s]
  rcases p.onPermissions (·.listAll st.permissions ·) s with ⟨e | rules, p₁, s₁⟩
  · rfl
  simp only [seen, actsAlike_onCooldowns (Cache.actsAlike_listAll hst.cooldowns) p₁ s₁]
  rcases p₁.onCooldowns (·.listAll st.cooldowns ·) s₁ with ⟨e | rules, p₂, s₂⟩
  · rfl
  · rfl

theorem actsAlike_resolvePermission (action : String) :
    ActsAlike view (resolvePermission st action) (resolvePermission st' action) := by
  intro p s
  simp only [resolvePermission,
    actsAlike_onPermissions (Cache.actsAlike_resolve hst.permissions action) p s]
  rcases p.onPermissions (·.resolve st.permissions action ·) s with ⟨e | _ | rule, p', s'⟩
  · rfl
  · rfl
  · rfl

theorem actsAlike_authorize (rank : Rank) (invoker : Invoker) (action : String) :
    ActsAlike view (authorize st rank invoker action) (authorize st' rank invoker action) := by
  intro p s
  simp only [authorize, actsAlike_resolvePermission hst action p s, seen]

theorem actsAlike_cooldownRule (action : String) :
    ActsAlike view (cooldownRule st action) (cooldownRule st' action) := by
  intro p s
  simp only [cooldownRule,
    actsAlike_onCooldowns (Cache.actsAlike_resolve hst.cooldowns action) p s]
  rcases p.onCooldowns (·.resolve st.cooldowns action ·) s with ⟨e | found, p', s'⟩
  · rfl
  · rfl

theorem actsAlike_setCooldown (action : String) (duration : Duration) :
    ActsAlike view (setCooldown st action duration) (setCooldown st' action duration) := by
  intro p s
  simp only [setCooldown, actsAlike_onCooldowns (Cache.actsAlike_get hst.cooldowns action) p s]
  rcases p.onCooldowns (·.get st.cooldowns action ·) s with ⟨e | found, p', s'⟩
  · rfl
  · exact actsAlike_onCooldowns (Cache.actsAlike_upsert hst.cooldowns _) p' s'

theorem actsAlike_checkCooldown (rank : Rank) (now : Instant) (action : String) :
    ActsAlike view (checkCooldown st rank now action) (checkCooldown st' rank now action) := by
  intro p s
  simp only [checkCooldown]
  split_ifs
  · rfl
  simp only [actsAlike_cooldownRule hst action p s]
  rcases p.cooldownRule st action s with ⟨_ | governing, p₁, s₁⟩
  · rfl
  simp only [seen, actsAlike_onCooldowns (Cache.actsAlike_get hst.cooldowns _) p₁ s₁]
  rcases p₁.onCooldowns (·.get st.cooldowns governing.action ·) s₁ with ⟨e | found, p₂, s₂⟩
  · rfl
  dsimp only
  cases found.filter (·.isEnforced) with
  | none => rfl
  | some rule =>
    dsimp only
    cases rule.last.bind fun last ↦ remaining? rule.duration last.instant now with
    | some left => rfl
    | none =>
      have hreplace : ActsAlike view (Cache.replace st.cooldowns
          { rule with last := some { instant := now } }) (Cache.replace st'.cooldowns _) :=
        Cache.actsAlike_upsertIf hst.cooldowns true _
      simp only [actsAlike_onCooldowns hreplace p₂ s₂, seen]

end Policy

end Guildhall
