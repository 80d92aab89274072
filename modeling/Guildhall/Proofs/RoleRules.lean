import Guildhall.Command.Permissions
import Guildhall.Proofs.Cooldown

/-!
What a role lets through. A rule that only a role was asked for keeps the rank of the rule that is
found for exactly its action, and asks for an admin where none is found
(`PermissionRequest.addRole_spec`). So it opens an action to a member without the role in one case
alone: the member is an admin, the rule that kept admins out was inherited from a shorter action or
could not be read, and the new rule now stands before it (`PermissionRequest.addRole_widens_iff`,
`PermissionRequest.role_opens_inherited_lock`).
-/

set_option autoImplicit false

namespace Guildhall

variable {σ V : Type}

/-! ### A row that is put into a table -/

/-- A new row governs an action, instead of the row it takes the place of, or it changes nothing of
the action. -/
theorem Table.governing?_insert (t : Table String V) (key : String) (row : V) (action : String) :
    (t.insert key row).governing? action = t.governing? action ∨
      (t.insert key row).governing? action = some row ∧
        ∀ old, t.get? key = some old → t.governing? action = some old := by
  cases hgoverning : (t.insert key row).governing? action with
  | none =>
    left
    rw [eq_comm, governing?_eq_none_iff]
    intro key' hgoverns
    have hnone := governing?_eq_none_iff.mp hgoverning key' hgoverns
    rw [get?_insert] at hnone
    split_ifs at hnone
    exact hnone
  | some found =>
    obtain ⟨longest, hget, hgoverns, hlongest⟩ := governing?_eq_some_iff.mp hgoverning
    -- What governs the action among the old rows has a key among the new ones.
    have hold : ∀ key' row', t.get? key' = some row' → Governs key' action →
        key'.length ≤ longest.length := by
      intro key' row' hget' hgoverns'
      by_cases hsame : key' = key
      · exact hlongest key' row (by rw [get?_insert, if_pos hsame]) hgoverns'
      · exact hlongest key' row' (by rw [get?_insert, if_neg hsame, hget']) hgoverns'
    rw [get?_insert] at hget
    split_ifs at hget with hkey
    · right
      subst hkey
      refine ⟨hget.symm, fun old hreplaced ↦ ?_⟩
      exact governing?_eq_some_iff.mpr ⟨longest, hreplaced, hgoverns, hold⟩
    · left
      rw [eq_comm]
      exact governing?_eq_some_iff.mpr ⟨longest, hget, hgoverns, hold⟩

namespace Policy

variable {st : RuleStores σ} {rows : σ → RuleTables} {p : Policy} {s : σ}

/-- A policy follows every state that holds the same rows, whatever else changes in it. -/
theorem Follows.of_rows {s' : σ} (hp : Follows rows (p, s)) (hrows : rows s' = rows s) :
    Follows rows (p, s') := by
  unfold Follows at hp ⊢
  rw [hrows]
  exact ⟨⟨hp.permissions.mirrors, hrows, hp.permissions.keyed⟩,
    ⟨hp.cooldowns.mirrors, hrows, hp.cooldowns.keyed⟩⟩

section

variable (hst : st.Lawful fun s t ↦ rows s = t) (hp : Follows rows (p, s))
include hst hp

theorem follows_onPermissions (call : CacheCall PermissionRule) :
    let r := p.onPermissions (call.run st.permissions) s
    Follows rows r.2 ∧
      rows r.2.2 = { rows s with permissions := call.rowsAfter r.1 (rows s).permissions } := by
  obtain ⟨hrows, hfollows⟩ := (Reflects.onPermissions hst hp call).follows
  exact ⟨hfollows, hrows⟩

theorem rows_of_reads (call : CacheCall PermissionRule) (hreads : call.Reads) :
    let r := p.onPermissions (call.run st.permissions) s
    Follows rows r.2 ∧ rows r.2.2 = rows s := by
  obtain ⟨hfollows, hrows⟩ := follows_onPermissions hst hp call
  exact ⟨hfollows, hrows.trans (by rw [CacheCall.rowsAfter_of_reads hreads])⟩

/-- An authorization changes no row. -/
theorem rows_authorize (rank : Rank) (invoker : Invoker) (action : String) :
    let after := (p.authorize st rank invoker action s).2
    Follows rows after ∧ rows after.2 = rows s := by
  have hsame : (p.authorize st rank invoker action s).2 =
      (p.onPermissions (CacheCall.run st.permissions (.resolve action)) s).2 := by
    simp only [authorize, resolvePermission, onPermissions, CacheCall.run]
    rcases p.permissions.resolve st.permissions action s with ⟨e | _ | rule, c, s'⟩ <;> rfl
  rw [hsame]
  exact rows_of_reads hst hp (.resolve action) trivial

/-- A lookup of the rule for exactly an action changes no row and, unless it fails, finds the
rule. -/
theorem getPermission_spec (action : String) :
    let r := p.getPermission st action s
    (Follows rows r.2 ∧ rows r.2.2 = rows s) ∧
      ∀ found, r.1 = .ok found → found = (rows s).permissions.get? action := by
  refine ⟨rows_of_reads hst hp (.get action) trivial, fun found hfound ↦ ?_⟩
  have hrun : (CacheCall.run st.permissions (.get action) p.permissions s).1 =
      .ok (.row found) := congrArg (·.map CacheAnswer.row) hfound
  exact CacheAnswer.row.inj (CacheCall.answer_of_run (hst.permissions (rows s)) hp.permissions
    (.get action) trivial hrun)

/-- A rule is stored, or the store failed and no row changed. -/
theorem setPermission_spec (rule : PermissionRule) :
    let r := p.setPermission st rule s
    Follows rows r.2 ∧ (rows r.2.2 = rows s ∨ rows r.2.2 =
      { rows s with permissions := (rows s).permissions.insert rule.action rule }) := by
  obtain ⟨hfollows, hrows⟩ := follows_onPermissions hst hp (.upsert rule)
  refine ⟨hfollows, ?_⟩
  rcases hanswer : (p.onPermissions (CacheCall.run st.permissions (.upsert rule)) s).1 with e | a
  · rw [hanswer] at hrows
    exact Or.inl hrows
  · rw [hanswer] at hrows
    exact Or.inr hrows

end

end Policy

/-! ### Rules for a role -/

/-- The rule that only a role was asked for, after a lookup of the rule that it takes the place
of. -/
def PermissionRule.forRole (role : Id) (action : String)
    (found : Except CacheError (Option PermissionRule)) : PermissionRule where
  action := action
  rank := match found with
    | .ok (some existing) => existing.rank
    | _ => .admin
  role := some role

namespace PermissionRule

variable {role : Id} {action : String} {found : Except CacheError (Option PermissionRule)}

/-- To a member without the role, the rule asks for its rank. -/
theorem grants_forRole_iff {invoker : Invoker} (hrole : role ∉ invoker.roles) (rank : Rank) :
    (forRole role action found).grants rank invoker = true ↔
      (forRole role action found).rank ≤ rank := by
  have hheld : (forRole role action found).role.any (invoker.roles.contains ·) = false := by
    simpa [forRole] using hrole
  rw [grants, hheld, Bool.or_false, decide_eq_true_iff]

theorem rank_forRole (hfound : ∀ rule, found ≠ .ok (some rule)) :
    (forRole role action found).rank = .admin := by
  rcases found with e | _ | rule
  · rfl
  · rfl
  · exact absurd rfl (hfound rule)

end PermissionRule

namespace PermissionRequest

open Policy

variable {st : RuleStores σ} {rows : σ → RuleTables} {p : Policy} {s : σ}

theorem run_addRole (st : RuleStores σ) (role : Id) (action : String) (p : Policy) (s : σ) :
    (addRole role action).run st p s =
      let (found, p, s) := p.getPermission st action s
      store st (.forRole role action found) p s := rfl

theorem store_snd (st : RuleStores σ) (rule : PermissionRule) (p : Policy) (s : σ) :
    (store st rule p s).2 = (p.setPermission st rule s).2 := by
  simp only [store]
  rcases p.setPermission st rule s with ⟨e | ⟨⟩, p', s'⟩ <;> rfl

/-- A rule for a role is stored with the rank of the rule that was found for exactly its action, or
the store failed and no row changed. -/
theorem addRole_spec (hst : st.Lawful fun s t ↦ rows s = t) (hp : Follows rows (p, s)) (role : Id)
    (action : String) :
    let found := (p.getPermission st action s).1
    let after := ((addRole role action).run st p s).2
    Follows rows after ∧
      (∀ rule, found = .ok (some rule) → (rows s).permissions.get? action = some rule) ∧
      (rows after.2 = rows s ∨ rows after.2 = { rows s with
        permissions := (rows s).permissions.insert action (.forRole role action found) }) := by
  obtain ⟨⟨hfollows, hrows⟩, hfound⟩ := getPermission_spec hst hp action
  rw [run_addRole]
  rcases hget : p.getPermission st action s with ⟨found, p', s'⟩
  rw [hget] at hfollows hrows hfound
  simp only [store_snd]
  obtain ⟨hset, hstored⟩ := setPermission_spec hst hfollows (.forRole role action found)
  rw [hrows] at hstored
  exact ⟨hset, fun rule hrule ↦ (hfound _ hrule).symm, hstored⟩

/-- The rows that let nobody without a role run an action let them run it after a rule for the role
was asked for only where that rule governs the action, its rank is not kept from a rule that was
found, and their rank is admin. -/
theorem grants_addRole_iff {t t' : Table String PermissionRule} {role : Id} {action wanted : String}
    {found : Except CacheError (Option PermissionRule)} {rank : Rank} {invoker : Invoker}
    (hrole : role ∉ invoker.roles) (hdenied : ¬ t.Grants rank invoker wanted)
    (hfound : ∀ rule, found = .ok (some rule) → t.get? action = some rule)
    (ht' : t' = t ∨ t' = t.insert action (.forRole role action found)) :
    t'.Grants rank invoker wanted ↔
      .admin ≤ rank ∧ (∀ rule, found ≠ .ok (some rule)) ∧
        t'.governing? wanted = some (.forRole role action found) := by
  have hkept : t'.governing? wanted = t.governing? wanted → ¬ t'.Grants rank invoker wanted := by
    intro hsame hgrants
    exact hdenied fun rule hrule ↦ hgrants rule (hsame.trans hrule)
  constructor
  · intro hgrants
    obtain ⟨hnew, hold⟩ : t'.governing? wanted = some (.forRole role action found) ∧
        ∀ old, t.get? action = some old → t.governing? wanted = some old := by
      rcases ht' with rfl | rfl
      · exact absurd hgrants (hkept rfl)
      · exact (t.governing?_insert action _ wanted).resolve_left fun hsame ↦ hkept hsame hgrants
    have hrank := (PermissionRule.grants_forRole_iff hrole rank).mp (hgrants _ hnew)
    -- A rule that was found governed the action before, with the rank that the new one has.
    have hnone : ∀ rule, found ≠ .ok (some rule) := by
      rintro rule rfl
      refine hdenied fun rule' hrule' ↦ ?_
      have hsame := hold rule (hfound rule rfl)
      rw [hsame, Option.some.injEq] at hrule'
      subst hrule'
      have hrank' : rule.rank ≤ rank := hrank
      simp [PermissionRule.grants, hrank']
    rw [PermissionRule.rank_forRole hnone] at hrank
    exact ⟨hrank, hnone, hnew⟩
  · rintro ⟨hadmin, hnone, hnew⟩ rule hrule
    rw [hnew, Option.some.injEq] at hrule
    rw [← hrule, PermissionRule.grants_forRole_iff hrole, PermissionRule.rank_forRole hnone]
    exact hadmin

/-- What a rule for a role opens to a member without the role. The member was denied an action, the
rule was asked for while any call of the store could fail, and then the action is looked up again.
It is granted exactly if the member is an admin, no rule was found for exactly the action of the
new rule, and the new rule is the one that now governs. -/
theorem addRole_widens_iff (hst : st.Lawful fun s t ↦ rows s = t) (hp : Follows rows (p, s))
    {rank : Rank} {invoker : Invoker} {wanted : String} (hspace : wanted.toList.head? ≠ some ' ')
    {role : Id} (hrole : role ∉ invoker.roles) (action : String) :
    let before := p.authorize st rank invoker wanted s
    (p.permissions.resolve st.permissions wanted s).1.isOk → before.1 ≠ .granted →
    ∀ s₁, rows s₁ = rows before.2.2 →
      let found := (before.2.1.getPermission st action s₁).1
      let after := (addRole role action).run st before.2.1 s₁
      ∀ s₂, rows s₂ = rows after.2.2 →
        (after.2.1.permissions.resolve st.permissions wanted s₂).1.isOk →
        ((after.2.1.authorize st rank invoker wanted s₂).1 = .granted ↔
          .admin ≤ rank ∧ (∀ rule, found ≠ .ok (some rule)) ∧
            (rows s₂).permissions.governing? wanted = some (.forRole role action found)) := by
  intro before hread hdenied s₁ hs₁ found after s₂ hs₂ hread'
  obtain ⟨hbefore, hrows⟩ := rows_authorize hst hp rank invoker wanted
  have hstart : Follows rows (before.2.1, s₁) := hbefore.of_rows hs₁
  obtain ⟨hafter, hfound, hstored⟩ := addRole_spec hst hstart role action
  have hend : Follows rows (after.2.1, s₂) := hafter.of_rows hs₂
  have hbegan := ((authorize_of_reflects hst hp rank invoker hspace).2 hread).not.mp hdenied
  rw [(authorize_of_reflects hst hend rank invoker hspace).2 hread']
  refine grants_addRole_iff hrole ?_ hfound ?_
  · rwa [hs₁, hrows]
  · rw [hs₂]
    exact hstored.imp (congrArg RuleTables.permissions) (congrArg RuleTables.permissions)

/-- Only owners may do anything with events. -/
def lockedEvents : RuleTables := ⟨.ofRows [{ action := "event", rank := .owner }], ∅⟩

/-- A member below admin stays locked out, although the rule could not be looked up. -/
theorem addRole_widens_iff_guest :
    let st := RuleStores.memory.scripted
    let guest : Invoker := { id := 3, name := "guest" }
    let before := ({} : Policy).authorize st .member guest "event list" (lockedEvents, [])
    let after := (addRole 7 "event list").run st before.2.1 (before.2.2.1, [.fails])
    before.1 ≠ .granted ∧
      (after.2.1.authorize st .member guest "event list" (after.2.2.1, [])).1 ≠ .granted := by
  intro st guest before after
  have hfresh : Follows (fun s : RuleTables × List RowStore.Verdict ↦ s.1)
      (({} : Policy), (lockedEvents, [])) :=
    reflects_fresh rfl (Table.isKeyed_ofRows _) Table.isKeyed_empty
  have hspace : "event list".toList.head? ≠ some ' ' := by decide
  have hrole : 7 ∉ guest.roles := by decide
  have hdenied : before.1 ≠ .granted := by decide
  refine ⟨hdenied, fun hgranted ↦ ?_⟩
  have hwidens := addRole_widens_iff RuleStores.lawful_memory.scripted hfresh hspace hrole
    "event list" (by decide) hdenied (before.2.2.1, [.fails]) rfl (after.2.2.1, []) rfl (by decide)
  exact absurd (hwidens.mp hgranted).1 (by decide)

/-- An admin who is locked out by the rule for all events is let in by a rule for a role that they
do not hold. -/
theorem role_opens_inherited_lock :
    let admin : Invoker := { id := 2, name := "admin" }
    let before := ({} : Policy).authorize .memory .admin admin "event list" lockedEvents
    let after := (addRole 7 "event list").run .memory before.2.1 before.2.2
    before.1 = .denied { action := "event", rank := .owner } ∧
      after.1 = .requires { action := "event list", rank := .admin, role := some 7 } ∧
      (after.2.1.authorize .memory .admin admin "event list" after.2.2).1 = .granted := by
  decide

end PermissionRequest

end Guildhall
