import Guildhall.Proofs.Commands
import Guildhall.Proofs.Cooldown

/-!
What the answers of commands say of the stores. An answer is true if the rows before and after the
command are as it says (`Answer.IsTrue`): an answer that announces a row leaves that row, one that
announces a removal takes away a row that was there, and with every other answer no row changes.
Each request is carried out with an answer that is true, whatever its caches know and whichever
calls of the stores fail or are refused (`PermissionRequest.isTrue_run`,
`CooldownRequest.isTrue_run`, `CustomRequest.isTrue_run`, `KeywordRequest.isTrue_run`), and so is
every built-in command (`Builtin.answer_is_true`).
-/

set_option autoImplicit false

namespace Guildhall

variable {σ V γ ω : Type}

/-! ### True answers -/

/-- Whether a row of the name has to be there for it to be written. -/
def WriteMode.isTaken : WriteMode → Bool
  | create => false
  | overwrite => true

/-- What an answer about permission rules says of the rules before and after. -/
def PermissionAnswer.IsTrue (before after : Rows PermissionRule) : PermissionAnswer → Prop
  | requires rule => after = before.insert rule.action rule
  | removed action => before.contains action = true ∧ after = before.erase action
  | noRule action => before.contains action = false ∧ after = before
  | usage | unknownRank _ | governedBy _ _ | listing _ | unsaved _ | unreadable _ => after = before

/-- What an answer about cooldowns says of the cooldowns before and after. A cooldown that is set
keeps when its action last ran. -/
def CooldownAnswer.IsTrue (before after : Rows CooldownRule) : CooldownAnswer → Prop
  | limited action duration =>
    after = before.insert action { action, duration, last := (before.get? action).bind (·.last) }
  | removed action => before.contains action = true ∧ after = before.erase action
  | noCooldown action => before.contains action = false ∧ after = before
  | usage | listing _ | unsaved _ | unreadable _ => after = before

/-- What an answer to a member's request about custom commands says of the commands before and
after. A command that could not be looked up may be there, although none is shown. -/
def CustomAnswer.IsTrue (request : CustomRequest) (owner : Id)
    (before after : Rows CustomCommand) : CustomAnswer → Prop
  | written mode name => before.contains name = mode.isTaken ∧
      ∃ template, request = .write mode name template ∧
        after = before.insert name { name, template, owner }
  | refused mode name => before.contains name = !mode.isTaken ∧ after = before
  | deleted name => before.contains name = true ∧ after = before.erase name
  | absent name => (before.contains name = false ∨ request = .display name) ∧ after = before
  | usage | isBuiltin _ | shown _ | listing _ | unsaved _ | unreadable _ => after = before

/-- What an answer to a member's request about keywords says of the keywords before and after. -/
def KeywordAnswer.IsTrue (request : KeywordRequest) (owner : Id) (before after : Rows Keyword) :
    KeywordAnswer → Prop
  | written mode name => before.contains name = mode.isTaken ∧
      ∃ pattern template, request = .write mode name pattern template ∧
        after = before.insert name { name, pattern, template, owner }
  | refused mode name => before.contains name = !mode.isTaken ∧ after = before
  | deleted name => before.contains name = true ∧ after = before.erase name
  | absent name => before.contains name = false ∧ after = before
  | usage | unusable _ | listing _ | unsaved _ | unreadable _ => after = before

/-- What the answer to a member says of a guild's rows before and after a command with these
arguments. No answer is about more than one collection. -/
def Answer.IsTrue (args : List Char) (owner : Id) (before after : GuildTables) : Answer → Prop
  | permissions answer => answer.IsTrue before.permissions after.permissions ∧
      after = { before with permissions := after.permissions }
  | cooldowns answer => answer.IsTrue before.cooldowns after.cooldowns ∧
      after = { before with cooldowns := after.cooldowns }
  | custom answer =>
    answer.IsTrue (CustomRequest.ofArgs args) owner before.commands after.commands ∧
      after = { before with commands := after.commands }
  | keywords answer =>
    answer.IsTrue (KeywordRequest.ofArgs args) owner before.keywords after.keywords ∧
      after = { before with keywords := after.keywords }
  | signups _ | help _ | toggles _ | pong _ => after = before

/-! ### Writing and removing -/

/-- Erasing a key under which there is nothing changes nothing. -/
theorem Table.erase_of_not_contains {t : Table String V} {key : String}
    (habsent : t.contains key = false) : t.erase key = t := by
  refine ext_get? fun key' ↦ ?_
  rw [get?_erase]
  split_ifs with hkey
  · subst hkey
    exact (Option.isSome_eq_false_iff.mp habsent |> Option.isNone_iff_eq_none.mp).symm
  · rfl

section Cache

variable [Keyed V] {st : RowStore σ V} {holds : σ → Table String V → Prop} {c : Cache V} {s : σ}
  {t : Table String V}

/-- A row is written where its name is taken as the mode asks, and no row changes elsewhere. -/
theorem WriteMode.write_spec (hst : st.Lawful holds) (hc : c.Reflects holds s t) (mode : WriteMode)
    (row : V) :
    match mode.write st row c s with
    | (.ok true, _, s') =>
      t.contains (Keyed.key row) = mode.isTaken ∧ holds s' (t.insert (Keyed.key row) row)
    | (.ok false, _, s') => t.contains (Keyed.key row) = !mode.isTaken ∧ holds s' t
    | (.error _, _, s') => holds s' t := by
  have hwrite : mode.write st row c s = c.upsertIf st mode.isTaken row s := by
    cases mode <;> rfl
  have hagrees := Cache.agrees_upsertIf hst hc.mirrors hc.holds mode.isTaken row
  rw [← hwrite] at hagrees
  generalize mode.write st row c s = r at hagrees
  cases hagrees with
  | error hmirrors hholds hfull => exact hholds
  | ok hmirrors hholds hfull =>
    by_cases htaken : t.contains (Keyed.key row) = mode.isTaken
    · rw [if_pos htaken] at hholds
      rw [beq_iff_eq.mpr htaken]
      exact ⟨htaken, hholds⟩
    · rw [if_neg htaken] at hholds
      rw [beq_eq_false_iff_ne.mpr htaken]
      exact ⟨Bool.eq_not_of_ne htaken, hholds⟩

/-- A removal that succeeds answers whether there was a row, and there is none afterwards. -/
theorem Cache.remove_spec (hst : st.Lawful holds) (hc : c.Reflects holds s t) (key : String) :
    match c.remove st key s with
    | (.ok true, _, s') => t.contains key = true ∧ holds s' (t.erase key)
    | (.ok false, _, s') => t.contains key = false ∧ holds s' t
    | (.error _, _, s') => holds s' t := by
  have hagrees := Cache.agrees_remove hst hc.mirrors hc.holds key
  generalize c.remove st key s = r at hagrees
  cases hagrees with
  | error hmirrors hholds hfull => exact hholds
  | ok hmirrors hholds hfull =>
    cases hthere : t.contains key with
    | true => exact ⟨rfl, hholds⟩
    | false =>
      rw [Table.erase_of_not_contains hthere] at hholds
      exact ⟨rfl, hholds⟩

/-- A row is written, or the store failed or refused it and no row changed. -/
theorem Cache.upsert_spec (hst : st.Lawful holds) (hc : c.Reflects holds s t) (row : V) :
    match c.upsert st row s with
    | (.ok (), _, s') => holds s' (t.insert (Keyed.key row) row)
    | (.error _, _, s') => holds s' t := by
  have hagrees := Cache.agrees_upsert hst hc.mirrors hc.holds row
  generalize c.upsert st row s = r at hagrees
  cases hagrees with
  | error hmirrors hholds hfull => exact hholds
  | ok hmirrors hholds hfull => exact hholds

/-- A lookup that succeeds finds the row, and no row changes. -/
theorem Cache.get_spec (hst : st.Lawful holds) (hc : c.Reflects holds s t) (key : String) :
    match c.get st key s with
    | (.ok found, c', s') => found = t.get? key ∧ c'.Reflects holds s' t
    | (.error _, c', s') => c'.Reflects holds s' t := by
  have hagrees := Cache.agrees_get hst hc.mirrors hc.holds key
  generalize c.get st key s = r at hagrees
  cases hagrees with
  | error hmirrors hholds hfull => exact ⟨hmirrors, hholds, hc.keyed⟩
  | ok hmirrors hholds hfull => exact ⟨rfl, hmirrors, hholds, hc.keyed⟩

/-- A call that only reads leaves every row. -/
theorem CacheCall.holds_of_reads (hst : st.Lawful holds) (hc : c.Reflects holds s t)
    (call : CacheCall V) (hreads : call.Reads) : holds (call.run st c s).2.2 t := by
  have hrun := CacheCall.reflects_run hst hc call
  rw [rowsAfter_of_reads hreads] at hrun
  exact hrun.holds

end Cache

/-! ### Requests -/

section Rules

variable {st : RuleStores σ} {p : Policy} {s : σ}

section Permissions

variable {holds : σ → Rows PermissionRule → Prop} {t : Rows PermissionRule}
  (hst : st.permissions.Lawful holds)
include hst

theorem PermissionRequest.isTrue_store (hp : p.permissions.Reflects holds s t)
    (rule : PermissionRule) :
    let r := store st rule p s
    ∃ t', holds r.2.2 t' ∧ r.1.IsTrue t t' := by
  have hupsert := Cache.upsert_spec hst hp rule
  simp only [store, Policy.setPermission, Policy.onPermissions]
  rcases hresult : p.permissions.upsert st.permissions rule s with ⟨e | ⟨⟩, c, s'⟩
  · rw [hresult] at hupsert
    exact ⟨t, hupsert, rfl⟩
  · rw [hresult] at hupsert
    exact ⟨_, hupsert, rfl⟩

/-- A request on permission rules is answered with what it did to them. -/
theorem PermissionRequest.isTrue_run (hp : p.permissions.Reflects holds s t)
    (request : PermissionRequest) :
    let r := request.run st p s
    ∃ t', holds r.2.2 t' ∧ r.1.IsTrue t t' := by
  cases request with
  | usage => exact ⟨t, hp.holds, rfl⟩
  | unknownRank word => exact ⟨t, hp.holds, rfl⟩
  | set rank action => exact isTrue_store hst hp { action, rank }
  | addRole role action =>
    have hget := Cache.get_spec hst hp action
    simp only [run, Policy.getPermission, Policy.onPermissions]
    rcases hresult : p.permissions.get st.permissions action s with ⟨e | found, c, s'⟩
    · rw [hresult] at hget
      exact isTrue_store hst (p := { p with permissions := c }) hget _
    · rw [hresult] at hget
      exact isTrue_store hst (p := { p with permissions := c }) hget.2 _
  | get action =>
    have hreads := CacheCall.holds_of_reads hst hp (.resolve action) trivial
    simp only [run, Policy.resolvePermission, Policy.onPermissions]
    simp only [CacheCall.run] at hreads
    rcases hresult : p.permissions.resolve st.permissions action s with ⟨e | _ | rule, c, s'⟩
    · rw [hresult] at hreads
      exact ⟨t, hreads, rfl⟩
    · rw [hresult] at hreads
      exact ⟨t, hreads, rfl⟩
    · rw [hresult] at hreads
      exact ⟨t, hreads, rfl⟩
  | remove action =>
    have hremove := Cache.remove_spec hst hp action
    simp only [run, Policy.removePermission, Policy.onPermissions]
    rcases hresult : p.permissions.remove st.permissions action s with ⟨e | _ | _, c, s'⟩
    · rw [hresult] at hremove
      exact ⟨t, hremove, rfl⟩
    · rw [hresult] at hremove
      exact ⟨t, hremove.2, hremove.1, rfl⟩
    · rw [hresult] at hremove
      exact ⟨_, hremove.2, hremove.1, rfl⟩
  | list =>
    have hreads := CacheCall.holds_of_reads hst hp .listAll trivial
    simp only [run, Policy.listPermissions, Policy.onPermissions]
    simp only [CacheCall.run] at hreads
    rcases hresult : p.permissions.listAll st.permissions s with ⟨e | rules, c, s'⟩
    · rw [hresult] at hreads
      exact ⟨t, hreads, rfl⟩
    · rw [hresult] at hreads
      exact ⟨t, hreads, rfl⟩

end Permissions

/-- A request on cooldowns is answered with what it did to them. -/
theorem CooldownRequest.isTrue_run {holds : σ → Rows CooldownRule → Prop}
    {t : Rows CooldownRule} (hst : st.cooldowns.Lawful holds)
    (hp : p.cooldowns.Reflects holds s t) (request : CooldownRequest) :
    let r := request.run st p s
    ∃ t', holds r.2.2 t' ∧ r.1.IsTrue t t' := by
  cases request with
  | usage => exact ⟨t, hp.holds, rfl⟩
  | set duration action =>
    have hget := Cache.get_spec hst hp action
    simp only [run, Policy.setCooldown, Policy.onCooldowns]
    rcases hfirst : p.cooldowns.get st.cooldowns action s with ⟨e | found, c, s₁⟩
    · rw [hfirst] at hget
      exact ⟨t, hget.holds, rfl⟩
    · rw [hfirst] at hget
      obtain ⟨rfl, hc⟩ := hget
      dsimp only
      have hupsert := Cache.upsert_spec hst hc
        { action, duration, last := (t.get? action).bind (·.last) }
      rcases hsecond : c.upsert st.cooldowns
        { action, duration, last := (t.get? action).bind (·.last) } s₁ with ⟨e | ⟨⟩, c', s₂⟩
      · rw [hsecond] at hupsert
        exact ⟨t, hupsert, rfl⟩
      · rw [hsecond] at hupsert
        exact ⟨_, hupsert, rfl⟩
  | remove action =>
    have hremove := Cache.remove_spec hst hp action
    simp only [run, Policy.removeCooldown, Policy.onCooldowns]
    rcases hresult : p.cooldowns.remove st.cooldowns action s with ⟨e | _ | _, c, s'⟩
    · rw [hresult] at hremove
      exact ⟨t, hremove, rfl⟩
    · rw [hresult] at hremove
      exact ⟨t, hremove.2, hremove.1, rfl⟩
    · rw [hresult] at hremove
      exact ⟨_, hremove.2, hremove.1, rfl⟩
  | list =>
    have hreads := CacheCall.holds_of_reads hst hp .listAll trivial
    simp only [run, Policy.listCooldowns, Policy.onCooldowns]
    simp only [CacheCall.run] at hreads
    rcases hresult : p.cooldowns.listAll st.cooldowns s with ⟨e | rules, c, s'⟩
    · rw [hresult] at hreads
      exact ⟨t, hreads, rfl⟩
    · rw [hresult] at hreads
      exact ⟨t, hreads, rfl⟩

end Rules

/-- A request on custom commands is answered with what it did to them. -/
theorem CustomRequest.isTrue_run {st : RowStore σ CustomCommand}
    {holds : σ → Rows CustomCommand → Prop} (hst : st.Lawful holds) {c : Cache CustomCommand}
    {s : σ} {t : Rows CustomCommand} (hc : c.Reflects holds s t) (isBuiltin : String → Bool)
    (owner : Id) (request : CustomRequest) :
    let r := request.run st isBuiltin owner c s
    ∃ t', holds r.2.2 t' ∧ r.1.IsTrue request owner t t' := by
  cases request with
  | usage => exact ⟨t, hc.holds, rfl⟩
  | write mode name template =>
    have hwrite := mode.write_spec hst hc { name, template, owner }
    simp only [run]
    split_ifs with hbuiltin
    · exact ⟨t, hc.holds, rfl⟩
    · rcases hresult : mode.write st { name, template, owner } c s with ⟨e | _ | _, c', s'⟩
      · rw [hresult] at hwrite
        exact ⟨t, hwrite, rfl⟩
      · rw [hresult] at hwrite
        exact ⟨t, hwrite.2, hwrite.1, rfl⟩
      · rw [hresult] at hwrite
        exact ⟨_, hwrite.2, hwrite.1, template, rfl, rfl⟩
  | delete name =>
    have hremove := Cache.remove_spec hst hc name
    simp only [run]
    rcases hresult : c.remove st name s with ⟨e | _ | _, c', s'⟩
    · rw [hresult] at hremove
      exact ⟨t, hremove, rfl⟩
    · rw [hresult] at hremove
      exact ⟨t, hremove.2, Or.inl hremove.1, rfl⟩
    · rw [hresult] at hremove
      exact ⟨_, hremove.2, hremove.1, rfl⟩
  | display name =>
    have hget := Cache.get_spec hst hc (String.ofList (Text.toLower name.toList))
    simp only [run, Cache.findCommand, Cache.find]
    rcases hresult : c.get st (String.ofList (Text.toLower name.toList)) s with
      ⟨e | _ | found, c', s'⟩
    · rw [hresult] at hget
      exact ⟨t, hget.holds, Or.inr rfl, rfl⟩
    · rw [hresult] at hget
      exact ⟨t, hget.2.holds, Or.inr rfl, rfl⟩
    · rw [hresult] at hget
      exact ⟨t, hget.2.holds, rfl⟩
  | list =>
    have hreads := CacheCall.holds_of_reads hst hc .listAll trivial
    simp only [run]
    simp only [CacheCall.run] at hreads
    rcases hresult : c.listAll st s with ⟨e | rows, c', s'⟩
    · rw [hresult] at hreads
      exact ⟨t, hreads, rfl⟩
    · rw [hresult] at hreads
      exact ⟨t, hreads, rfl⟩

/-- A request on keywords is answered with what it did to them. -/
theorem KeywordRequest.isTrue_run {st : RowStore σ Keyword} {holds : σ → Rows Keyword → Prop}
    (hst : st.Lawful holds) {c : Cache Keyword} {s : σ} {t : Rows Keyword}
    (hc : c.Reflects holds s t) (owner : Id) (request : KeywordRequest) :
    let r := request.run st owner c s
    ∃ t', holds r.2.2 t' ∧ r.1.IsTrue request owner t t' := by
  cases request with
  | usage => exact ⟨t, hc.holds, rfl⟩
  | write mode name pattern template =>
    have hwrite := mode.write_spec hst hc { name, pattern, template, owner }
    simp only [run]
    split_ifs with hpattern
    · exact ⟨t, hc.holds, rfl⟩
    · rcases hresult : mode.write st { name, pattern, template, owner } c s with
        ⟨e | _ | _, c', s'⟩
      · rw [hresult] at hwrite
        exact ⟨t, hwrite, rfl⟩
      · rw [hresult] at hwrite
        exact ⟨t, hwrite.2, hwrite.1, rfl⟩
      · rw [hresult] at hwrite
        exact ⟨_, hwrite.2, hwrite.1, pattern, template, rfl, rfl⟩
  | delete name =>
    have hremove := Cache.remove_spec hst hc name
    simp only [run]
    rcases hresult : c.remove st name s with ⟨e | _ | _, c', s'⟩
    · rw [hresult] at hremove
      exact ⟨t, hremove, rfl⟩
    · rw [hresult] at hremove
      exact ⟨t, hremove.2, hremove.1, rfl⟩
    · rw [hresult] at hremove
      exact ⟨_, hremove.2, hremove.1, rfl⟩
  | list =>
    have hreads := CacheCall.holds_of_reads hst hc .listAll trivial
    simp only [run]
    simp only [CacheCall.run] at hreads
    rcases hresult : c.listAll st s with ⟨e | rows, c', s'⟩
    · rw [hresult] at hreads
      exact ⟨t, hreads, rfl⟩
    · rw [hresult] at hreads
      exact ⟨t, hreads, rfl⟩

end Guildhall
