import Guildhall.Command.Run
import Guildhall.Proofs.Guild

/-!
Commands as calls of caches. A request on custom commands or keywords makes one call of its cache
or none (`CacheCall.MakesOne`), and requests on rules are made of operations on the rules, so that
running a built-in command in a guild is made of the steps that a guild allows
(`Builtin.evolves_run`).
-/

set_option autoImplicit false

namespace Guildhall

variable {σ γ ω : Type}

/-! ### One call or none -/

/-- An operation that leaves what one call of a cache leaves, or leaves everything as it was. -/
def CacheCall.MakesOne {V α : Type} [Keyed V] (st : RowStore σ V)
    (op : Cache V → σ → α × Cache V × σ) : Prop :=
  (∀ c s, (op c s).2 = (c, s)) ∨
    ∃ call : CacheCall V, call.Keeps ∧ ∀ c s, (op c s).2 = (call.run st c s).2

namespace Scope

theorem evolves_onCommands_of {st : GuildStores (γ × ω)} {α : Type}
    {op : Cache CustomCommand → γ × ω → α × Cache CustomCommand × (γ × ω)}
    (hop : CacheCall.MakesOne st.commands op) (sc : Scope γ) (w : ω) :
    Evolves st (sc, w) (sc.onCommands op w).2 := by
  rcases hop with hnone | ⟨call, hcall, hone⟩
  · have hsame : (sc.onCommands op w).2 = (sc, w) := by
      simp only [onCommands, hnone sc.commands (sc.stored, w)]
    rw [hsame]
    exact .refl
  · have hsame : (sc.onCommands op w).2 = (sc.onCommands (call.run st.commands) w).2 := by
      simp only [onCommands, hone sc.commands (sc.stored, w)]
    rw [hsame]
    exact evolves_onCommands st sc w call hcall

theorem evolves_onKeywords_of {st : GuildStores (γ × ω)} {α : Type}
    {op : Cache Keyword → γ × ω → α × Cache Keyword × (γ × ω)}
    (hop : CacheCall.MakesOne st.keywords op) (sc : Scope γ) (w : ω) :
    Evolves st (sc, w) (sc.onKeywords op w).2 := by
  rcases hop with hnone | ⟨call, hcall, hone⟩
  · have hsame : (sc.onKeywords op w).2 = (sc, w) := by
      simp only [onKeywords, hnone sc.keywords (sc.stored, w)]
    rw [hsame]
    exact .refl
  · have hsame : (sc.onKeywords op w).2 = (sc.onKeywords (call.run st.keywords) w).2 := by
      simp only [onKeywords, hone sc.keywords (sc.stored, w)]
    rw [hsame]
    exact evolves_onKeywords st sc w call hcall

end Scope

/-! ### Requests -/

theorem WriteMode.write_eq {V : Type} [Keyed V] (mode : WriteMode) (st : RowStore σ V) (row : V) :
    ∃ call : CacheCall V, call.Keeps ∧
      ∀ c s, (mode.write st row c s).2 = (call.run st c s).2 := by
  cases mode with
  | create => exact ⟨.insertNew row, trivial, fun c s ↦ rfl⟩
  | overwrite => exact ⟨.replace row, trivial, fun c s ↦ rfl⟩

theorem CustomRequest.makesOne_run (st : RowStore σ CustomCommand) (isBuiltin : String → Bool)
    (owner : Id) (request : CustomRequest) :
    CacheCall.MakesOne st (request.run st isBuiltin owner) := by
  cases request with
  | usage => exact Or.inl fun c s ↦ rfl
  | write mode name template =>
    by_cases hbuiltin : isBuiltin name = true
    · exact Or.inl fun c s ↦ by simp only [run, if_pos hbuiltin]
    · obtain ⟨call, hcall, hwrite⟩ := mode.write_eq st { name, template, owner }
      refine Or.inr ⟨call, hcall, fun c s ↦ ?_⟩
      rw [← hwrite]
      simp only [run, if_neg hbuiltin]
      rcases mode.write st { name, template, owner } c s with ⟨e | _ | _, c', s'⟩ <;> rfl
  | delete name =>
    refine Or.inr ⟨.remove name, trivial, fun c s ↦ ?_⟩
    simp only [run, CacheCall.run]
    rcases c.remove st name s with ⟨e | _ | _, c', s'⟩ <;> rfl
  | display name =>
    refine Or.inr ⟨.get (String.ofList (Text.toLower name.toList)), trivial, fun c s ↦ ?_⟩
    simp only [run, CacheCall.run, Cache.findCommand]
    generalize String.ofList (Text.toLower name.toList) = key
    simp only [Cache.find]
    rcases c.get st key s with ⟨e | _ | _, c', s'⟩ <;> rfl
  | list =>
    refine Or.inr ⟨.listAll, trivial, fun c s ↦ ?_⟩
    simp only [run, CacheCall.run]
    rcases c.listAll st s with ⟨e | rows, c', s'⟩ <;> rfl

theorem KeywordRequest.makesOne_run (st : RowStore σ Keyword) (owner : Id)
    (request : KeywordRequest) : CacheCall.MakesOne st (request.run st owner) := by
  cases request with
  | usage => exact Or.inl fun c s ↦ rfl
  | write mode name pattern template =>
    by_cases hpattern : (Keyword.compile? pattern).isNone = true
    · exact Or.inl fun c s ↦ by simp only [run, if_pos hpattern]
    · obtain ⟨call, hcall, hwrite⟩ := mode.write_eq st { name, pattern, template, owner }
      refine Or.inr ⟨call, hcall, fun c s ↦ ?_⟩
      rw [← hwrite]
      simp only [run, if_neg hpattern]
      rcases mode.write st { name, pattern, template, owner } c s with ⟨e | _ | _, c', s'⟩ <;> rfl
  | delete name =>
    refine Or.inr ⟨.remove name, trivial, fun c s ↦ ?_⟩
    simp only [run, CacheCall.run]
    rcases c.remove st name s with ⟨e | _ | _, c', s'⟩ <;> rfl
  | list =>
    refine Or.inr ⟨.listAll, trivial, fun c s ↦ ?_⟩
    simp only [run, CacheCall.run]
    rcases c.listAll st s with ⟨e | rows, c', s'⟩ <;> rfl

theorem HelpRequest.makesOne_run (st : RowStore σ CustomCommand) (r : Registry Builtin)
    (request : HelpRequest) : CacheCall.MakesOne st (request.run st r) := by
  cases request with
  | overview =>
    refine Or.inr ⟨.listAll, trivial, fun c s ↦ ?_⟩
    simp only [run, CacheCall.run]
    rcases c.listAll st s with ⟨e | rows, c', s'⟩ <;> rfl
  | placeholders => exact Or.inl fun c s ↦ rfl
  | topic token =>
    refine Or.inl fun c s ↦ ?_
    simp only [run]
    cases r.entryOfTrigger? token <;> rfl

theorem PermissionRequest.evolves_store (st : RuleStores σ) (rule : PermissionRule) (p : Policy)
    (s : σ) : Policy.Evolves st (p, s) (PermissionRequest.store st rule p s).2 := by
  have hset := Policy.evolves_setPermission st p s rule
  simp only [store]
  rcases hresult : p.setPermission st rule s with ⟨e | ⟨⟩, p', s'⟩
  · rwa [hresult] at hset
  · rwa [hresult] at hset

theorem PermissionRequest.evolves_run (st : RuleStores σ) (request : PermissionRequest)
    (p : Policy) (s : σ) : Policy.Evolves st (p, s) (request.run st p s).2 := by
  cases request with
  | usage => exact .refl
  | unknownRank word => exact .refl
  | set rank action => exact evolves_store st { action, rank } p s
  | addRole role action =>
    have hget := Policy.evolves_getPermission st p s action
    simp only [run]
    rcases hresult : p.getPermission st action s with ⟨found, p', s'⟩
    rw [hresult] at hget
    exact hget.trans (evolves_store st _ p' s')
  | get action => exact Policy.evolves_resolvePermission st p s action
  | remove action =>
    have hremove := Policy.evolves_removePermission st p s action
    simp only [run]
    rcases hresult : p.removePermission st action s with ⟨e | _ | _, p', s'⟩
    · rwa [hresult] at hremove
    · rwa [hresult] at hremove
    · rwa [hresult] at hremove
  | list =>
    have hlist := Policy.evolves_listPermissions st p s
    simp only [run]
    rcases hresult : p.listPermissions st s with ⟨e | rules, p', s'⟩
    · rwa [hresult] at hlist
    · rwa [hresult] at hlist

theorem CooldownRequest.evolves_run (st : RuleStores σ) (request : CooldownRequest) (p : Policy)
    (s : σ) : Policy.Evolves st (p, s) (request.run st p s).2 := by
  cases request with
  | usage => exact .refl
  | set duration action =>
    have hset := Policy.evolves_setCooldown st p s action duration
    simp only [run]
    rcases hresult : p.setCooldown st action duration s with ⟨e | ⟨⟩, p', s'⟩
    · rwa [hresult] at hset
    · rwa [hresult] at hset
  | remove action =>
    have hremove := Policy.evolves_removeCooldown st p s action
    simp only [run]
    rcases hresult : p.removeCooldown st action s with ⟨e | _ | _, p', s'⟩
    · rwa [hresult] at hremove
    · rwa [hresult] at hremove
    · rwa [hresult] at hremove
  | list =>
    have hlist := Policy.evolves_listCooldowns st p s
    simp only [run]
    rcases hresult : p.listCooldowns st s with ⟨e | rules, p', s'⟩
    · rwa [hresult] at hlist
    · rwa [hresult] at hlist

/-! ### Built-in commands -/

/-- Whatever a built-in command does in a guild is made of the steps that a guild allows. -/
theorem Builtin.evolves_run (b : Builtin) (st : GuildStores (γ × ω)) (m : Moment) (msg : Message)
    (args : List Char) (spec : CommandSpec) (r : Registry Builtin) (sc : Scope γ) (w : ω) :
    Scope.Evolves st (sc, w) (b.run st m msg args spec r sc w).2.2 := by
  cases b with
  | perm =>
    simp only [run]
    generalize PermissionRequest.ofArgs args = request
    exact Scope.evolves_onPolicy st sc w
      (PermissionRequest.evolves_run st.rules request sc.policy (sc.stored, w))
  | cooldown =>
    simp only [run]
    generalize CooldownRequest.ofArgs args = request
    exact Scope.evolves_onPolicy st sc w
      (CooldownRequest.evolves_run st.rules request sc.policy (sc.stored, w))
  | command =>
    simp only [run]
    generalize CustomRequest.ofArgs args = request
    exact Scope.evolves_onCommands_of (CustomRequest.makesOne_run st.commands _ _ request) sc w
  | keyword =>
    simp only [run]
    generalize KeywordRequest.ofArgs args = request
    exact Scope.evolves_onKeywords_of (KeywordRequest.makesOne_run st.keywords _ request) sc w
  | event =>
    simp only [run]
    generalize SignupRequest.ofArgs args = request
    exact Scope.evolves_onEvents st sc w (request.run msg.invoker.name)
  | help =>
    simp only [run]
    generalize HelpRequest.ofArgs args = request
    exact Scope.evolves_onCommands_of (HelpRequest.makesOne_run st.commands r request) sc w
  | ping => exact .refl
  | builtins => exact .refl

end Guildhall
