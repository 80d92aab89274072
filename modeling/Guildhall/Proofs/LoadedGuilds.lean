import Guildhall.Proofs.FileBackend
import Guildhall.Proofs.ReadAccounting

/-!
Guilds that were read in full, under whatever keys their rows stand. What every call of a store
leaves true, every call of a cache over it leaves true (`CacheCall.preserves_run`). What is done to
the rules, the keywords or the events of a guild leaves its custom commands alone
(`Scope.leavesCommands_withPolicy`, `Scope.leavesCommands_onKeywords`). So the index of the custom
commands of an open guild stays full, also where a row is served under the key of another
(`Backend.Holds.maintains`); guilds in files are such guilds whatever their files hold
(`Backend.holds_files`).
-/

set_option autoImplicit false

namespace Guildhall

variable {σ γ ω V : Type}

/-! ### What stores leave true -/

/-- No call of the store makes a property of its states untrue. -/
structure RowStore.Preserves (st : RowStore σ V) (Q : σ → Prop) : Prop where
  loadAll : ∀ {s}, Q s → Q (st.loadAll s).2
  loadOne : ∀ key {s}, Q s → Q (st.loadOne key s).2
  upsert : ∀ row {s}, Q s → Q (st.upsert row s).2
  delete : ∀ key {s}, Q s → Q (st.delete key s).2

/-- A store that keeps its rows preserves what is known of its state by any rows that it holds. -/
theorem RowStore.preserves_of_lawful [Keyed V] {st : RowStore σ V} {Q : σ → Prop}
    (hQ : ∀ s, Q s → ∃ holds : σ → Table String V → Prop, st.Lawful holds ∧ (∃ t, holds s t) ∧
      ∀ s' t', holds s' t' → Q s') : st.Preserves Q where
  loadAll := by
    intro s hs
    obtain ⟨holds, hst, ⟨t, ht⟩, hback⟩ := hQ s hs
    have hcall := hst.loadAll ht
    rcases hresult : st.loadAll s with ⟨fault | rows, s'⟩
    · rw [hresult] at hcall
      exact hback s' t hcall
    · rw [hresult] at hcall
      exact hback s' t hcall.2
  loadOne := by
    intro key s hs
    obtain ⟨holds, hst, ⟨t, ht⟩, hback⟩ := hQ s hs
    have hcall := hst.loadOne key ht
    rcases hresult : st.loadOne key s with ⟨fault | row, s'⟩
    · rw [hresult] at hcall
      exact hback s' t hcall
    · rw [hresult] at hcall
      exact hback s' t hcall.2
  upsert := by
    intro row s hs
    obtain ⟨holds, hst, ⟨t, ht⟩, hback⟩ := hQ s hs
    have hcall := hst.upsert row ht
    rcases hresult : st.upsert row s with ⟨fault | _ | _, s'⟩
    · rw [hresult] at hcall
      exact hback s' t hcall
    · rw [hresult] at hcall
      exact hback s' t hcall
    · rw [hresult] at hcall
      exact hback s' _ hcall
  delete := by
    intro key s hs
    obtain ⟨holds, hst, ⟨t, ht⟩, hback⟩ := hQ s hs
    have hcall := hst.delete key ht
    rcases hresult : st.delete key s with ⟨fault | existed, s'⟩
    · rw [hresult] at hcall
      exact hback s' t hcall
    · rw [hresult] at hcall
      exact hback s' _ hcall.2

/-! ### What caches leave true -/

namespace Cache

variable {st : RowStore σ V} {Q : σ → Prop} (hst : st.Preserves Q) {s : σ} (hs : Q s)

include hst hs

theorem preserves_loadOne (c : Cache V) (key : String) : Q (c.loadOne st key s).2 := by
  have hcall := hst.loadOne key hs
  unfold loadOne
  generalize st.loadOne key s = loaded at hcall ⊢
  rcases loaded with ⟨fault | row, s'⟩
  · exact hcall
  · exact hcall

omit hs in
theorem preserves_loadEach (c : Cache V) (keys : List String) {s : σ} (hs : Q s) :
    Q (c.loadEach st keys s).2 := by
  induction keys generalizing s with
  | nil => exact hs
  | cons key keys ih =>
    have hfirst := preserves_loadOne hst hs c key
    unfold loadEach
    generalize c.loadOne st key s = loaded at hfirst ⊢
    rcases loaded with ⟨e | row, s₁⟩
    · exact hfirst
    · have hrest := ih hfirst
      dsimp only at hrest ⊢
      generalize c.loadEach st keys s₁ = rest at hrest ⊢
      rcases rest with ⟨e | rows, s₂⟩
      · exact hrest
      · exact hrest

theorem preserves_get (c : Cache V) (key : String) : Q (c.get st key s).2.2 := by
  have hload := preserves_loadOne hst hs c key
  unfold get
  cases c.lookup key with
  | some known => exact hs
  | none =>
    generalize c.loadOne st key s = loaded at hload ⊢
    rcases loaded with ⟨e | row, s'⟩
    · exact hload
    · exact hload

theorem preserves_resolve (c : Cache V) (query : String) : Q (c.resolve st query s).2.2 := by
  have hload := preserves_loadEach hst c (c.missing query) hs
  unfold resolve
  split_ifs
  · exact hs
  · generalize c.loadEach st (c.missing query) s = loaded at hload ⊢
    rcases loaded with ⟨e | rows, s'⟩
    · exact hload
    · exact hload

theorem preserves_remove (c : Cache V) (key : String) : Q (c.remove st key s).2.2 := by
  have hcall := hst.delete key hs
  unfold remove
  generalize st.delete key s = deleted at hcall ⊢
  rcases deleted with ⟨fault | existed, s'⟩
  · exact hcall
  · exact hcall

variable [Keyed V]

theorem preserves_listAll (c : Cache V) : Q (c.listAll st s).2.2 := by
  have hcall := hst.loadAll hs
  unfold listAll
  split_ifs
  · exact hs
  · generalize st.loadAll s = loaded at hcall ⊢
    rcases loaded with ⟨fault | rows, s'⟩
    · exact hcall
    · exact hcall

theorem preserves_upsert (c : Cache V) (row : V) : Q (c.upsert st row s).2.2 := by
  have hcall := hst.upsert row hs
  unfold upsert
  generalize st.upsert row s = written at hcall ⊢
  rcases written with ⟨fault | _ | _, s'⟩
  · exact hcall
  · exact hcall
  · exact hcall

theorem preserves_upsertIf (c : Cache V) (taken : Bool) (row : V) :
    Q (c.upsertIf st taken row s).2.2 := by
  have hget := preserves_get hst hs c (Keyed.key row)
  unfold upsertIf
  generalize c.get st (Keyed.key row) s = read at hget ⊢
  rcases read with ⟨e | found, c₁, s₁⟩
  · exact hget
  · have hupsert := preserves_upsert hst hget c₁ row
    dsimp only at hupsert ⊢
    split_ifs
    · generalize c₁.upsert st row s₁ = written at hupsert ⊢
      rcases written with ⟨e | ⟨⟩, c₂, s₂⟩
      · exact hupsert
      · exact hupsert
    · exact hget

end Cache

namespace CacheCall

variable [Keyed V] {st : RowStore σ V}

/-- Whatever a cache knows, a call of it makes nothing untrue that calls of its store do not. -/
theorem preserves_run {Q : σ → Prop} (hst : st.Preserves Q) (call : CacheCall V) (c : Cache V)
    {s : σ} (hs : Q s) : Q (call.run st c s).2.2 := by
  cases call with
  | get key => exact Cache.preserves_get hst hs c key
  | resolve query => exact Cache.preserves_resolve hst hs c query
  | listAll => exact Cache.preserves_listAll hst hs c
  | upsert row => exact Cache.preserves_upsert hst hs c row
  | insertNew row => exact Cache.preserves_upsertIf hst hs c false row
  | replace row => exact Cache.preserves_upsertIf hst hs c true row
  | remove key => exact Cache.preserves_remove hst hs c key
  | invalidate => exact hs

/-- Over any store a call leaves the index in order, and a full one full. -/
theorem ordered_and_full_run (st : RowStore σ V) {call : CacheCall V} (hcall : call.Keeps)
    {c : Cache V} (hc : c.slots.Ordered) (s : σ) :
    (call.run st c s).2.1.slots.Ordered ∧
      (c.state = .full → (call.run st c s).2.1.state = .full) := by
  have hrecords : st.Records (fun _ ↦ ()) fun _ _ ↦ () := ⟨fun _ ↦ rfl, fun _ _ ↦ rfl,
    fun _ _ ↦ rfl, fun _ _ ↦ rfl⟩
  obtain ⟨events, -, haccounts⟩ := accounted_run hrecords hcall hc s
  refine ⟨haccounts.ordered, fun hfull ↦ ?_⟩
  have hgrows := haccounts.grows
  rw [hfull] at hgrows
  cases hstate : (call.run st c s).2.1.state with
  | full => rfl
  | unloaded | partially =>
    rw [hstate] at hgrows
    exact absurd hgrows (by decide)

end CacheCall

theorem Policy.Evolves.preserves {st : RuleStores σ} {Q : σ → Prop}
    (hpermissions : st.permissions.Preserves Q) (hcooldowns : st.cooldowns.Preserves Q)
    {a b : Policy × σ} (hevolves : Policy.Evolves st a b) (ha : Q a.2) : Q b.2 := by
  induction hevolves with
  | refl => exact ha
  | tail _ hstep ih =>
    cases hstep with
    | permissions call hcall p s => exact call.preserves_run hpermissions p.permissions ih
    | cooldowns call hcall p s => exact call.preserves_run hcooldowns p.cooldowns ih

/-! ### Custom commands that are left alone -/

/-- What the stores of a guild hold, with these custom commands. -/
def GuildView.HoldsCommands (v : GuildView γ ω) (t : Rows CustomCommand) (s : γ × ω) : Prop :=
  v.sound s.1 ∧ v.tidy s.2 ∧ (v.rows s.1).commands = t

namespace GuildStores.Lawful

variable {v : GuildView γ ω} {st : GuildStores (γ × ω)} (hst : GuildStores.Lawful st v.holds)
  (t : Rows CustomCommand)

include hst

theorem preserves_permissions : st.permissions.Preserves (v.HoldsCommands t) := by
  refine RowStore.preserves_of_lawful ?_
  rintro s ⟨hsound, htidy, rfl⟩
  refine ⟨_, hst.permissions (v.rows s.1), ⟨_, hsound, htidy, rfl⟩, ?_⟩
  rintro s' t' ⟨hsound', htidy', hrows⟩
  exact ⟨hsound', htidy', by rw [hrows]⟩

theorem preserves_cooldowns : st.cooldowns.Preserves (v.HoldsCommands t) := by
  refine RowStore.preserves_of_lawful ?_
  rintro s ⟨hsound, htidy, rfl⟩
  refine ⟨_, hst.cooldowns (v.rows s.1), ⟨_, hsound, htidy, rfl⟩, ?_⟩
  rintro s' t' ⟨hsound', htidy', hrows⟩
  exact ⟨hsound', htidy', by rw [hrows]⟩

theorem preserves_keywords : st.keywords.Preserves (v.HoldsCommands t) := by
  refine RowStore.preserves_of_lawful ?_
  rintro s ⟨hsound, htidy, rfl⟩
  refine ⟨_, hst.keywords (v.rows s.1), ⟨_, hsound, htidy, rfl⟩, ?_⟩
  rintro s' t' ⟨hsound', htidy', hrows⟩
  exact ⟨hsound', htidy', by rw [hrows]⟩

omit t in
/-- The store of the custom commands leaves a guild's stores sound. -/
theorem preserves_sound :
    st.commands.Preserves fun s ↦ v.sound s.1 ∧ v.tidy s.2 := by
  refine RowStore.preserves_of_lawful ?_
  rintro s ⟨hsound, htidy⟩
  refine ⟨_, hst.commands (v.rows s.1), ⟨_, hsound, htidy, rfl⟩, ?_⟩
  rintro s' t' ⟨hsound', htidy', -⟩
  exact ⟨hsound', htidy'⟩

end GuildStores.Lawful

namespace Scope

/-- What was done in a guild left its custom commands as they were, in the index and in the
store. -/
structure LeavesCommands (v : GuildView γ ω) (a b : Scope γ × ω) : Prop where
  index : b.1.commands = a.1.commands
  stored : v.HoldsCommands (v.rows a.1.stored).commands (b.1.stored, b.2)

variable {v : GuildView γ ω} {st : GuildStores (γ × ω)} (hst : GuildStores.Lawful st v.holds)

include hst

theorem leavesCommands_withPolicy (sc : Scope γ) {a b : Policy × γ × ω}
    (hevolves : Policy.Evolves st.rules a b) (hsound : v.sound a.2.1) (htidy : v.tidy a.2.2) :
    LeavesCommands v (sc.withPolicy a) (sc.withPolicy b) where
  index := rfl
  stored := hevolves.preserves (hst.preserves_permissions _) (hst.preserves_cooldowns _)
    ⟨hsound, htidy, rfl⟩

theorem leavesCommands_onPolicy {α : Type} {run : Policy → γ × ω → α × Policy × (γ × ω)}
    {sc : Scope γ} {w : ω}
    (hevolves : Policy.Evolves st.rules (sc.policy, sc.stored, w) (run sc.policy (sc.stored, w)).2)
    (hsound : v.sound sc.stored) (htidy : v.tidy w) :
    LeavesCommands v (sc, w) (sc.onPolicy run w).2 :=
  leavesCommands_withPolicy hst sc hevolves hsound htidy

theorem leavesCommands_onKeywords (call : CacheCall Keyword) {sc : Scope γ} {w : ω}
    (hsound : v.sound sc.stored) (htidy : v.tidy w) :
    LeavesCommands v (sc, w) (sc.onKeywords (call.run st.keywords) w).2 where
  index := rfl
  stored := call.preserves_run (hst.preserves_keywords _) sc.keywords ⟨hsound, htidy, rfl⟩

/-! ### Guilds that were read in full -/

omit hst in
/-- A guild whose stores are sound, with a full index of its custom commands in order. -/
structure Loaded (v : GuildView γ ω) (sc : Scope γ) : Prop where
  sound : v.sound sc.stored
  ordered : sc.commands.slots.Ordered
  full : sc.commands.state = .full

omit hst in
theorem Loaded.of_leavesCommands {a b : Scope γ × ω} (ha : a.1.Loaded v)
    (hleaves : LeavesCommands v a b) : b.1.Loaded v where
  sound := hleaves.stored.1
  ordered := hleaves.index ▸ ha.ordered
  full := hleaves.index ▸ ha.full

/-- One step keeps the stores sound and the index in order, and a full index full. -/
theorem Step.loaded {a b : Scope γ × ω} (hstep : Step st a b) (hsound : v.sound a.1.stored)
    (hordered : a.1.commands.slots.Ordered) (htidy : v.tidy a.2) :
    (v.sound b.1.stored ∧ b.1.commands.slots.Ordered ∧ v.tidy b.2) ∧
      (a.1.commands.state = .full → b.1.commands.state = .full) := by
  cases hstep with
  | policy sc hstep =>
    have hleaves := leavesCommands_withPolicy hst sc (.single hstep) hsound htidy
    exact ⟨⟨hleaves.stored.1, hordered, hleaves.stored.2.1⟩, fun hfull ↦ hfull⟩
  | commands call hcall sc w =>
    have hkept := call.preserves_run hst.preserves_sound sc.commands (s := (sc.stored, w))
      ⟨hsound, htidy⟩
    have hrun := CacheCall.ordered_and_full_run st.commands hcall hordered (sc.stored, w)
    exact ⟨⟨hkept.1, hrun.1, hkept.2⟩, hrun.2⟩
  | keywords call hcall sc w =>
    have hleaves := leavesCommands_onKeywords hst call hsound htidy
    exact ⟨⟨hleaves.stored.1, hordered, hleaves.stored.2.1⟩, fun hfull ↦ hfull⟩
  | events events sc w => exact ⟨⟨hsound, hordered, htidy⟩, fun hfull ↦ hfull⟩
  | patterns patterns sc w => exact ⟨⟨hsound, hordered, htidy⟩, fun hfull ↦ hfull⟩

theorem Evolves.loaded {a b : Scope γ × ω} (hevolves : Evolves st a b)
    (hsound : v.sound a.1.stored) (hordered : a.1.commands.slots.Ordered) (htidy : v.tidy a.2) :
    (v.sound b.1.stored ∧ b.1.commands.slots.Ordered ∧ v.tidy b.2) ∧
      (a.1.commands.state = .full → b.1.commands.state = .full) := by
  induction hevolves with
  | refl => exact ⟨⟨hsound, hordered, htidy⟩, fun hfull ↦ hfull⟩
  | tail _ hstep ih =>
    obtain ⟨⟨hsound₁, hordered₁, htidy₁⟩, hfull₁⟩ := ih
    obtain ⟨hlast, hfull₂⟩ := hstep.loaded hst hsound₁ hordered₁ htidy₁
    exact ⟨hlast, hfull₂ ∘ hfull₁⟩

end Scope

/-- The stores of a backend keep their rows, and a guild that can be opened is sound. Its rows may
stand under keys that are not their own. -/
structure Backend.Holds (b : Backend γ ω) (v : GuildView γ ω) : Prop where
  stores : GuildStores.Lawful b.stores v.holds
  opens : ∀ guild {w}, v.tidy w →
    match b.openGuild guild w with
    | (.ok stored, w') => v.tidy w' ∧ v.sound stored
    | (.error _, w') => v.tidy w'

namespace Backend

variable {b : Backend γ ω} {v : GuildView γ ω}

theorem Lawful.holds (hb : b.Lawful v) : b.Holds v where
  stores := hb.stores
  opens guild w hw := by
    have hopens := hb.opens guild hw
    generalize b.openGuild guild w = opened at hopens ⊢
    rcases opened with ⟨fault | stored, w'⟩
    · exact hopens
    · exact ⟨hopens.1, hopens.2.1⟩

/-- Guilds are read in full when they are opened and stay so. -/
theorem Holds.maintains (hb : b.Holds v) : b.Maintains v (Scope.Loaded v) where
  opens guild serial events w hw := by
    have hopens := hb.opens guild hw
    generalize b.openGuild guild w = opened at hopens ⊢
    rcases opened with ⟨fault | stored, w₁⟩
    · exact hopens
    · obtain ⟨⟨hsound, hordered, hw₂⟩, -⟩ :=
        (Scope.evolves_preload b.stores { id := guild, serial, stored, events } w₁).loaded hb.stores
          hopens.2 Trie.ordered_empty hopens.1
      refine ⟨fun hpreload ↦ ⟨hsound, hordered, ?_⟩, hw₂⟩
      exact ((Scope.isFull_iff _).mp (Scope.isFull_of_preload hpreload)).2.1
  step hstep ha hw := by
    obtain ⟨⟨hsound, hordered, hw'⟩, hfull⟩ := hstep.loaded hb.stores ha.sound ha.ordered hw
    exact ⟨⟨hsound, hordered, hfull ha.full⟩, hw'⟩

end Backend

/-! ### Guilds in files -/

namespace GuildFile

/-- The rows of a guild that is kept in a file, whatever they are and whatever the disk holds. -/
def anyView : GuildView GuildFile Disk where
  rows f := f.rows
  sound _ := True
  tidy _ := True

theorem lawful_store_any [Keyed V] (fmt : RowFormat) (get : GuildTables → Rows V)
    (put : GuildTables → Rows V → GuildTables) (hget : ∀ rows t, get (put rows t) = t)
    (hput : ∀ rows t t', put (put rows t) t' = put rows t') (rows : GuildTables) :
    (store fmt get put).Lawful fun s t ↦ anyView.holds s (put rows t) where
  loadAll := by
    rintro s t ⟨-, -, hrows⟩
    have hrows' : s.1.rows = put rows t := hrows
    refine ⟨?_, trivial, trivial, hrows⟩
    rw [hrows', hget]
  loadOne := by
    rintro key s t ⟨-, -, hrows⟩
    have hrows' : s.1.rows = put rows t := hrows
    refine ⟨?_, trivial, trivial, hrows⟩
    rw [hrows', hget]
  upsert := by
    rintro row s t ⟨-, -, hrows⟩
    have hrows' : s.1.rows = put rows t := hrows
    simp only [store, change, hrows', hget, hput]
    rcases save fmt s.1.path (put rows (t.insert (Keyed.key row) row)) s.2 with ⟨e | ⟨⟩, d⟩
    · exact ⟨trivial, trivial, hrows⟩
    · exact ⟨trivial, trivial, rfl⟩
  delete := by
    rintro key s t ⟨-, -, hrows⟩
    have hrows' : s.1.rows = put rows t := hrows
    simp only [store, change, hrows', hget, hput]
    rcases save fmt s.1.path (put rows (t.erase key)) s.2 with ⟨e | ⟨⟩, d⟩
    · exact ⟨trivial, trivial, hrows⟩
    · exact ⟨rfl, trivial, trivial, rfl⟩

end GuildFile

/-- Guilds in files keep their rows whatever the files hold. -/
theorem Backend.holds_files (fmt : RowFormat) (directory : String) (seed : List PermissionRule) :
    (Backend.files fmt directory seed).Holds GuildFile.anyView where
  stores := {
    permissions := GuildFile.lawful_store_any fmt (·.permissions) ({ · with permissions := · })
      (fun _ _ ↦ rfl) fun _ _ _ ↦ rfl
    cooldowns := GuildFile.lawful_store_any fmt (·.cooldowns) ({ · with cooldowns := · })
      (fun _ _ ↦ rfl) fun _ _ _ ↦ rfl
    commands := GuildFile.lawful_store_any fmt (·.commands) ({ · with commands := · })
      (fun _ _ ↦ rfl) fun _ _ _ ↦ rfl
    keywords := GuildFile.lawful_store_any fmt (·.keywords) ({ · with keywords := · })
      (fun _ _ ↦ rfl) fun _ _ _ ↦ rfl }
  opens guild d _ := by
    rcases (Backend.files fmt directory seed).openGuild guild d with ⟨fault | f, d'⟩
    · trivial
    · exact ⟨trivial, trivial⟩

end Guildhall
