import Guildhall.Proofs.BotViews
import Guildhall.Proofs.ReadAccounting

/-!
Guilds that were read once. The stores of a guild can be watched, each with a log of its own
(`Backend.watched`), which changes nothing of what a bot does (`Bot.seenAs_watched`). When a guild
has been opened, each log shows one read of everything (`Scope.readOnce_of_preload`); as a full
cache leaves no room for reads (`Cache.Accounted.of_full`), no step in the guild adds another
(`Backend.Lawful.maintains_readOnce`). So whatever messages come, and whichever calls of the stores
fail, the caches of an open guild stay full, and their indexes hold the rows that are stored and
nothing else (`Bot.preloaded_guilds_stay_loaded`).
-/

set_option autoImplicit false

namespace Guildhall

variable {γ ω σ κ V : Type}

/-! ### Full caches -/

/-- The slots of rows. -/
def Table.slots (t : Table String V) : List (List Char × Option V) :=
  t.entries.map fun e ↦ (e.1.toList, some e.2)

namespace Cache

/-- The index of a full cache holds one entry for each row of the store, in their order, and
remembers no misses. -/
theorem Mirrors.entries_eq {c : Cache V} {t : Table String V} (hc : c.Mirrors t)
    (hfull : c.state = .full) : c.slots.entries = t.slots := by
  have hantisymm : Std.Antisymm fun a b : List Char × Option V ↦ a.1 < b.1 :=
    ⟨fun a b hab hba ↦ absurd hba (Std.Asymm.asymm a.1 b.1 hab)⟩
  have hirrefl : Std.Irrefl fun a b : List Char × Option V ↦ a.1 < b.1 :=
    ⟨fun a ↦ Std.Irrefl.irrefl a.1⟩
  have hrows : t.slots.Pairwise (·.1 < ·.1) := by
    rw [Table.slots, List.pairwise_map]
    exact t.ascending.imp fun hlt ↦ hlt
  refine List.Pairwise.eq_of_mem_iff (Trie.entries_ascending hc.ordered) hrows ?_
  rintro ⟨path, slot⟩
  rw [Trie.mem_entries_iff hc.ordered, hc.full hfull, Table.slots, List.mem_map]
  constructor
  · intro hslot
    obtain ⟨row, hrow, rfl⟩ := Option.map_eq_some_iff.mp hslot
    exact ⟨(String.ofList path, row), Table.mem_entries_iff.mpr hrow, by simp⟩
  · rintro ⟨⟨key, row⟩, hmem, heq⟩
    obtain ⟨rfl, rfl⟩ := Prod.mk.inj heq
    rw [String.ofList_toList, Table.mem_entries_iff.mp hmem, Option.map_some]

/-- What an operation on a full cache adds to the record are no reads. -/
theorem Accounted.of_full {α : Type} {record : σ → κ} {add : StoreEvent → κ → κ} {c : Cache V}
    {s : σ} {r : Except CacheError α × Cache V × σ} (hr : c.Accounted record add s r)
    (hfull : c.state = .full) {Q : κ → Prop} (hadd : ∀ e k, e.isRead = false → Q k → Q (add e k))
    (hs : Q (record s)) : Q (record r.2.2) := by
  obtain ⟨events, hrecord, haccounts⟩ := hr
  have hwrites : ∀ e ∈ events, e.isRead = false := fun e he ↦ by
    by_contra hread
    exact not_allows_of_full hfull (by simpa using hread) (haccounts.allowed e he)
  rw [hrecord]
  clear hrecord haccounts
  generalize record s = k at hs ⊢
  induction events generalizing k with
  | nil => exact hs
  | cons e events ih =>
    rw [List.forall_mem_cons] at hwrites
    exact ih hwrites.2 _ (hadd e k hwrites.1 hs)

/-- Listing every row, where that is not yet known, reads everything. -/
theorem record_listAll [Keyed V] {st : RowStore σ V} {record : σ → κ} {add : StoreEvent → κ → κ}
    (hst : st.Records record add) {c : Cache V} (hnotfull : c.state ≠ .full) {s : σ}
    {rows : List V} (hlist : (c.listAll st s).1 = .ok rows) :
    record (c.listAll st s).2.2 = add (.loadAll true) (record s) := by
  have hload := hst.loadAll s
  simp only [listAll, if_neg hnotfull] at hlist ⊢
  generalize st.loadAll s = loaded at hload hlist ⊢
  rcases loaded with ⟨fault | rows', s'⟩
  · simp at hlist
  · exact hload

end Cache

/-! ### Watched guilds -/

/-- A log for each collection. -/
abbrev GuildLogs := GuildRows fun _ ↦ List StoreEvent

/-- Each log shows one read of everything, which was done, and no other read. -/
structure GuildRows.ReadOnce (logs : GuildLogs) : Prop where
  permissions : logs.permissions.filter (·.isRead) = [.loadAll true]
  cooldowns : logs.cooldowns.filter (·.isRead) = [.loadAll true]
  commands : logs.commands.filter (·.isRead) = [.loadAll true]
  keywords : logs.keywords.filter (·.isRead) = [.loadAll true]

namespace RowStore

variable [Keyed V]

theorem Lawful.watched {st : RowStore σ V} {holds : σ → Table String V → Prop}
    (hst : st.Lawful holds) : st.watched.Lawful fun s t ↦ holds s.1 t where
  loadAll := by
    intro s t hs
    have hcall := hst.loadAll hs
    simp only [RowStore.watched]
    generalize st.loadAll s.1 = r at hcall ⊢
    rcases r with ⟨fault | rows, s'⟩
    · exact hcall
    · exact hcall
  loadOne := by
    intro key s t hs
    have hcall := hst.loadOne key hs
    simp only [RowStore.watched]
    generalize st.loadOne key s.1 = r at hcall ⊢
    rcases r with ⟨fault | row, s'⟩
    · exact hcall
    · exact hcall
  upsert := by
    intro row s t hs
    have hcall := hst.upsert row hs
    simp only [RowStore.watched]
    generalize st.upsert row s.1 = r at hcall ⊢
    rcases r with ⟨fault | _ | _, s'⟩
    · exact hcall
    · exact hcall
    · exact hcall
  delete := by
    intro key s t hs
    have hcall := hst.delete key hs
    simp only [RowStore.watched]
    generalize st.delete key s.1 = r at hcall ⊢
    rcases r with ⟨fault | existed, s'⟩
    · exact hcall
    · exact hcall

/-- A store of a guild, watched in one of the logs beside the guild. -/
def logged (st : RowStore (γ × ω) V) (log : GuildLogs → List StoreEvent)
    (put : GuildLogs → List StoreEvent → GuildLogs) : RowStore ((γ × GuildLogs) × ω) V :=
  st.watched.within (fun s ↦ ((s.1.1, s.2), log s.1.2))
    fun s r ↦ ((r.1.1, put s.1.2 r.2), r.1.2)

theorem Lawful.logged {st : RowStore (γ × ω) V} {holds : γ × ω → Table String V → Prop}
    (hst : st.Lawful holds) (log : GuildLogs → List StoreEvent)
    (put : GuildLogs → List StoreEvent → GuildLogs) :
    (st.logged log put).Lawful fun s t ↦ holds (s.1.1, s.2) t :=
  hst.watched.within _ _ (fun hs ↦ hs) fun _ hs ↦ hs

theorem records_logged (st : RowStore (γ × ω) V) (log : GuildLogs → List StoreEvent)
    (put : GuildLogs → List StoreEvent → GuildLogs) :
    (st.logged log put).Records (fun s ↦ s.1.2) fun e logs ↦ put logs (log logs ++ [e]) where
  loadAll _ := rfl
  loadOne _ _ := rfl
  upsert _ _ := rfl
  delete _ _ := rfl

theorem seenAs_logged (st : RowStore (γ × ω) V) (log : GuildLogs → List StoreEvent)
    (put : GuildLogs → List StoreEvent → GuildLogs) :
    (st.logged log put).SeenAs (fun s ↦ (s.1.1, s.2)) st where
  loadAll _ := rfl
  loadOne _ _ := rfl
  upsert _ _ := rfl
  delete _ _ := rfl

end RowStore

/-- The guilds of a backend, each beside logs of the calls of its stores. -/
def Backend.watched (b : Backend γ ω) : Backend (γ × GuildLogs) ω where
  openGuild guild w :=
    let r := b.openGuild guild w
    (r.1.map (·, ⟨[], [], [], []⟩), r.2)
  stores := {
    permissions := b.stores.permissions.logged (·.permissions) ({ · with permissions := · })
    cooldowns := b.stores.cooldowns.logged (·.cooldowns) ({ · with cooldowns := · })
    commands := b.stores.commands.logged (·.commands) ({ · with commands := · })
    keywords := b.stores.keywords.logged (·.keywords) ({ · with keywords := · }) }

/-- The rows beside the logs. -/
def GuildView.watched (v : GuildView γ ω) : GuildView (γ × GuildLogs) ω where
  rows s := v.rows s.1
  sound s := v.sound s.1
  tidy := v.tidy

theorem Backend.Lawful.watched {b : Backend γ ω} {v : GuildView γ ω} (hb : b.Lawful v) :
    b.watched.Lawful v.watched where
  stores := {
    permissions := fun rows ↦
      (hb.stores.permissions rows).logged (·.permissions) ({ · with permissions := · })
    cooldowns := fun rows ↦
      (hb.stores.cooldowns rows).logged (·.cooldowns) ({ · with cooldowns := · })
    commands := fun rows ↦
      (hb.stores.commands rows).logged (·.commands) ({ · with commands := · })
    keywords := fun rows ↦
      (hb.stores.keywords rows).logged (·.keywords) ({ · with keywords := · }) }
  opens guild w hw := by
    have hopens := hb.opens guild hw
    simp only [Backend.watched]
    generalize b.openGuild guild w = opened at hopens ⊢
    rcases opened with ⟨fault | stored, w'⟩
    · exact hopens
    · exact hopens

/-- Each call of a store adds its event to the log of its collection. -/
structure GuildStores.Logged (st : GuildStores ((γ × GuildLogs) × ω)) : Prop where
  permissions : st.permissions.Records (fun s ↦ s.1.2) fun e logs ↦
    { logs with permissions := logs.permissions ++ [e] }
  cooldowns : st.cooldowns.Records (fun s ↦ s.1.2) fun e logs ↦
    { logs with cooldowns := logs.cooldowns ++ [e] }
  commands : st.commands.Records (fun s ↦ s.1.2) fun e logs ↦
    { logs with commands := logs.commands ++ [e] }
  keywords : st.keywords.Records (fun s ↦ s.1.2) fun e logs ↦
    { logs with keywords := logs.keywords ++ [e] }

/-- Without their logs watched guilds are the guilds. -/
theorem Backend.seenAs_watched (b : Backend γ ω) : b.watched.SeenAs Prod.fst b where
  opens guild w := by
    simp only [Backend.watched]
    rcases b.openGuild guild w with ⟨fault | stored, w'⟩
    · rfl
    · rfl
  stores := {
    permissions :=
      b.stores.permissions.seenAs_logged (·.permissions) ({ · with permissions := · })
    cooldowns := b.stores.cooldowns.seenAs_logged (·.cooldowns) ({ · with cooldowns := · })
    commands := b.stores.commands.seenAs_logged (·.commands) ({ · with commands := · })
    keywords := b.stores.keywords.seenAs_logged (·.keywords) ({ · with keywords := · }) }

theorem Backend.logged_watched (b : Backend γ ω) : GuildStores.Logged b.watched.stores where
  permissions := b.stores.permissions.records_logged (·.permissions) ({ · with permissions := · })
  cooldowns := b.stores.cooldowns.records_logged (·.cooldowns) ({ · with cooldowns := · })
  commands := b.stores.commands.records_logged (·.commands) ({ · with commands := · })
  keywords := b.stores.keywords.records_logged (·.keywords) ({ · with keywords := · })

/-! ### Opening a guild -/

namespace Policy

/-- A policy that could read every rule has read each collection once. -/
theorem record_preload (st : RuleStores σ) {record : σ → κ}
    {addPermissions addCooldowns : StoreEvent → κ → κ}
    (hpermissions : st.permissions.Records record addPermissions)
    (hcooldowns : st.cooldowns.Records record addCooldowns) {s : σ}
    (hpreload : (({} : Policy).preload st s).1 = .ok ()) :
    record (({} : Policy).preload st s).2.2 =
      addCooldowns (.loadAll true) (addPermissions (.loadAll true) (record s)) := by
  simp only [preload] at hpreload ⊢
  rcases hfirst : ({} : Policy).onPermissions (·.listAll st.permissions ·) s
    with ⟨e | rules, p₁, s₁⟩
  · simp [hfirst] at hpreload
  simp only [hfirst] at hpreload ⊢
  rcases hsecond : p₁.onCooldowns (·.listAll st.cooldowns ·) s₁ with ⟨e | rules, p₂, s₂⟩
  · simp [hsecond] at hpreload
  simp only [onPermissions, Prod.mk.injEq] at hfirst
  simp only [onCooldowns, Prod.mk.injEq] at hsecond
  obtain ⟨hok₁, rfl, rfl⟩ := hfirst
  obtain ⟨hok₂, rfl, rfl⟩ := hsecond
  rw [Cache.record_listAll hcooldowns (by simp) hok₂,
    Cache.record_listAll hpermissions (by simp) hok₁]

end Policy

namespace Scope

section Opening

variable {st : GuildStores ((γ × GuildLogs) × ω)} {sc sc' : Scope (γ × GuildLogs)} {w w' : ω}

theorem logs_of_preloadRules (hst : GuildStores.Logged st) (hfresh : sc.policy = {})
    (hpreload : sc.onPolicy (·.preload st.rules ·) w = (.ok (), sc', w')) :
    sc'.stored.2 = { sc.stored.2 with
      permissions := sc.stored.2.permissions ++ [.loadAll true]
      cooldowns := sc.stored.2.cooldowns ++ [.loadAll true] } ∧
      sc'.commands = sc.commands ∧ sc'.keywords = sc.keywords := by
  simp only [onPolicy, Prod.mk.injEq, hfresh] at hpreload
  obtain ⟨hok, rfl, -⟩ := hpreload
  exact ⟨Policy.record_preload st.rules hst.permissions hst.cooldowns hok, rfl, rfl⟩

theorem logs_of_listCommands (hst : GuildStores.Logged st) (hfresh : sc.commands.state ≠ .full)
    {rows : List CustomCommand}
    (hlist : sc.onCommands (·.listAll st.commands ·) w = (.ok rows, sc', w')) :
    sc'.stored.2 = { sc.stored.2 with commands := sc.stored.2.commands ++ [.loadAll true] } ∧
      sc'.keywords = sc.keywords := by
  simp only [onCommands, Prod.mk.injEq] at hlist
  obtain ⟨hok, rfl, -⟩ := hlist
  exact ⟨Cache.record_listAll hst.commands hfresh hok, rfl⟩

theorem logs_of_listKeywords (hst : GuildStores.Logged st) (hfresh : sc.keywords.state ≠ .full)
    {rows : List Keyword}
    (hlist : sc.onKeywords (·.listAll st.keywords ·) w = (.ok rows, sc', w')) :
    sc'.stored.2 = { sc.stored.2 with keywords := sc.stored.2.keywords ++ [.loadAll true] } := by
  simp only [onKeywords, Prod.mk.injEq] at hlist
  obtain ⟨hok, rfl, -⟩ := hlist
  exact Cache.record_listAll hst.keywords hfresh hok

/-- A guild that could be read in full has read each collection once. -/
theorem readOnce_of_preload (hst : GuildStores.Logged st) {guild : String} {serial : Nat}
    {stored : γ} {events : Events} :
    let fresh : Scope (γ × GuildLogs) :=
      { id := guild, serial, stored := (stored, ⟨[], [], [], []⟩), events }
    (fresh.preload st w).1 = .ok () → (fresh.preload st w).2.1.stored.2.ReadOnce := by
  intro fresh hpreload
  simp only [preload] at hpreload ⊢
  rcases hfirst : fresh.onPolicy (·.preload st.rules ·) w with ⟨e | ⟨⟩, sc₁, w₁⟩
  · simp [hfirst] at hpreload
  obtain ⟨hlogs₁, hcommands₁, hkeywords₁⟩ := logs_of_preloadRules hst rfl hfirst
  simp only [hfirst] at hpreload ⊢
  rcases hsecond : sc₁.onCommands (·.listAll st.commands ·) w₁ with ⟨e | rows, sc₂, w₂⟩
  · simp [hsecond] at hpreload
  obtain ⟨hlogs₂, hkeywords₂⟩ := logs_of_listCommands hst (by simp [hcommands₁, fresh]) hsecond
  simp only [hsecond] at hpreload ⊢
  rcases hthird : sc₂.onKeywords (·.listAll st.keywords ·) w₂ with ⟨e | rows, sc₃, w₃⟩
  · simp [hthird] at hpreload
  have hlogs₃ := logs_of_listKeywords hst (by simp [hkeywords₂, hkeywords₁, fresh]) hthird
  simp only [hlogs₃, hlogs₂, hlogs₁]
  exact ⟨rfl, rfl, rfl, rfl⟩

end Opening

end Scope

/-! ### Steps in an open guild -/

theorem StoreEvent.filter_isRead_concat {log : List StoreEvent} {e : StoreEvent}
    (hwrite : e.isRead = false) : (log ++ [e]).filter (·.isRead) = log.filter (·.isRead) := by
  simp [hwrite]

/-- A call on a full cache adds no read to the logs. -/
theorem CacheCall.readOnce_run [Keyed V] {st : RowStore ((γ × GuildLogs) × ω) V}
    {add : StoreEvent → GuildLogs → GuildLogs} (hst : st.Records (fun s ↦ s.1.2) add)
    (hadd : ∀ e (logs : GuildLogs), e.isRead = false → logs.ReadOnce → (add e logs).ReadOnce)
    {call : CacheCall V} (hcall : call.Keeps) {c : Cache V} (hc : c.slots.Ordered)
    (hfull : c.state = .full) {stored : γ × GuildLogs} (hstored : stored.2.ReadOnce) (w : ω) :
    (call.run st c (stored, w)).2.2.1.2.ReadOnce :=
  (accounted_run hst hcall hc (stored, w)).of_full hfull hadd hstored

theorem Scope.Step.readOnce {st : GuildStores ((γ × GuildLogs) × ω)} (hst : GuildStores.Logged st)
    {v : GuildView (γ × GuildLogs) ω} {a a' : Scope (γ × GuildLogs) × ω} (hstep : Step st a a')
    (hfaithful : a.1.Faithful v) (hfull : a.1.IsFull) (hlogs : a.1.stored.2.ReadOnce) :
    a'.1.stored.2.ReadOnce := by
  obtain ⟨⟨hpermissions, hcooldowns⟩, hcommands, hkeywords⟩ := (isFull_iff _).mp hfull
  cases hstep with
  | policy sc hstep =>
    cases hstep with
    | permissions call hcall p s =>
      refine CacheCall.readOnce_run hst.permissions ?_ hcall hfaithful.permissions.ordered
        hpermissions hlogs s.2
      exact fun e logs hwrite h ↦ { h with
        permissions := (StoreEvent.filter_isRead_concat hwrite).trans h.permissions }
    | cooldowns call hcall p s =>
      refine CacheCall.readOnce_run hst.cooldowns ?_ hcall hfaithful.cooldowns.ordered
        hcooldowns hlogs s.2
      exact fun e logs hwrite h ↦ { h with
        cooldowns := (StoreEvent.filter_isRead_concat hwrite).trans h.cooldowns }
  | commands call hcall sc w =>
    refine CacheCall.readOnce_run hst.commands ?_ hcall hfaithful.commands.ordered hcommands
      hlogs w
    exact fun e logs hwrite h ↦ { h with
      commands := (StoreEvent.filter_isRead_concat hwrite).trans h.commands }
  | keywords call hcall sc w =>
    refine CacheCall.readOnce_run hst.keywords ?_ hcall hfaithful.keywords.ordered hkeywords
      hlogs w
    exact fun e logs hwrite h ↦ { h with
      keywords := (StoreEvent.filter_isRead_concat hwrite).trans h.keywords }
  | events events sc w => exact hlogs
  | patterns patterns sc w => exact hlogs

/-- Guilds are full, and their stores have been read once, from their opening on. -/
theorem Backend.Lawful.maintains_readOnce {b : Backend γ ω} {v : GuildView γ ω}
    (hb : b.Lawful v) :
    b.watched.Maintains v.watched fun sc ↦
      (sc.Faithful v.watched ∧ sc.IsFull) ∧ sc.stored.2.ReadOnce where
  opens guild serial events w hw := by
    have hopens := hb.watched.maintains.opens guild serial events hw
    have hopened : b.watched.openGuild guild w =
        ((b.openGuild guild w).1.map (·, ⟨[], [], [], []⟩), (b.openGuild guild w).2) := rfl
    rw [hopened] at hopens ⊢
    generalize b.openGuild guild w = opened at hopens ⊢
    rcases opened with ⟨fault | stored, w₁⟩
    · exact hopens
    · exact ⟨fun hpreload ↦
        ⟨hopens.1 hpreload, Scope.readOnce_of_preload b.logged_watched hpreload⟩, hopens.2⟩
  step hstep ha hw := by
    obtain ⟨hfull', hw'⟩ := hb.watched.maintains.step hstep ha.1 hw
    exact ⟨⟨hfull', hstep.readOnce b.logged_watched ha.1.1 ha.1.2 ha.2⟩, hw'⟩

/-! ### Open guilds -/

/-- Each index holds one entry for each row, and nothing else. -/
structure Scope.Indexes (sc : Scope γ) (rows : GuildTables) : Prop where
  permissions : sc.policy.permissions.slots.entries = rows.permissions.slots
  cooldowns : sc.policy.cooldowns.slots.entries = rows.cooldowns.slots
  commands : sc.commands.slots.entries = rows.commands.slots
  keywords : sc.keywords.slots.entries = rows.keywords.slots

theorem Scope.Faithful.indexes {v : GuildView γ ω} {sc : Scope γ} (hsc : sc.Faithful v)
    (hfull : sc.IsFull) : sc.Indexes (v.rows sc.stored) := by
  obtain ⟨⟨hpermissions, hcooldowns⟩, hcommands, hkeywords⟩ := (isFull_iff sc).mp hfull
  exact ⟨hsc.permissions.entries_eq hpermissions, hsc.cooldowns.entries_eq hcooldowns,
    hsc.commands.entries_eq hcommands, hsc.keywords.entries_eq hkeywords⟩

namespace Bot

/-- The bot over watched stores. -/
def watched (bot : Bot γ ω) : Bot (γ × GuildLogs) ω :=
  { bot with backend := bot.backend.watched }

/-- Watching changes nothing of what a bot does. -/
theorem seenAs_watched (bot : Bot γ ω) : bot.watched.SeenAs Prod.fst bot :=
  ⟨bot.backend.seenAs_watched, rfl, rfl⟩

/-- Preloaded guilds stay loaded. After any messages, failures and closed guilds, every cache of an
open guild is full, and each index holds exactly one entry for each row that is stored; and as the
bot over watched stores has it in its logs, each store was read as a whole exactly once and in no
other way. -/
theorem preloaded_guilds_stay_loaded {bot : Bot γ ω} {v : GuildView γ ω}
    (hb : bot.backend.Lawful v) {registry : Registry Builtin} {events : Events} {world : ω}
    (hworld : v.tidy world) {history : List (BotEvent ω)}
    (htidy : ∀ event ∈ history, event.IsTidy v) {guild : String} {sc : Scope γ} :
    let s := bot.after history { directory := { events }, registry, world }
    let watched := bot.watched.after history { directory := { events }, registry, world }
    s.directory.scopes.get? guild = some sc →
      sc.IsFull ∧ sc.Indexes (v.rows sc.stored) ∧
        ∃ logs : GuildLogs,
          (watched.directory.scopes.get? guild).map (·.stored) = some (sc.stored, logs) ∧
            logs.ReadOnce := by
  intro s watched hopen
  have hseen : watched.SeenAs Prod.fst s :=
    bot.seenAs_watched.after ⟨⟨rfl, rfl, fun _ ↦ rfl⟩, rfl, rfl⟩ history
  rw [hseen.directory.scopes guild, Option.map_eq_some_iff] at hopen
  obtain ⟨sc', hopen, rfl⟩ := hopen
  have hmaintains : bot.watched.backend.Maintains v.watched _ := hb.maintains_readOnce
  obtain ⟨hall, -⟩ : watched.directory.All _ ∧ v.watched.tidy watched.world :=
    all_after hmaintains htidy ⟨Directory.all_empty _ events, hworld⟩
  obtain ⟨⟨hsc, hfull⟩, hlogs⟩ := hall guild sc' hopen
  refine ⟨hfull, ?_, sc'.stored.2, by rw [hopen]; rfl, hlogs⟩
  obtain ⟨hpermissions, hcooldowns, hcommands, hkeywords⟩ := hsc.indexes hfull
  exact ⟨hpermissions, hcooldowns, hcommands, hkeywords⟩

/-- A guild is opened, and then no store can be read or written any more. -/
def offlineHistory : List (BotEvent Switchboard) :=
  [.message true (secondsIn 0) (saying "good morning"),
    .world { slowPing with
      switches := ⟨{ failReads := true }, { failReads := true, failWrites := true },
        { failReads := true }, { failReads := true }⟩ },
    .message true (secondsIn 1) (saying "!ping"),
    .message true (secondsIn 9) (saying "!pong twice")]

/-- The guild of the offline history answers from what it read when it was opened; the one call of a
store is the write of `ping`'s last run, which fails. -/
theorem preloaded_guilds_stay_loaded_offline :
    let registry := (∅ : Registry Builtin).register Builtin.ping.spec .ping
    let s := switchedBot.after offlineHistory { directory := {}, registry, world := slowPing }
    let watched :=
      switchedBot.watched.after offlineHistory { directory := {}, registry, world := slowPing }
    ∃ (sc : Scope (GuildRows Switched)) (logs : GuildLogs),
      s.directory.scopes.get? "hall" = some sc ∧ sc.IsFull ∧
        sc.policy.cooldowns.slots.entries = sc.stored.cooldowns.rows.slots ∧
        (watched.directory.scopes.get? "hall").map (·.stored) = some (sc.stored, logs) ∧
        logs.cooldowns = [.loadAll true, .upsert "ping" false] ∧ logs.ReadOnce := by
  intro registry s watched
  have hsome : (s.directory.scopes.get? "hall").isSome := by decide
  have hlog : ((watched.directory.scopes.get? "hall").map (·.stored)).map (·.2.cooldowns) =
      some [.loadAll true, .upsert "ping" false] := by decide
  unfold s watched registry at *
  have htidy : ∀ event ∈ offlineHistory, event.IsTidy Backend.switchedView := by
    intro event hevent
    simp only [offlineHistory, List.mem_cons, List.not_mem_nil, or_false] at hevent
    obtain rfl | rfl | rfl | rfl := hevent
    · exact trivial
    · exact tidy_slowPing
    · exact trivial
    · exact trivial
  obtain ⟨sc, hopen⟩ := Option.isSome_iff_exists.mp hsome
  obtain ⟨hfull, hindexes, logs, hwatched, hlogs⟩ :=
    preloaded_guilds_stay_loaded Backend.lawful_switched tidy_slowPing htidy hopen
  rw [hwatched] at hlog
  exact ⟨sc, logs, hopen, hfull, hindexes.cooldowns, hwatched, Option.some.inj hlog, hlogs⟩

end Bot

end Guildhall
