import Guildhall.Proofs.Guild
import Mathlib.Data.List.Find

/-!
The keyword that a text fires. Compiled patterns are kept between lookups, but a kept pattern is
what its text compiles to, and a lookup compiles what is missing first
(`PatternCache.get?_refresh`), so that a lookup finds the first keyword that fires, whatever is kept
(`PatternCache.firstMatch_eq`). Keywords are listed by name (`Table.IsKeyed.find?_values_iff`).
Whatever is done in a guild, its scope goes on to mirror the keywords that the changes which
succeeded have left, and to keep patterns as they compile (`KeywordEvent.hasKeywords_runAll`). So a
lookup answers the first of these keywords, by name, that fires
(`KeywordEvent.lookup_finds_first_by_name`).
-/

set_option autoImplicit false

namespace Guildhall

/-- Whether the compiled pattern of a keyword matches a text. -/
def Keyword.fires (k : Keyword) (text : String) : Bool :=
  (Keyword.compile? k.pattern).any (·.isMatch text)

/-! ### Kept patterns -/

namespace PatternCache

/-- Patterns are kept with what they compile to. -/
def IsSound (cache : PatternCache) : Prop :=
  ∀ e ∈ cache.compiled, e.2 = Keyword.compile? e.1

theorem isSound_empty : ({} : PatternCache).IsSound := by simp [IsSound]

/-- Patterns may be dropped. -/
theorem IsSound.subset {cache cache' : PatternCache} (hcache : cache.IsSound)
    (hsubset : cache'.compiled ⊆ cache.compiled) : cache'.IsSound :=
  fun e he ↦ hcache e (hsubset he)

theorem IsSound.get? {cache : PatternCache} (hcache : cache.IsSound) {pattern : String}
    {compiled : Option Pattern.Compiled} (hget : cache.get? pattern = some compiled) :
    compiled = Keyword.compile? pattern := by
  obtain ⟨before, after, hsplit, -⟩ := List.lookup_eq_some_iff.mp hget
  exact hcache (pattern, compiled) (by simp [hsplit])

/-- Compiles the pattern of a keyword, unless that was done before. -/
def add (cache : PatternCache) (k : Keyword) : PatternCache :=
  if (cache.get? k.pattern).isSome then cache
  else ⟨cache.compiled ++ [(k.pattern, Keyword.compile? k.pattern)]⟩

theorem refresh_eq (cache : PatternCache) (keywords : List Keyword) :
    cache.refresh keywords =
      if keywords.all fun k ↦ (cache.get? k.pattern).isSome then cache
      else keywords.foldl add
        ⟨cache.compiled.filter fun e ↦ keywords.any (·.pattern == e.1)⟩ := by
  rw [refresh]
  split_ifs with hall
  · rfl
  · refine (List.foldl_hom PatternCache.mk fun compiled k ↦ ?_).symm
    exact (apply_ite PatternCache.mk (compiled.lookup k.pattern).isSome _ _).symm

theorem get?_add (cache : PatternCache) (k : Keyword) (pattern : String) :
    (cache.add k).get? pattern =
      (cache.get? pattern).or
        (if pattern = k.pattern then some (Keyword.compile? pattern) else none) := by
  by_cases hkept : (cache.get? k.pattern).isSome
  · rw [add, if_pos hkept]
    by_cases hpattern : pattern = k.pattern
    · rw [hpattern, Option.or_of_isSome hkept]
    · rw [if_neg hpattern, Option.or_none]
  · rw [add, if_neg hkept, get?, List.lookup_append, get?]
    by_cases hpattern : pattern = k.pattern
    · simp [hpattern]
    · simp [hpattern, List.lookup_cons, beq_false_of_ne hpattern]

theorem get?_foldl_add (cache : PatternCache) (keywords : List Keyword) (pattern : String) :
    (keywords.foldl add cache).get? pattern = (cache.get? pattern).or
      (if ∃ k ∈ keywords, pattern = k.pattern then some (Keyword.compile? pattern) else none) := by
  induction keywords generalizing cache with
  | nil => simp
  | cons k keywords ih =>
    rw [List.foldl_cons, ih, get?_add, Option.or_assoc]
    by_cases hpattern : pattern = k.pattern
    · simp [hpattern]
    · simp [hpattern]

theorem IsSound.add {cache : PatternCache} (hcache : cache.IsSound) (k : Keyword) :
    (cache.add k).IsSound := by
  rw [PatternCache.add]
  split_ifs
  · exact hcache
  · intro e he
    rcases List.mem_append.mp he with he | he
    · exact hcache e he
    · rw [List.mem_singleton.mp he]

theorem IsSound.foldl_add {cache : PatternCache} (hcache : cache.IsSound)
    (keywords : List Keyword) : (keywords.foldl PatternCache.add cache).IsSound := by
  induction keywords generalizing cache with
  | nil => exact hcache
  | cons k keywords ih => exact ih (hcache.add k)

theorem IsSound.refresh {cache : PatternCache} (hcache : cache.IsSound) (keywords : List Keyword) :
    (cache.refresh keywords).IsSound := by
  rw [refresh_eq]
  split_ifs
  · exact hcache
  · exact (hcache.subset (List.filter_subset_self _)).foldl_add keywords

/-- Before a lookup, the patterns of all keywords are there as they compile. -/
theorem get?_refresh {cache : PatternCache} (hcache : cache.IsSound) {keywords : List Keyword}
    {k : Keyword} (hk : k ∈ keywords) :
    (cache.refresh keywords).get? k.pattern = some (Keyword.compile? k.pattern) := by
  rw [refresh_eq]
  split_ifs with hall
  · obtain ⟨compiled, hget⟩ := Option.isSome_iff_exists.mp (List.all_eq_true.mp hall k hk)
    rw [hget, hcache.get? hget]
  · -- A pattern that was kept is as it compiles, so that it may be found instead of a new one.
    rw [get?_foldl_add, if_pos ⟨k, hk, rfl⟩]
    generalize hkept : PatternCache.mk _ = kept
    cases hget : kept.get? k.pattern with
    | none => rfl
    | some compiled =>
      have hsound : kept.IsSound := hkept ▸ hcache.subset (List.filter_subset_self _)
      rw [hsound.get? hget]
      rfl

/-- A lookup finds the first keyword that fires, whatever is kept. -/
theorem firstMatch_eq {cache : PatternCache} (hcache : cache.IsSound) (keywords : List Keyword)
    (text : String) :
    (cache.firstMatch keywords text).1 = keywords.find? (·.fires text) := by
  refine List.find?_congr fun k hk ↦ ?_
  rw [get?_refresh hcache hk]
  rfl

end PatternCache

/-! ### The first row -/

namespace Table

variable {V : Type} [Keyed V] {t : Table String V}

theorem IsKeyed.get?_key (ht : t.IsKeyed) {row : V} (hrow : row ∈ t.values) :
    t.get? (Keyed.key row) = some row := by
  obtain ⟨key, hget⟩ := mem_values_iff.mp hrow
  rwa [ht key row hget]

/-- Rows that stand under their own keys are listed by key. -/
theorem IsKeyed.values_ascending (ht : t.IsKeyed) :
    t.values.Pairwise (Keyed.key · < Keyed.key ·) := by
  refine List.pairwise_map.mpr (t.ascending.imp_of_mem fun {e e'} he he' hlt ↦ ?_)
  rwa [ht e.1 e.2 (mem_entries_iff.mp he), ht e'.1 e'.2 (mem_entries_iff.mp he')]

/-- No row that satisfies `p` has a lesser key than the first one. -/
theorem IsKeyed.key_le_of_find?_values (ht : t.IsKeyed) {p : V → Bool} {row row' : V}
    (hfind : t.values.find? p = some row) (hrow' : row' ∈ t.values) (hp' : p row' = true) :
    Keyed.key row ≤ Keyed.key row' := by
  obtain ⟨-, before, after, hsplit, hbefore⟩ := List.find?_eq_some_iff_append.mp hfind
  have hascending := ht.values_ascending
  rw [hsplit] at hrow' hascending
  rcases List.mem_append.mp hrow' with hrow' | hrow'
  · have hother := hbefore row' hrow'
    rw [hp'] at hother
    cases hother
  · rcases List.mem_cons.mp hrow' with rfl | hrow'
    · exact String.le_refl _
    · have hafter := (List.pairwise_cons.mp (List.pairwise_append.mp hascending).2.1).1
      exact String.not_lt.mp (String.lt_asymm (hafter row' hrow'))

/-- Of the rows that satisfy `p`, the one with the least key is found. -/
theorem IsKeyed.find?_values_iff (ht : t.IsKeyed) {p : V → Bool} {row : V} :
    t.values.find? p = some row ↔ row ∈ t.values ∧ p row = true ∧
      ∀ row' ∈ t.values, p row' = true → Keyed.key row ≤ Keyed.key row' := by
  constructor
  · intro hfind
    exact ⟨List.mem_of_find?_eq_some hfind, List.find?_some hfind,
      fun row' hrow' hp' ↦ ht.key_le_of_find?_values hfind hrow' hp'⟩
  · rintro ⟨hrow, hp, hleast⟩
    obtain ⟨found, hfind⟩ := Option.isSome_iff_exists.mp (List.find?_isSome.mpr ⟨row, hrow, hp⟩)
    have hfound := List.mem_of_find?_eq_some hfind
    have hsame : Keyed.key found = Keyed.key row :=
      String.le_antisymm (ht.key_le_of_find?_values hfind hrow hp)
        (hleast found hfound (List.find?_some hfind))
    rw [hfind, ← ht.get?_key hfound, hsame, ht.get?_key hrow]

end Table

/-! ### Lookups in a guild -/

variable {γ ω : Type}

namespace Scope

/-- A scope that mirrors its stores, which hold these keywords, and that keeps patterns as they
compile. -/
structure HasKeywords (v : GuildView γ ω) (t : Table String Keyword) (sc : Scope γ) (w : ω) :
    Prop where
  faithful : sc.Faithful v
  tidy : v.tidy w
  rows : (v.rows sc.stored).keywords = t
  patterns : sc.patterns.IsSound

variable {v : GuildView γ ω} {st : GuildStores (γ × ω)} {t : Table String Keyword} {sc : Scope γ}
  {w : ω}

theorem hasKeywords_fresh {guild : String} {serial : Nat} {stored : γ} {events : Events}
    (hsound : v.sound stored) (hkeyed : (v.rows stored).IsKeyed) (hw : v.tidy w) :
    ({ id := guild, serial, stored, events } : Scope γ).HasKeywords v (v.rows stored).keywords w :=
  ⟨faithful_fresh hsound hkeyed, hw, rfl, PatternCache.isSound_empty⟩

theorem HasKeywords.isKeyed (hsc : sc.HasKeywords v t w) : t.IsKeyed :=
  hsc.rows ▸ hsc.faithful.keyed.keywords

theorem HasKeywords.reflects (hsc : sc.HasKeywords v t w) :
    sc.keywords.Reflects (fun s t ↦ v.holds s { v.rows sc.stored with keywords := t })
      (sc.stored, w) t := by
  obtain ⟨hfaithful, hw, rfl, -⟩ := hsc
  exact hfaithful.reflectsKeywords hw

theorem hasKeywords_of_rows (rows : GuildTables) (hholds : v.holds (sc.stored, w) rows)
    (hkeyed : rows.IsKeyed) (hpermissions : sc.policy.permissions.Mirrors rows.permissions)
    (hcooldowns : sc.policy.cooldowns.Mirrors rows.cooldowns)
    (hcommands : sc.commands.Mirrors rows.commands)
    (hkeywords : sc.keywords.Mirrors rows.keywords) (hpatterns : sc.patterns.IsSound) :
    sc.HasKeywords v rows.keywords w where
  faithful := (faithful_of_rows hholds hkeyed hpermissions hcooldowns hcommands hkeywords).1
  tidy := hholds.2.1
  rows := congrArg (·.keywords) hholds.2.2
  patterns := hpatterns

/-- A call on the keywords leaves what it makes of them if it succeeds. -/
theorem HasKeywords.onKeywords (hst : GuildStores.Lawful st v.holds) (hsc : sc.HasKeywords v t w)
    (call : CacheCall Keyword) :
    let r := sc.onKeywords (call.run st.keywords) w
    r.2.1.HasKeywords v (call.rowsAfter r.1 t) r.2.2 := by
  have hkeyed := hsc.faithful.keyed
  have hrun := CacheCall.reflects_run (hst.keywords (v.rows sc.stored)) hsc.reflects call
  exact hasKeywords_of_rows { v.rows sc.stored with keywords := _ } hrun.holds
    ⟨hkeyed.permissions, hkeyed.cooldowns, hkeyed.commands, hrun.keyed⟩
    hsc.faithful.permissions hsc.faithful.cooldowns hsc.faithful.commands hrun.mirrors hsc.patterns

theorem HasKeywords.onCommands (hst : GuildStores.Lawful st v.holds) (hsc : sc.HasKeywords v t w)
    (call : CacheCall CustomCommand) :
    let r := sc.onCommands (call.run st.commands) w
    r.2.1.HasKeywords v t r.2.2 := by
  obtain ⟨hfaithful, hw, rfl, hpatterns⟩ := hsc
  have hkeyed := hfaithful.keyed
  have hrun := CacheCall.reflects_run (hst.commands (v.rows sc.stored))
    (hfaithful.reflectsCommands hw) call
  let commands := call.rowsAfter (sc.onCommands (call.run st.commands) w).1
    (v.rows sc.stored).commands
  exact hasKeywords_of_rows { v.rows sc.stored with commands } hrun.holds
    ⟨hkeyed.permissions, hkeyed.cooldowns, hrun.keyed, hkeyed.keywords⟩
    hfaithful.permissions hfaithful.cooldowns hrun.mirrors hfaithful.keywords hpatterns

theorem HasKeywords.onPolicy (hst : GuildStores.Lawful st v.holds) (hsc : sc.HasKeywords v t w)
    (call : PolicyCall) :
    let r := sc.withPolicy (call.run st.rules sc.policy (sc.stored, w))
    r.1.HasKeywords v t r.2 := by
  obtain ⟨hfaithful, hw, rfl, hpatterns⟩ := hsc
  obtain ⟨rows, hrun⟩ :=
    PolicyCall.reflects_run (hst.rules (v.rows sc.stored)) call (hfaithful.policy hw)
  exact hasKeywords_of_rows
    { v.rows sc.stored with permissions := rows.permissions, cooldowns := rows.cooldowns }
    hrun.permissions.holds
    ⟨hrun.permissions.keyed, hrun.cooldowns.keyed, hfaithful.keyed.commands,
      hfaithful.keyed.keywords⟩
    hrun.permissions.mirrors hrun.cooldowns.mirrors hfaithful.commands hfaithful.keywords hpatterns

/-- The patterns that a scope keeps do not count for the rest. -/
theorem HasKeywords.withPatterns (hsc : sc.HasKeywords v t w) {patterns : PatternCache}
    (hpatterns : patterns.IsSound) : ({ sc with patterns } : Scope γ).HasKeywords v t w where
  faithful := ⟨hsc.faithful.sound, hsc.faithful.keyed, hsc.faithful.permissions,
    hsc.faithful.cooldowns, hsc.faithful.commands, hsc.faithful.keywords⟩
  tidy := hsc.tidy
  rows := hsc.rows
  patterns := hpatterns

/-- A lookup answers the first keyword that fires if the keywords can be listed, and changes none
of them. -/
theorem HasKeywords.matchingKeyword (hst : GuildStores.Lawful st v.holds)
    (hsc : sc.HasKeywords v t w) (text : String) :
    let r := sc.matchingKeyword st text w
    r.1 = (sc.onKeywords (·.listAll st.keywords ·) w).1.map
        (fun _ ↦ t.values.find? (·.fires text)) ∧
      r.2.1.HasKeywords v t r.2.2 := by
  -- Listing is a call on the keywords that answers the stored ones and changes none of them.
  have hlisted := hsc.onKeywords hst .listAll
  have hanswer : ∀ rows, (sc.keywords.listAll st.keywords (sc.stored, w)).1 = .ok rows →
      rows = t.values := by
    intro rows hrows
    have hlist : (CacheCall.run st.keywords .listAll sc.keywords (sc.stored, w)).1 =
        .ok (.rows rows) := congrArg (·.map CacheAnswer.rows) hrows
    exact CacheAnswer.rows.inj (CacheCall.answer_of_run (hst.keywords (v.rows sc.stored))
      hsc.reflects .listAll trivial hlist)
  simp only [CacheCall.run, Scope.onKeywords] at hlisted
  simp only [Scope.matchingKeyword, Scope.onKeywords]
  rcases hlist : sc.keywords.listAll st.keywords (sc.stored, w) with ⟨e | rows, c, stored, w'⟩
  · rw [hlist] at hlisted
    exact ⟨rfl, hlisted⟩
  · rw [hlist] at hlisted hanswer
    obtain rfl := hanswer rows rfl
    exact ⟨congrArg _ (PatternCache.firstMatch_eq hlisted.patterns _ text),
      hlisted.withPatterns (hlisted.patterns.refresh _)⟩

/-- Where the keywords can be listed, a lookup answers the one that comes first by name among those
that fire. -/
theorem HasKeywords.matchingKeyword_eq_first (hst : GuildStores.Lawful st v.holds)
    (hsc : sc.HasKeywords v t w) (text : String)
    (hlist : (sc.onKeywords (·.listAll st.keywords ·) w).1.isOk) :
    ∃ hit, (sc.matchingKeyword st text w).1 = .ok hit ∧
      (hit = none ↔ ∀ k ∈ t.values, ¬ k.fires text) ∧
      ∀ k, hit = some k ↔ k ∈ t.values ∧ k.fires text ∧
        ∀ k' ∈ t.values, k'.fires text → k.name ≤ k'.name := by
  refine ⟨t.values.find? (·.fires text), ?_, List.find?_eq_none, fun k ↦
    hsc.isKeyed.find?_values_iff⟩
  rw [(hsc.matchingKeyword hst text).1]
  cases hresult : (sc.onKeywords (·.listAll st.keywords ·) w).1 with
  | error e =>
    rw [hresult] at hlist
    cases hlist
  | ok rows => rfl

end Scope

/-! ### Histories of a guild -/

/-- What happens between two lookups: a lookup, a call on the keywords, something else in the guild,
or something outside of it. -/
inductive KeywordEvent (ω : Type) where
  | lookup (text : String)
  | keywords (call : CacheCall Keyword)
  | commands (call : CacheCall CustomCommand)
  | policy (call : PolicyCall)
  | signUps (events : Events)
  | outside (w : ω)

namespace KeywordEvent

/-- What an event does in a guild. Calls on the keywords are recorded with their answers. -/
def run (st : GuildStores (γ × ω)) (event : KeywordEvent ω) (sc : Scope γ) (w : ω) :
    List (CacheCall Keyword × Except CacheError (CacheAnswer Keyword)) × Scope γ × ω :=
  match event with
  | lookup text => ([], (sc.matchingKeyword st text w).2)
  | keywords call => let r := sc.onKeywords (call.run st.keywords) w; ([(call, r.1)], r.2)
  | commands call => ([], (sc.onCommands (call.run st.commands) w).2)
  | policy call => ([], sc.withPolicy (call.run st.rules sc.policy (sc.stored, w)))
  | signUps events => ([], { sc with events }, w)
  | outside w => ([], sc, w)

def runAll (st : GuildStores (γ × ω)) (history : List (KeywordEvent ω)) (sc : Scope γ) (w : ω) :
    List (CacheCall Keyword × Except CacheError (CacheAnswer Keyword)) × Scope γ × ω :=
  match history with
  | [] => ([], sc, w)
  | event :: history =>
    let (calls, sc, w) := event.run st sc w
    let (calls', sc, w) := runAll st history sc w
    (calls ++ calls', sc, w)

variable {v : GuildView γ ω} {st : GuildStores (γ × ω)} {t : Table String Keyword} {sc : Scope γ}
  {w : ω}

/-- After an event the keywords are those that the recorded calls leave. -/
theorem hasKeywords_run (hst : GuildStores.Lawful st v.holds) (hsc : sc.HasKeywords v t w)
    (event : KeywordEvent ω) (hevent : ∀ w', event = outside w' → v.tidy w') :
    let r := event.run st sc w
    r.2.1.HasKeywords v (CacheCall.rowsAfterAll r.1 t) r.2.2 := by
  cases event with
  | lookup text => exact (hsc.matchingKeyword hst text).2
  | keywords call => exact hsc.onKeywords hst call
  | commands call => exact hsc.onCommands hst call
  | policy call => exact hsc.onPolicy hst call
  | signUps events =>
    obtain ⟨hfaithful, hw, hrows, hpatterns⟩ := hsc
    refine ⟨?_, hw, hrows, hpatterns⟩
    exact ⟨hfaithful.sound, hfaithful.keyed, hfaithful.permissions, hfaithful.cooldowns,
      hfaithful.commands, hfaithful.keywords⟩
  | outside w' => exact { hsc with tidy := hevent w' rfl }

theorem hasKeywords_runAll (hst : GuildStores.Lawful st v.holds) (hsc : sc.HasKeywords v t w)
    (history : List (KeywordEvent ω)) (hhistory : ∀ w', outside w' ∈ history → v.tidy w') :
    let r := runAll st history sc w
    r.2.1.HasKeywords v (CacheCall.rowsAfterAll r.1 t) r.2.2 := by
  induction history generalizing sc w t with
  | nil => exact hsc
  | cons event history ih =>
    have hevent := hasKeywords_run hst hsc event fun w' hw' ↦ hhistory w' (hw' ▸ List.mem_cons_self)
    have hrest := ih hevent fun w' hw' ↦ hhistory w' (List.mem_cons_of_mem event hw')
    simp only [CacheCall.rowsAfterAll, ← List.foldl_append] at hrest
    exact hrest

/-- Whatever was done in a guild since it was opened, keywords looked up and changed included, its
stores hold the keywords that the changes which succeeded have left, and whichever of the compiled
patterns are still kept, a lookup answers the one of these keywords that comes first by name among
those that fire, if the keywords can be listed. -/
theorem lookup_finds_first_by_name (hst : GuildStores.Lawful st v.holds) (guild : String)
    (serial : Nat) (events : Events) {stored : γ} (hsound : v.sound stored)
    (hkeyed : (v.rows stored).IsKeyed) (hw : v.tidy w) (history : List (KeywordEvent ω))
    (hhistory : ∀ w', outside w' ∈ history → v.tidy w') :
    let r := runAll st history { id := guild, serial, stored, events } w
    let t := CacheCall.rowsAfterAll r.1 (v.rows stored).keywords
    (v.rows r.2.1.stored).keywords = t ∧
      ∀ patterns : PatternCache, patterns.compiled ⊆ r.2.1.patterns.compiled → ∀ text,
        (r.2.1.onKeywords (·.listAll st.keywords ·) r.2.2).1.isOk →
          ∃ hit, (({ r.2.1 with patterns } : Scope γ).matchingKeyword st text r.2.2).1 = .ok hit ∧
            (hit = none ↔ ∀ k ∈ t.values, ¬ k.fires text) ∧
            ∀ k, hit = some k ↔ k ∈ t.values ∧ k.fires text ∧
              ∀ k' ∈ t.values, k'.fires text → k.name ≤ k'.name := by
  intro r t
  have hfresh : ({ id := guild, serial, stored, events } : Scope γ).HasKeywords v _ w :=
    Scope.hasKeywords_fresh hsound hkeyed hw
  have hsc : r.2.1.HasKeywords v t r.2.2 := hasKeywords_runAll hst hfresh history hhistory
  refine ⟨hsc.rows, fun patterns hpatterns text hlist ↦ ?_⟩
  have hkept := hsc.withPatterns (hsc.patterns.subset hpatterns)
  exact hkept.matchingKeyword_eq_first hst text hlist

/-- A keyword that fires for a table. -/
def tableKeyword : Keyword := { name := "table", pattern := "7", template := "Here!", owner := 1 }

/-- A keyword that fires for two tables, with a name before the other's. -/
def hallKeyword : Keyword := { name := "hall", pattern := "7|8", template := "Hello!", owner := 1 }

/-- The keyword of the hall is added after a lookup and cannot be removed, as writing fails. -/
def hallHistory : List (KeywordEvent Switchboard) :=
  [.lookup "table 7", .keywords (.upsert hallKeyword),
    .outside { switches := ⟨{}, {}, {}, { failWrites := true }⟩ }, .keywords (.remove "hall"),
    .lookup "8"]

theorem lookup_finds_first_by_name_hall :
    let st := Backend.switched.stores
    let stored : GuildRows Switched := ⟨{}, {}, {}, { rows := .ofRows [tableKeyword] }⟩
    let r := runAll st hallHistory { id := "hall", stored } {}
    r.1.map (·.2.isOk) = [true, false] ∧
      (r.2.1.matchingKeyword st "table 7" r.2.2).1 = .ok (some hallKeyword) := by
  intro st stored r
  have htidy : ∀ switches, Backend.switchedView.tidy { switches } := fun switches ↦
    ⟨⟨rfl, rfl, rfl, rfl⟩, Table.isKeyed_empty, Table.isKeyed_empty, Table.isKeyed_empty,
      Table.isKeyed_empty⟩
  have hhistory : ∀ w, outside w ∈ hallHistory → Backend.switchedView.tidy w := by
    intro w hw
    simp only [hallHistory, List.mem_cons, reduceCtorEq, outside.injEq, List.not_mem_nil,
      false_or, or_false] at hw
    exact hw ▸ htidy _
  have hsound : Backend.switchedView.sound stored := ⟨rfl, rfl, rfl, rfl⟩
  have hkeyed : (Backend.switchedView.rows stored).IsKeyed :=
    ⟨Table.isKeyed_empty, Table.isKeyed_empty, Table.isKeyed_empty, Table.isKeyed_ofRows _⟩
  obtain ⟨-, hlookup⟩ := lookup_finds_first_by_name Backend.lawful_switched.stores "hall" 0 {}
    hsound hkeyed (htidy ⟨{}, {}, {}, {}⟩) hallHistory hhistory
  obtain ⟨hit, hanswer, -, hfirst⟩ :=
    hlookup r.2.1.patterns (List.Subset.refl _) "table 7" (by decide +kernel)
  have hhall : hit = some hallKeyword := (hfirst hallKeyword).mpr (by decide +kernel)
  exact ⟨by decide +kernel, hhall ▸ hanswer⟩

end KeywordEvent

end Guildhall
