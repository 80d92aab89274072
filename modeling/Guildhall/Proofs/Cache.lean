import Guildhall.Cache
import Guildhall.Proofs.Governing
import Guildhall.Proofs.Store

/-!
What a cache knows of its store. A cache mirrors the rows of its store if what it knows of a key is
what is there, and all of it once the store was read in full (`Cache.Mirrors`). Each operation
agrees with the operation on the rows themselves: it answers and changes what that one does, or it
fails and changes nothing (`Cache.Agrees`), and the cache mirrors the rows again.
-/

set_option autoImplicit false

namespace Guildhall

/-- The governing row stands under its own key. -/
theorem Table.IsKeyed.get?_of_governing? {V : Type} [Keyed V] {t : Table String V}
    (ht : t.IsKeyed) {action : String} {row : V} (hrow : t.governing? action = some row) :
    t.get? (Keyed.key row) = some row := by
  obtain ⟨key, hget, -⟩ := Table.governing?_eq_some_iff.mp hrow
  rw [ht key row hget, hget]

namespace Cache

variable {σ V : Type}

/-! ### What is known -/

theorem lookup_eq_none_iff {c : Cache V} {key : String} :
    c.lookup key = none ↔ c.state ≠ .full ∧ c.slots.get? key.toList = none := by
  unfold lookup
  cases c.slots.get? key.toList with
  | some slot => simp
  | none => simp

theorem remember_of_unknown {c : Cache V} {key : String} (hunknown : c.lookup key = none)
    (row : Option V) :
    c.remember key row =
      { c with slots := c.slots.insert key.toList row, state := .partially } := by
  obtain ⟨hnotfull, hslot⟩ := lookup_eq_none_iff.mp hunknown
  rw [remember, if_neg (by simp [hnotfull, hslot])]

/-- The longest beginning with a row is the first of all beginnings, from the longest on, whose
slot has one. -/
theorem longestPresent_eq_findSome? (c : Cache V) (query : String) :
    c.longestPresent query =
      (wordStarts query.toList).reverse.findSome? fun p ↦ (c.slots.get? p).join := by
  rw [longestPresent, Trie.prefixMatches_eq, ← List.filterMap_reverse, ← List.head?_filterMap,
    List.filterMap_filterMap, ← List.head?_filterMap]
  congr 2
  funext p
  cases c.slots.get? p <;> rfl

/-! ### Caches that mirror their rows -/

theorem ofList_eq_iff {path : List Char} {key : String} :
    String.ofList path = key ↔ path = key.toList := by
  rw [← String.toList_inj, String.toList_ofList]

/-- What a cache knows of a key is what is there, and a full cache knows of every row. -/
structure Mirrors (c : Cache V) (t : Table String V) : Prop where
  ordered : c.slots.Ordered
  known : ∀ key slot, c.slots.get? key = some slot → slot = t.get? (String.ofList key)
  full : c.state = .full → ∀ key, c.slots.get? key = (t.get? (String.ofList key)).map some

theorem mirrors_fresh (collection : Collection) (t : Table String V) :
    ({ collection } : Cache V).Mirrors t where
  ordered := Trie.ordered_empty
  known key slot hslot := by simp at hslot
  full hfull := by simp at hfull

theorem mirrors_invalidate (c : Cache V) (t : Table String V) : c.invalidate.Mirrors t where
  ordered := Trie.ordered_empty
  known key slot hslot := by simp [invalidate] at hslot
  full hfull := by simp [invalidate] at hfull

/-! ### The rows that are known -/

/-- The rows that are known, with the keys of their slots. -/
def presentEntries (c : Cache V) : List (String × V) :=
  c.slots.entries.filterMap fun e ↦ e.2.map (String.ofList e.1, ·)

theorem presentRows_eq_map (c : Cache V) : c.presentRows = c.presentEntries.map (·.2) := by
  rw [presentRows, presentEntries, Trie.values, List.map_filterMap, List.filterMap_map]
  refine List.filterMap_congr fun ⟨path, slot⟩ _ ↦ ?_
  cases slot <;> rfl

theorem presentEntries_ascending {c : Cache V} (hc : c.slots.Ordered) :
    c.presentEntries.Pairwise (·.1 < ·.1) := by
  rw [presentEntries, List.pairwise_filterMap]
  refine (Trie.entries_ascending hc).imp fun {e e'} hlt ↦ ?_
  intro d hd d' hd'
  obtain ⟨row, -, rfl⟩ := Option.map_eq_some_iff.mp hd
  obtain ⟨row', -, rfl⟩ := Option.map_eq_some_iff.mp hd'
  have hpaths : (String.ofList e.1).toList < (String.ofList e'.1).toList := by simpa using hlt
  exact hpaths

theorem mem_presentEntries_iff {c : Cache V} (hc : c.slots.Ordered) {key : String} {row : V} :
    (key, row) ∈ c.presentEntries ↔ c.slots.get? key.toList = some (some row) := by
  rw [presentEntries, List.mem_filterMap]
  constructor
  · rintro ⟨⟨path, slot⟩, he, hrow⟩
    obtain ⟨row', rfl, heq⟩ := Option.map_eq_some_iff.mp hrow
    obtain ⟨rfl, rfl⟩ := Prod.mk.inj heq
    rw [String.toList_ofList]
    exact (Trie.mem_entries_iff hc).mp he
  · intro hslot
    exact ⟨(key.toList, some row), (Trie.mem_entries_iff hc).mpr hslot, by simp⟩

namespace Mirrors

variable {c : Cache V} {t : Table String V}

/-- What a cache knows of a key is what a lookup in the rows finds. -/
theorem lookup_eq (hc : c.Mirrors t) {key : String} {row : Option V}
    (hlookup : c.lookup key = some row) : row = t.get? key := by
  unfold lookup at hlookup
  split at hlookup
  · rename_i slot hslot
    have hknown := hc.known _ _ hslot
    rw [String.ofList_toList] at hknown
    rw [← hknown, ← Option.some.inj hlookup]
  · rename_i hslot
    split_ifs at hlookup with hfull
    have hrow := hc.full hfull key.toList
    rw [hslot, String.ofList_toList, eq_comm, Option.map_eq_none_iff] at hrow
    rw [hrow, ← Option.some.inj hlookup]

theorem lookup_isSome_of_full (hfull : c.state = .full) (key : String) :
    (c.lookup key).isSome := by
  unfold lookup
  split
  · rfl
  · simp [hfull]

/-- Where every candidate is known, the longest that has a row is the governing one. -/
theorem longestPresent_eq (hc : c.Mirrors t) {query : String}
    (hknown : ∀ p ∈ wordStarts query.toList, c.state = .full ∨ (c.slots.get? p).isSome) :
    c.longestPresent query = t.governing? query := by
  -- Both sides go through the same beginnings, the longest first; one asks slots, the other rows.
  rw [longestPresent_eq_findSome?, Table.governing?_eq_findSome?, ← List.head?_filterMap,
    ← List.head?_filterMap]
  congr 1
  refine List.filterMap_congr fun p hp ↦ ?_
  rcases hknown p (List.mem_reverse.mp hp) with hfull | hsome
  · rw [hc.full hfull p]
    cases t.get? (String.ofList p) <;> rfl
  · obtain ⟨slot, hslot⟩ := Option.isSome_iff_exists.mp hsome
    rw [hslot, ← hc.known p slot hslot]
    rfl

/-- The rows of a full cache are the rows of the store, in the order of their keys. -/
theorem presentRows_eq (hc : c.Mirrors t) (hfull : c.state = .full) :
    c.presentRows = t.values := by
  have hsame : c.presentEntries = t.entries := by
    refine Table.eq_entries (presentEntries_ascending hc.ordered) fun ⟨key, row⟩ ↦ ?_
    rw [mem_presentEntries_iff hc.ordered, hc.full hfull, String.ofList_toList,
      Table.mem_entries_iff]
    simp
  rw [presentRows_eq_map, hsame]
  rfl

/-- A full cache reads nothing. -/
theorem resolve_eq_of_full (hc : c.Mirrors t) (hfull : c.state = .full) (st : RowStore σ V)
    (query : String) (s : σ) : c.resolve st query s = (.ok (t.governing? query), c, s) := by
  rw [resolve, if_pos hfull, hc.longestPresent_eq fun _ _ ↦ Or.inl hfull]

theorem get_eq_of_full (hc : c.Mirrors t) (hfull : c.state = .full) (st : RowStore σ V)
    (key : String) (s : σ) : c.get st key s = (.ok (t.get? key), c, s) := by
  obtain ⟨row, hlookup⟩ := Option.isSome_iff_exists.mp (lookup_isSome_of_full hfull key)
  rw [Cache.get, hlookup, hc.lookup_eq hlookup]

/-! ### What writes leave -/

theorem upsert [Keyed V] (hc : c.Mirrors t) (row : V) :
    ({ c with
      slots := c.slots.insert (Keyed.key row).toList (some row)
      state := if c.state = .unloaded then .partially else c.state } : Cache V).Mirrors
      (t.insert (Keyed.key row) row) where
  ordered := Trie.ordered_insert hc.ordered _ _
  known path slot hslot := by
    rw [Trie.get?_insert hc.ordered] at hslot
    simp only [Table.get?_insert, ofList_eq_iff]
    split_ifs at hslot ⊢
    · exact (Option.some.inj hslot).symm
    · exact hc.known path slot hslot
  full hfull path := by
    have hstate : c.state = .full := by
      split_ifs at hfull
      exact hfull
    simp only [Trie.get?_insert hc.ordered, Table.get?_insert, ofList_eq_iff]
    split_ifs
    · rfl
    · exact hc.full hstate path

theorem erase (hc : c.Mirrors t) (hfull : c.state = .full) (key : String) :
    ({ c with slots := c.slots.erase key.toList } : Cache V).Mirrors (t.erase key) where
  ordered := Trie.ordered_erase hc.ordered _
  known path slot hslot := by
    rw [Trie.get?_erase hc.ordered] at hslot
    simp only [Table.get?_erase, ofList_eq_iff]
    split_ifs at hslot ⊢
    exact hc.known path slot hslot
  full _ path := by
    simp only [Trie.get?_erase hc.ordered, Table.get?_erase, ofList_eq_iff]
    split_ifs
    · rfl
    · exact hc.full hfull path

theorem forget (hc : c.Mirrors t) (key : String) :
    ({ c with slots := c.slots.insert key.toList none, state := .partially } : Cache V).Mirrors
      (t.erase key) where
  ordered := Trie.ordered_insert hc.ordered _ _
  known path slot hslot := by
    rw [Trie.get?_insert hc.ordered] at hslot
    simp only [Table.get?_erase, ofList_eq_iff]
    split_ifs at hslot ⊢
    · exact (Option.some.inj hslot).symm
    · exact hc.known path slot hslot
  full hfull := by simp at hfull

/-! ### What reads leave -/

theorem remember (hc : c.Mirrors t) (key : String) :
    (c.remember key (t.get? key)).Mirrors t := by
  unfold Cache.remember
  split_ifs with hknown
  · exact hc
  · refine ⟨Trie.ordered_insert hc.ordered _ _, ?_, fun hfull ↦ by simp at hfull⟩
    intro key' slot hslot
    rw [Trie.get?_insert hc.ordered] at hslot
    split_ifs at hslot with hkey
    · rw [hkey, String.ofList_toList, Option.some.inj hslot]
    · exact hc.known key' slot hslot

end Mirrors

theorem state_remember {c : Cache V} (hstate : c.state ≠ .full) (key : String) (row : Option V) :
    (c.remember key row).state ≠ .full := by
  unfold remember
  split_ifs
  · exact hstate
  · simp

/-- A read fills the slot of its key if nothing was known of it, and no other slot. -/
theorem get?_remember {c : Cache V} (hc : c.slots.Ordered) (hstate : c.state ≠ .full)
    (key : String) (row : Option V) (path : List Char) :
    (c.remember key row).slots.get? path =
      (c.slots.get? path).or (if path = key.toList then some row else none) := by
  unfold remember
  split_ifs with hknown hpath hpath
  · obtain ⟨slot, hslot⟩ := Option.isSome_iff_exists.mp (hknown.resolve_left hstate)
    rw [hpath, hslot, Option.some_or]
  · rw [Option.or_none]
  · have hnone : c.slots.get? path = none := by
      rw [hpath]
      simpa using (not_or.mp hknown).2
    rw [Trie.get?_insert hc, if_pos hpath, hnone, Option.none_or]
  · rw [Trie.get?_insert hc, if_neg hpath, Option.or_none]

theorem lookup_remember {c : Cache V} {t : Table String V} (hc : c.Mirrors t) {key : String}
    (hunknown : c.lookup key = none) :
    (c.remember key (t.get? key)).lookup key = some (t.get? key) := by
  obtain ⟨hstate, hslot⟩ := lookup_eq_none_iff.mp hunknown
  rw [lookup, get?_remember hc.ordered hstate, hslot, if_pos rfl, Option.none_or]

/-- Rows that were read are remembered one after the other, in the slots of their keys alone. -/
theorem mirrors_foldl_remember {c : Cache V} {t : Table String V} (hc : c.Mirrors t)
    (hstate : c.state ≠ .full) (keys : List String) :
    let c' := (keys.map fun key ↦ (key, t.get? key)).foldl (fun c r ↦ c.remember r.1 r.2) c
    c'.Mirrors t ∧ c'.state ≠ .full ∧
      ∀ path, c'.slots.get? path = (c.slots.get? path).or
        (if path ∈ keys.map String.toList then some (t.get? (String.ofList path)) else none) := by
  induction keys generalizing c with
  | nil => exact ⟨hc, hstate, fun path ↦ by simp⟩
  | cons key keys ih =>
    obtain ⟨hmirrors, hpartial, hslots⟩ :=
      ih (hc.remember key) (state_remember hstate key (t.get? key))
    refine ⟨hmirrors, hpartial, fun path ↦ ?_⟩
    rw [List.map_cons, List.foldl_cons, hslots path, get?_remember hc.ordered hstate,
      Option.or_assoc]
    congr 1
    by_cases hpath : path = key.toList
    · simp [hpath]
    · simp [hpath]

/-! ### The slots of a full read -/

section Slots

variable [Keyed V]

theorem ordered_foldl_insert (rows : List V) {slots : Trie (Option V)} (hslots : slots.Ordered) :
    (rows.foldl (fun slots row ↦ slots.insert (Keyed.key row).toList (some row))
      slots).Ordered := by
  induction rows generalizing slots with
  | nil => exact hslots
  | cons row rows ih => exact ih (Trie.ordered_insert hslots _ _)

theorem get?_foldl_insert (rows : List V) {slots : Trie (Option V)} (hslots : slots.Ordered)
    (path : List Char) :
    (rows.foldl (fun slots row ↦ slots.insert (Keyed.key row).toList (some row))
      slots).get? path =
      ((rows.reverse.find? fun row ↦ (Keyed.key row).toList = path).map some).or
        (slots.get? path) := by
  induction rows generalizing slots with
  | nil => simp
  | cons row rows ih =>
    rw [List.foldl_cons, ih (Trie.ordered_insert hslots _ _), Trie.get?_insert hslots,
      List.reverse_cons, List.find?_append, Option.map_or, Option.or_assoc]
    congr 1
    by_cases hkey : (Keyed.key row).toList = path
    · simp [hkey]
    · simp [hkey, Ne.symm hkey]

/-- After a full read every row stands in the slot of its key, and no other slot is there. -/
theorem get?_slotsOf {rows : List V} {t : Table String V} (hkeyed : t.IsKeyed)
    (hrows : rows.Perm t.values) (path : List Char) :
    (slotsOf rows).get? path = (t.get? (String.ofList path)).map some := by
  rw [slotsOf, get?_foldl_insert rows Trie.ordered_empty, Trie.get?_empty, Option.or_none]
  congr 1
  have hmem : ∀ row, row ∈ rows.reverse ↔ ∃ key, t.get? key = some row := fun row ↦ by
    rw [List.mem_reverse, hrows.mem_iff, Table.mem_values_iff]
  cases hfind : rows.reverse.find? fun row ↦ (Keyed.key row).toList = path with
  | none =>
    rw [eq_comm, Option.eq_none_iff_forall_ne_some]
    intro row hget
    have hnot := List.find?_eq_none.mp hfind row ((hmem row).mpr ⟨_, hget⟩)
    rw [hkeyed _ _ hget, String.toList_ofList] at hnot
    simp at hnot
  | some row =>
    obtain ⟨key, hget⟩ := (hmem row).mp (List.mem_of_find?_eq_some hfind)
    have hpath : (Keyed.key row).toList = path := by simpa using List.find?_some hfind
    rw [← hpath, hkeyed key row hget, String.ofList_toList, hget]

theorem mirrors_slotsOf {rows : List V} {t : Table String V} (hkeyed : t.IsKeyed)
    (hrows : rows.Perm t.values) (c : Cache V) :
    ({ c with slots := slotsOf rows, state := .full } : Cache V).Mirrors t where
  ordered := ordered_foldl_insert rows Trie.ordered_empty
  known path slot hslot := by
    rw [get?_slotsOf hkeyed hrows, Option.map_eq_some_iff] at hslot
    obtain ⟨row, hrow, rfl⟩ := hslot
    exact hrow.symm
  full _ := get?_slotsOf hkeyed hrows

end Slots

/-! ### Operations -/

/-- An operation agrees with an answer and a change of the rows from `t` to `t'` if it gives the
answer and leaves a cache and a store of `t'`, or fails and leaves a cache and a store of `t`. A
full cache stays full. -/
inductive Agrees {α : Type} (holds : σ → Table String V → Prop) (c : Cache V)
    (t : Table String V) (x : α) (t' : Table String V) : Except CacheError α × Cache V × σ → Prop
  | ok {c' : Cache V} {s' : σ} (hmirrors : c'.Mirrors t') (hholds : holds s' t')
    (hfull : c.state = .full → c'.state = .full) : Agrees holds c t x t' (.ok x, c', s')
  | error {e : CacheError} {c' : Cache V} {s' : σ} (hmirrors : c'.Mirrors t) (hholds : holds s' t)
    (hfull : c.state = .full → c'.state = .full) : Agrees holds c t x t' (.error e, c', s')

section Operations

variable [Keyed V] {st : RowStore σ V} {holds : σ → Table String V → Prop} {c : Cache V} {s : σ}
  {t : Table String V}

theorem loadOne_spec (hst : st.Lawful holds) (hs : holds s t) (c : Cache V) (key : String) :
    match c.loadOne st key s with
    | (.ok row, s') => row = t.get? key ∧ holds s' t
    | (.error _, s') => holds s' t := by
  have hcall := hst.loadOne key hs
  unfold loadOne
  rcases hload : st.loadOne key s with ⟨_ | row, s'⟩
  · simpa [hload] using hcall
  · simpa [hload] using hcall

theorem loadEach_spec (hst : st.Lawful holds) (hs : holds s t) (c : Cache V)
    (keys : List String) :
    match c.loadEach st keys s with
    | (.ok rows, s') => rows = keys.map (fun key ↦ (key, t.get? key)) ∧ holds s' t
    | (.error _, s') => holds s' t := by
  induction keys generalizing s with
  | nil => exact ⟨rfl, hs⟩
  | cons key keys ih =>
    have hload := loadOne_spec hst hs c key
    rcases hfirst : c.loadOne st key s with ⟨_ | row, s₁⟩
    · simpa [loadEach, hfirst] using hload
    · rw [hfirst] at hload
      obtain ⟨rfl, hs₁⟩ := hload
      have hlater := ih hs₁
      rcases heach : c.loadEach st keys s₁ with ⟨_ | rows, s₂⟩
      · simpa [loadEach, hfirst, heach] using hlater
      · simpa [loadEach, hfirst, heach] using hlater

theorem agrees_get (hst : st.Lawful holds) (hc : c.Mirrors t) (hs : holds s t) (key : String) :
    Agrees holds c t (t.get? key) t (c.get st key s) := by
  unfold get
  cases hlookup : c.lookup key with
  | some known =>
    rw [← hc.lookup_eq hlookup]
    exact .ok hc hs id
  | none =>
    have hload := loadOne_spec hst hs c key
    have hnotfull : c.state ≠ .full := fun hfull ↦ by
      have hsome := Mirrors.lookup_isSome_of_full hfull key
      simp [hlookup] at hsome
    rcases hcall : c.loadOne st key s with ⟨e | row, s'⟩
    · rw [hcall] at hload
      exact .error hc hload id
    · rw [hcall] at hload
      obtain ⟨rfl, hs'⟩ := hload
      simp only [lookup_remember hc hlookup, Option.join_some]
      exact .ok (hc.remember key) hs' fun hfull ↦ absurd hfull hnotfull

/-- In every state but the full one a lookup may fail; if it does not, it finds the governing
row, unless the query begins with a space. -/
theorem agrees_resolve (hst : st.Lawful holds) (hc : c.Mirrors t) (hs : holds s t)
    (query : String) :
    ∃ x, Agrees holds c t x t (c.resolve st query s) ∧
      (query.toList.head? ≠ some ' ' ∨ c.state = .full → x = t.governing? query) := by
  by_cases hfull : c.state = .full
  · refine ⟨c.longestPresent query, ?_, fun _ ↦ hc.longestPresent_eq fun _ _ ↦ Or.inl hfull⟩
    rw [resolve, if_pos hfull]
    exact .ok hc hs id
  · have hloads := loadEach_spec hst hs c (c.missing query)
    rw [resolve, if_neg hfull]
    rcases hcall : c.loadEach st (c.missing query) s with ⟨e | rows, s'⟩
    · rw [hcall] at hloads
      exact ⟨t.governing? query, .error hc hloads id, fun _ ↦ rfl⟩
    · rw [hcall] at hloads
      obtain ⟨rfl, hs'⟩ := hloads
      obtain ⟨hmirrors, -, hslots⟩ := mirrors_foldl_remember hc hfull (c.missing query)
      refine ⟨_, .ok hmirrors hs' fun h ↦ absurd h hfull, fun hspace ↦ ?_⟩
      -- Before a leading space stands the empty beginning, which is never asked for.
      refine hmirrors.longestPresent_eq fun p hp ↦ Or.inr ?_
      rw [← List.mem_reverse, ← wordPrefixes_eq (hspace.resolve_right hfull)] at hp
      rw [hslots p, Option.isSome_or, Bool.or_eq_true]
      by_cases hknown : (c.slots.get? p).isSome
      · exact Or.inl hknown
      · have hmissing : p ∈ (c.missing query).map String.toList := by
          simp only [missing, List.mem_map, List.mem_filter]
          exact ⟨String.ofList p, ⟨p, ⟨hp, by simpa using hknown⟩, rfl⟩, String.toList_ofList⟩
        rw [if_pos hmissing]
        exact Or.inr rfl

theorem agrees_listAll (hst : st.Lawful holds) (hc : c.Mirrors t) (hkeyed : t.IsKeyed)
    (hs : holds s t) : Agrees holds c t t.values t (c.listAll st s) := by
  unfold listAll
  by_cases hfull : c.state = .full
  · rw [if_pos hfull, hc.presentRows_eq hfull]
    exact .ok hc hs id
  · rw [if_neg hfull]
    have hcall := hst.loadAll hs
    rcases hload : st.loadAll s with ⟨fault | rows, s'⟩
    · rw [hload] at hcall
      exact .error hc hcall id
    · rw [hload] at hcall
      have hmirrors := mirrors_slotsOf hkeyed hcall.1 c
      simp only [hmirrors.presentRows_eq rfl]
      exact .ok hmirrors hcall.2 fun _ ↦ rfl

/-- A cache that could list every row is full. -/
theorem state_of_listAll {rows : List V} (hlist : (c.listAll st s).1 = .ok rows) :
    (c.listAll st s).2.1.state = .full := by
  unfold listAll at hlist ⊢
  split_ifs at hlist ⊢ with hfull
  · exact hfull
  · rcases hload : st.loadAll s with ⟨fault | rows', s'⟩
    · simp [hload] at hlist
    · rfl

theorem agrees_upsert (hst : st.Lawful holds) (hc : c.Mirrors t) (hs : holds s t) (row : V) :
    Agrees holds c t () (t.insert (Keyed.key row) row) (c.upsert st row s) := by
  have hcall := hst.upsert row hs
  unfold upsert
  rcases hwrite : st.upsert row s with ⟨fault | accepted, s'⟩
  · rw [hwrite] at hcall
    exact .error hc hcall id
  · cases accepted with
    | false =>
      rw [hwrite] at hcall
      exact .error hc hcall id
    | true =>
      rw [hwrite] at hcall
      refine .ok (hc.upsert row) hcall fun hfull ↦ ?_
      simp [hfull]

theorem agrees_upsertIf (hst : st.Lawful holds) (hc : c.Mirrors t) (hs : holds s t)
    (taken : Bool) (row : V) :
    Agrees holds c t (t.contains (Keyed.key row) == taken)
      (if t.contains (Keyed.key row) = taken then t.insert (Keyed.key row) row else t)
      (c.upsertIf st taken row s) := by
  have hget := agrees_get hst hc hs (Keyed.key row)
  unfold upsertIf
  rcases hfound : c.get st (Keyed.key row) s with ⟨e | found, c₁, s₁⟩
  · rw [hfound] at hget
    cases hget with
    | error hc₁ hs₁ hfull₁ => exact .error hc₁ hs₁ hfull₁
  · rw [hfound] at hget
    cases hget with
    | ok hc₁ hs₁ hfull₁ =>
      dsimp only
      by_cases htaken : (t.get? (Keyed.key row)).isSome = taken
      · have hcontains : t.contains (Keyed.key row) = taken := htaken
        have hwrite := agrees_upsert hst hc₁ hs₁ row
        rw [if_pos htaken, if_pos hcontains, beq_iff_eq.mpr hcontains]
        rcases hcall : c₁.upsert st row s₁ with ⟨e | ⟨⟩, c₂, s₂⟩
        · rw [hcall] at hwrite
          cases hwrite with
          | error hc₂ hs₂ hfull₂ => exact .error hc₂ hs₂ (hfull₂ ∘ hfull₁)
        · rw [hcall] at hwrite
          cases hwrite with
          | ok hc₂ hs₂ hfull₂ => exact .ok hc₂ hs₂ (hfull₂ ∘ hfull₁)
      · have hcontains : t.contains (Keyed.key row) ≠ taken := htaken
        rw [if_neg htaken, if_neg hcontains, beq_eq_false_iff_ne.mpr hcontains]
        exact .ok hc₁ hs₁ hfull₁

theorem agrees_insertNew (hst : st.Lawful holds) (hc : c.Mirrors t) (hs : holds s t) (row : V) :
    Agrees holds c t (!t.contains (Keyed.key row))
      (if t.contains (Keyed.key row) then t else t.insert (Keyed.key row) row)
      (c.insertNew st row s) := by
  have hagrees := agrees_upsertIf hst hc hs false row
  rw [insertNew]
  cases htaken : t.contains (Keyed.key row) with
  | false => simpa [htaken] using hagrees
  | true => simpa [htaken] using hagrees

theorem agrees_replace (hst : st.Lawful holds) (hc : c.Mirrors t) (hs : holds s t) (row : V) :
    Agrees holds c t (t.contains (Keyed.key row))
      (if t.contains (Keyed.key row) then t.insert (Keyed.key row) row else t)
      (c.replace st row s) := by
  have hagrees := agrees_upsertIf hst hc hs true row
  rw [replace]
  cases htaken : t.contains (Keyed.key row) with
  | false => simpa [htaken] using hagrees
  | true => simpa [htaken] using hagrees

theorem agrees_remove (hst : st.Lawful holds) (hc : c.Mirrors t) (hs : holds s t)
    (key : String) :
    Agrees holds c t (t.contains key) (t.erase key) (c.remove st key s) := by
  have hcall := hst.delete key hs
  unfold remove
  rcases hdelete : st.delete key s with ⟨fault | existed, s'⟩
  · rw [hdelete] at hcall
    exact .error hc hcall id
  · rw [hdelete] at hcall
    obtain ⟨rfl, hs'⟩ := hcall
    by_cases hfull : c.state = .full
    · simp only [hfull, if_true]
      exact .ok (hfull ▸ hc.erase hfull key) hs' fun _ ↦ rfl
    · simp only [hfull, if_false]
      exact .ok (hc.forget key) hs' fun h ↦ absurd h hfull

end Operations

end Cache

end Guildhall
