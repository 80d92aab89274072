import Guildhall.Proofs.Governing

/-!
Tries between calls of any kind. A call of a trie stands beside the same operation on a finite map
(`TrieCall.onTable`). A trie that lists a map (`Trie.Lists`) looks up what the map looks up, has as
many keys and lists the same pairs in the same order; every call answers what the operation on the
map answers and leaves a trie that lists what the operation leaves (`TrieCall.lists_run`). So after
any calls a trie is the sorted map of those calls (`TrieCall.sorted_map_runAll`), and its matches of
a query are the pairs whose keys govern the query, the longest first
(`TrieCall.matches_longest_first`).
-/

set_option autoImplicit false

namespace Guildhall

variable {V : Type}

/-! ### Tries that list a map -/

namespace Trie

/-- A trie that holds the pairs of a map and counts them. -/
structure Lists (t : Trie V) (m : Table String V) : Prop where
  ordered : t.Ordered
  lookup : ∀ key : String, t.get? key.toList = m.get? key
  size : t.size = m.size

/-- The key and the value of an entry. -/
def pair (e : List Char × V) : String × V := (String.ofList e.1, e.2)

theorem mem_map_pair_iff {l : List (List Char × V)} {key : String} {v : V} :
    (key, v) ∈ l.map pair ↔ (key.toList, v) ∈ l := by
  rw [List.mem_map]
  constructor
  · rintro ⟨e, he, heq⟩
    obtain ⟨rfl, rfl⟩ := Prod.mk.inj heq
    rwa [String.toList_ofList]
  · exact fun he ↦ ⟨(key.toList, v), he, by rw [pair, String.ofList_toList]⟩

theorem lists_empty : (∅ : Trie V).Lists ∅ where
  ordered := ordered_empty
  lookup key := get?_empty key.toList
  size := rfl

theorem size_insert (t : Trie V) (key : List Char) (v : V) :
    (t.insert key v).size = if (t.get? key).isSome then t.size else t.size + 1 := by
  cases key with
  | nil => rfl
  | cons c s => rfl

theorem size_erase (t : Trie V) (key : List Char) :
    (t.erase key).size = if (t.get? key).isSome then t.size - 1 else t.size := by
  unfold erase
  cases hget : t.get? key with
  | none => simp
  | some v => cases key <;> simp

/-- A removal changes the value of no other key, prefix or extension. -/
theorem get?_remove {t : Trie V} (ht : t.Ordered) (key key' : List Char) :
    (t.remove key).2.get? key' = if key' = key then none else t.get? key' := by
  rw [remove, take_eq]
  exact get?_erase ht key key'

/-- The matches of a query are the pairs whose keys are its word-bounded beginnings. -/
theorem mem_prefixMatches_iff {t : Trie V} {query key : List Char} {v : V} :
    (key, v) ∈ t.prefixMatches query ↔ t.get? key = some v ∧ key ∈ wordStarts query := by
  rw [prefixMatches_eq, List.mem_reverse, List.mem_filterMap]
  constructor
  · rintro ⟨p, hp, heq⟩
    obtain ⟨v', hget, heq⟩ := Option.map_eq_some_iff.mp heq
    obtain ⟨rfl, rfl⟩ := Prod.mk.inj heq
    exact ⟨hget, hp⟩
  · rintro ⟨hget, hkey⟩
    exact ⟨key, hkey, by rw [hget, Option.map_some]⟩

theorem prefixMatches_descending (t : Trie V) (query : List Char) :
    (t.prefixMatches query).Pairwise fun e e' ↦ e'.1.length < e.1.length := by
  rw [prefixMatches_eq, List.pairwise_reverse, List.pairwise_filterMap]
  refine (wordStarts_ascending query).imp fun {p p'} hlt e he e' he' ↦ ?_
  obtain ⟨v, -, rfl⟩ := Option.map_eq_some_iff.mp he
  obtain ⟨v', -, rfl⟩ := Option.map_eq_some_iff.mp he'
  exact hlt

namespace Lists

variable {t : Trie V} {m : Table String V}

theorem insert (ht : t.Lists m) (key : String) (v : V) :
    (t.insert key.toList v).Lists (m.insert key v) where
  ordered := ordered_insert ht.ordered key.toList v
  lookup key' := by
    simp only [get?_insert ht.ordered, Table.get?_insert, String.toList_inj, ht.lookup key']
  size := by rw [size_insert, Table.size_insert, ht.lookup key, ht.size]

theorem erase (ht : t.Lists m) (key : String) : (t.erase key.toList).Lists (m.erase key) where
  ordered := ordered_erase ht.ordered key.toList
  lookup key' := by
    simp only [get?_erase ht.ordered, Table.get?_erase, String.toList_inj, ht.lookup key']
  size := by rw [size_erase, Table.size_erase, ht.lookup key, ht.size]

theorem mem_entries_iff (ht : t.Lists m) {key : String} {v : V} :
    (key.toList, v) ∈ t.entries ↔ (key, v) ∈ m.entries := by
  rw [Trie.mem_entries_iff ht.ordered, ht.lookup, Table.mem_entries_iff]

/-- The entries are the pairs of the map, in their order. -/
theorem map_pair_entries (ht : t.Lists m) : t.entries.map pair = m.entries := by
  have hascending : (t.entries.map pair).Pairwise (·.1 < ·.1) := by
    rw [List.pairwise_map]
    refine (entries_ascending ht.ordered).imp fun {e e'} hlt ↦ ?_
    have hkeys : (String.ofList e.1).toList < (String.ofList e'.1).toList := by simpa using hlt
    exact hkeys
  refine Table.eq_entries hascending fun ⟨key, v⟩ ↦ ?_
  rw [mem_map_pair_iff, ht.mem_entries_iff]

theorem values_eq (ht : t.Lists m) : t.values = m.values := by
  rw [Table.values, ← ht.map_pair_entries, List.map_map]
  rfl

/-- The matches of a query are the pairs of the map whose keys govern it. -/
theorem mem_map_pair_prefixMatches_iff (ht : t.Lists m) {query key : String} {v : V} :
    (key, v) ∈ (t.prefixMatches query.toList).map pair ↔
      m.get? key = some v ∧ Governs key query := by
  rw [mem_map_pair_iff, mem_prefixMatches_iff, ht.lookup, governs_iff_mem_wordStarts]

/-- The value of the first match is the governing row of the map. -/
theorem prefixMatch?_eq (ht : t.Lists m) (query : String) :
    t.prefixMatch? query.toList = m.governing? query := by
  rw [prefixMatch?, prefixMatches_eq, ← List.filterMap_reverse, List.head?_filterMap,
    List.map_findSome?, Table.governing?_eq_findSome?]
  congr 1
  funext p
  rw [← ht.lookup, String.toList_ofList]
  cases hget : t.get? p <;> simp [hget]

end Lists

end Trie

/-! ### Calls -/

/-- A call that changes a trie. -/
inductive TrieCall (V : Type) where
  | insert (key : String) (value : V)
  | remove (key : String)
  | take (key : String)
  | clear
  deriving Repr, DecidableEq

/-- What a call answers. -/
inductive TrieAnswer (V : Type) where
  | value (found : Option V)
  | flag (answer : Bool)
  | done
  deriving Repr, DecidableEq

namespace TrieCall

/-- Makes a call of a trie. -/
def run (call : TrieCall V) (t : Trie V) : TrieAnswer V × Trie V :=
  match call with
  | insert key v => let r := t.put key.toList v; (.value r.1, r.2)
  | remove key => let r := t.remove key.toList; (.flag r.1, r.2)
  | take key => let r := t.take key.toList; (.value r.1, r.2)
  | clear => (.done, ∅)

/-- The same operation on a finite map. -/
def onTable (call : TrieCall V) (m : Table String V) : TrieAnswer V × Table String V :=
  match call with
  | insert key v => (.value (m.get? key), m.insert key v)
  | remove key => (.flag (m.contains key), m.erase key)
  | take key => (.value (m.get? key), m.erase key)
  | clear => (.done, ∅)

/-- Makes calls in turn, each as `make` says; gives the answers and what the last call leaves. -/
def runAll {σ : Type} (make : TrieCall V → σ → TrieAnswer V × σ) :
    List (TrieCall V) → σ → List (TrieAnswer V) × σ
  | [], s => ([], s)
  | call :: calls, s =>
    let (answer, s) := make call s
    let (answers, s) := runAll make calls s
    (answer :: answers, s)

/-- A call answers what the operation on the map answers, and leaves what that one leaves. -/
theorem lists_run (call : TrieCall V) {t : Trie V} {m : Table String V} (ht : t.Lists m) :
    (call.run t).1 = (call.onTable m).1 ∧ (call.run t).2.Lists (call.onTable m).2 := by
  cases call with
  | insert key v =>
    simp only [run, onTable, Trie.put_eq ht.ordered, ht.lookup key, true_and]
    exact ht.insert key v
  | remove key =>
    simp only [run, onTable, Trie.remove, Trie.take_eq, ht.lookup key, Table.contains, true_and]
    exact ht.erase key
  | take key =>
    simp only [run, onTable, Trie.take_eq, ht.lookup key, true_and]
    exact ht.erase key
  | clear => exact ⟨rfl, Trie.lists_empty⟩

theorem lists_runAll (calls : List (TrieCall V)) {t : Trie V} {m : Table String V}
    (ht : t.Lists m) :
    (runAll run calls t).1 = (runAll onTable calls m).1 ∧
      (runAll run calls t).2.Lists (runAll onTable calls m).2 := by
  induction calls generalizing t m with
  | nil => exact ⟨rfl, ht⟩
  | cons call calls ih =>
    obtain ⟨hanswer, hlists⟩ := call.lists_run ht
    obtain ⟨hanswers, hlists⟩ := ih hlists
    exact ⟨congrArg₂ List.cons hanswer hanswers, hlists⟩

/-- Tries are sorted maps. Any calls of a new trie answer what the same operations on a finite map
answer, and leave a trie that looks up what the map looks up, counts its keys and lists its pairs
and its values, in strictly ascending order of the code points of the keys. A key that is removed is
the only one whose value changes. -/
theorem sorted_map_runAll (calls : List (TrieCall V)) :
    let t := (runAll run calls ∅).2
    let m := (runAll onTable calls ∅).2
    (runAll run calls (∅ : Trie V)).1 = (runAll onTable calls (∅ : Table String V)).1 ∧
      (∀ key : String, t.get? key.toList = m.get? key) ∧ t.size = m.keys.toFinset.card ∧
      t.entries.map Trie.pair = m.entries ∧ t.values = m.values ∧
      (t.entries.Pairwise fun e e' ↦ e.1.map Char.toNat < e'.1.map Char.toNat) ∧
      ∀ key other : String, (t.remove key.toList).2.get? other.toList =
        if other = key then none else t.get? other.toList := by
  intro t m
  obtain ⟨hanswers, hlists⟩ : _ ∧ t.Lists m := lists_runAll calls Trie.lists_empty
  refine ⟨hanswers, hlists.lookup, hlists.size.trans m.card_keys.symm, hlists.map_pair_entries,
    hlists.values_eq, ?_, ?_⟩
  · refine (Trie.entries_ascending hlists.ordered).imp fun {e e'} hlt ↦ ?_
    exact List.map_lt (fun c c' hc ↦ hc) hlt
  · intro key other
    rw [Trie.get?_remove hlists.ordered]
    simp only [String.toList_inj]

/-- The longest beginning wins. After any calls of a new trie the matches of a query are all the
pairs of the same operations on a finite map whose keys are the query or go on in it with a space,
in strictly descending order of the lengths of the keys and so with each key once; the value found
for the query is that of the first match, and it is the governing row of the map. -/
theorem matches_longest_first (calls : List (TrieCall V)) (query : String) :
    let t := (runAll run calls ∅).2
    let m := (runAll onTable calls ∅).2
    let found := (t.prefixMatches query.toList).map Trie.pair
    (∀ key v, (key, v) ∈ found ↔ m.get? key = some v ∧ Governs key query) ∧
      (found.Pairwise fun e e' ↦ e'.1.length < e.1.length) ∧ (found.map (·.1)).Nodup ∧
      t.prefixMatch? query.toList = found.head?.map (·.2) ∧
      t.prefixMatch? query.toList = m.governing? query := by
  intro t m found
  obtain ⟨-, hlists⟩ : _ ∧ t.Lists m := lists_runAll calls Trie.lists_empty
  have hdescending : found.Pairwise fun e e' ↦ e'.1.length < e.1.length := by
    refine List.pairwise_map.mpr ((t.prefixMatches_descending query.toList).imp fun hlt ↦ ?_)
    simpa [Trie.pair] using hlt
  refine ⟨fun key v ↦ hlists.mem_map_pair_prefixMatches_iff, hdescending, ?_, ?_,
    hlists.prefixMatch?_eq query⟩
  · refine List.pairwise_map.mpr (hdescending.imp fun hlt hsame ↦ ?_)
    rw [hsame] at hlt
    exact absurd hlt (Nat.lt_irrefl _)
  · rw [Trie.prefixMatch?, List.head?_map, Option.map_map]
    rfl

end TrieCall

end Guildhall
