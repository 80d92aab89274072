import Guildhall.Proofs.Cache

/-!
The candidates of a query. A trie is matched by walking along the query; a cache that does not know
every row asks for the candidates of the query instead, one after the other. Both list keys that
govern the query, the longest first, but the empty key governs every query that begins with a space
and is a candidate of none of them (`mem_wordPrefixes_iff`). There is no other difference: a lookup
of the candidates gives the matches (`Trie.prefixMatches_eq_hits_iff`), and a cache that has read
the candidates alone answers as a full one (`Cache.candidates_suffice_iff`), if no value under the
empty key is passed over.
-/

set_option autoImplicit false

namespace Guildhall

/-! ### Candidates -/

/-- The candidates are the keys that govern the query, but for the empty one. -/
theorem mem_wordPrefixes_iff {key query : String} :
    key.toList ∈ wordPrefixes query.toList ↔ Governs key query ∧ (key = "" → query = "") := by
  have hmem : key.toList ∈ wordPrefixes query.toList ↔
      key = query ∨ key.toList ++ [' '] <+: query.toList ∧ key ≠ "" := by
    simp [wordPrefixes, mem_beforeSpaces_iff, String.toList_inj]
  rw [hmem, Governs]
  constructor
  · rintro (rfl | ⟨hspace, hne⟩)
    · exact ⟨Or.inl rfl, id⟩
    · exact ⟨Or.inr hspace, fun hkey ↦ absurd hkey hne⟩
  · rintro ⟨rfl | hspace, hnil⟩
    · exact Or.inl rfl
    · by_cases hkey : key = ""
      · exact Or.inl (hkey.trans (hnil hkey).symm)
      · exact Or.inr ⟨hspace, hkey⟩

/-- The word-bounded beginnings of a query are its candidates, and before a leading space the empty
text. -/
theorem reverse_wordStarts (query : List Char) :
    (wordStarts query).reverse =
      wordPrefixes query ++ if query.head? = some ' ' then [[]] else [] := by
  by_cases hspace : query.head? = some ' '
  · obtain ⟨rest, rfl⟩ := List.head?_eq_some_iff.mp hspace
    have hfull : ((beforeSpaces rest).map (' ' :: ·)).filter (!·.isEmpty) =
        (beforeSpaces rest).map (' ' :: ·) := by simp [List.filter_map, Function.comp_def]
    simp [wordStarts, wordPrefixes, beforeSpaces, hfull]
  · rw [wordPrefixes_eq hspace, if_neg hspace, List.append_nil]

theorem wordPrefixes_descending (query : List Char) :
    (wordPrefixes query).Pairwise fun p p' ↦ p'.length < p.length := by
  have hdescending := List.pairwise_reverse.mpr (wordStarts_ascending query)
  rw [reverse_wordStarts, List.pairwise_append] at hdescending
  exact hdescending.1

theorem nil_notMem_wordPrefixes {query : List Char} (hspace : query.head? = some ' ') :
    [] ∉ wordPrefixes query := by
  have hdescending := List.pairwise_reverse.mpr (wordStarts_ascending query)
  rw [reverse_wordStarts, if_pos hspace, List.pairwise_append] at hdescending
  intro hnil
  exact Nat.lt_irrefl _ (hdescending.2.2 [] hnil [] (List.mem_singleton_self []))

/-! ### Tries -/

namespace Trie

variable {V : Type}

/-- The values that are looked up at some keys, where there is one, in the order of the keys. -/
def hits (t : Trie V) (keys : List (List Char)) : List (List Char × V) :=
  keys.filterMap fun key ↦ (t.get? key).map (key, ·)

/-- The matches are the hits of the candidates, and before a leading space that of the empty key. -/
theorem prefixMatches_eq_append (t : Trie V) (query : List Char) :
    t.prefixMatches query =
      t.hits (wordPrefixes query) ++ if query.head? = some ' ' then t.hits [[]] else [] := by
  rw [prefixMatches_eq, ← List.filterMap_reverse, reverse_wordStarts, List.filterMap_append]
  by_cases hspace : query.head? = some ' '
  · simp only [if_pos hspace, hits]
  · simp only [if_neg hspace, List.filterMap_nil, hits]

theorem prefixMatches_eq_hits_iff (t : Trie V) (query : List Char) :
    t.prefixMatches query = t.hits (wordPrefixes query) ↔
      (query.head? = some ' ' → t.get? [] = none) := by
  rw [prefixMatches_eq_append, List.append_right_eq_self]
  by_cases hspace : query.head? = some ' '
  · simp [hspace, hits]
  · simp [hspace]

end Trie

/-! ### Rows -/

namespace Table

variable {V : Type}

/-- The row at the longest candidate that has one. -/
def atCandidates? (t : Table String V) (query : String) : Option V :=
  (wordPrefixes query.toList).findSome? fun p ↦ t.get? (String.ofList p)

/-- The governing row is that of the longest candidate, or else that of the empty key. -/
theorem governing?_eq_or (t : Table String V) (query : String) :
    t.governing? query =
      (t.atCandidates? query).or
        (if query.toList.head? = some ' ' then t.get? "" else none) := by
  rw [governing?_eq_findSome?, reverse_wordStarts, List.findSome?_append, atCandidates?]
  congr 1
  by_cases hspace : query.toList.head? = some ' '
  · simp [hspace]
  · simp [hspace]

theorem governing?_eq_atCandidates?_iff (t : Table String V) (query : String) :
    t.governing? query = t.atCandidates? query ↔
      (query.toList.head? = some ' ' → t.atCandidates? query = none → t.get? "" = none) := by
  rw [governing?_eq_or]
  cases t.atCandidates? query with
  | none => by_cases hspace : query.toList.head? = some ' ' <;> simp [hspace]
  | some row => simp

end Table

/-! ### Caches -/

namespace Cache

section Candidates

variable {V : Type} {m : Table String V}

/-- A cache with the rows of the candidates in its slots, and nothing else, finds the row of the
longest. -/
theorem longestPresent_of_candidates {c : Cache V} {query : String}
    (hslots : ∀ path, c.slots.get? path =
      if path ∈ wordPrefixes query.toList then some (m.get? (String.ofList path)) else none) :
    c.longestPresent query = m.atCandidates? query := by
  have hempty : ((if query.toList.head? = some ' ' then [[]] else []).findSome? fun p ↦
      (c.slots.get? p).join) = none := by
    split_ifs with hspace
    · simp [hslots, nil_notMem_wordPrefixes hspace]
    · rfl
  rw [longestPresent_eq_findSome?, reverse_wordStarts, List.findSome?_append, hempty,
    Option.or_none, Table.atCandidates?, ← List.head?_filterMap, ← List.head?_filterMap]
  congr 1
  refine List.filterMap_congr fun p hp ↦ ?_
  rw [hslots, if_pos hp, Option.join_some]

end Candidates

section Answers

variable {σ V : Type} [Keyed V] {st : RowStore σ V} {holds : σ → Table String V → Prop} {s : σ}
  {m : Table String V}

/-- A cache that knew nothing reads the candidates and answers the row of the longest. -/
theorem answer_of_resolve_fresh (hst : st.Lawful holds) (hs : holds s m) {collection : Collection}
    {query : String} {x : Option V}
    (hcold : (({ collection } : Cache V).resolve st query s).1 = .ok x) :
    x = m.atCandidates? query := by
  have hmissing : (({ collection } : Cache V).missing query).map String.toList =
      wordPrefixes query.toList := by
    simp [missing, Function.comp_def]
  have hloads := loadEach_spec hst hs { collection } (({ collection } : Cache V).missing query)
  rw [resolve, if_neg (by simp)] at hcold
  rcases hcall : ({ collection } : Cache V).loadEach st
    (({ collection } : Cache V).missing query) s with ⟨e | rows, s'⟩
  · simp [hcall] at hcold
  · rw [hcall] at hloads hcold
    obtain ⟨rfl, -⟩ := hloads
    obtain ⟨-, -, hslots⟩ := mirrors_foldl_remember (mirrors_fresh collection m) (by simp)
      (({ collection } : Cache V).missing query)
    rw [← Except.ok.inj hcold]
    refine longestPresent_of_candidates fun path ↦ ?_
    rw [hslots path, Trie.get?_empty, Option.none_or, hmissing]

/-- A cache that has listed every row answers the governing one. -/
theorem resolve_of_listAll (hst : st.Lawful holds) (hs : holds s m) (hkeyed : m.IsKeyed)
    {c : Cache V} (hc : c.Mirrors m) {rows : List V} (hlist : (c.listAll st s).1 = .ok rows)
    (query : String) :
    ((c.listAll st s).2.1.resolve st query (c.listAll st s).2.2).1 =
      .ok (m.governing? query) := by
  have hfull := state_of_listAll hlist
  have hagrees := agrees_listAll hst hc hkeyed hs
  generalize c.listAll st s = listed at hlist hfull hagrees ⊢
  cases hagrees with
  | ok hmirrors _ _ => rw [hmirrors.resolve_eq_of_full hfull]
  | error _ _ _ => simp at hlist

end Answers

/-- The candidates suffice but for the empty key. They are the keys that govern the query, without
the empty one before a leading space, in descending order of their lengths. Their hits in a trie are
the matches of the query if and only if the query does not begin with a space or the trie has no
value under the empty key. A new cache, which reads the candidates alone, answers as one that has
listed every row, if and only if the query does not begin with a space, or it has found a row, or
there is none under the empty key. -/
theorem candidates_suffice_iff {U : Type} (t : Trie U) (query : String) :
    (∀ key : String, key.toList ∈ wordPrefixes query.toList ↔
        Governs key query ∧ (key = "" → query = "")) ∧
      ((wordPrefixes query.toList).Pairwise fun p p' ↦ p'.length < p.length) ∧
      (t.prefixMatches query.toList = t.hits (wordPrefixes query.toList) ↔
        (query.toList.head? = some ' ' → t.get? [] = none)) ∧
      ∀ {σ V : Type} [Keyed V] {st : RowStore σ V} {holds : σ → Table String V → Prop},
        st.Lawful holds → ∀ (s : σ) (m : Table String V), holds s m → m.IsKeyed →
          ∀ (collection : Collection) (x : Option V) (rows : List V),
            let new : Cache V := { collection }
            let listed := new.listAll st s
            (new.resolve st query s).1 = .ok x → listed.1 = .ok rows →
              ((listed.2.1.resolve st query listed.2.2).1 = .ok x ↔
                (query.toList.head? = some ' ' → x = none → m.get? "" = none)) := by
  refine ⟨fun key ↦ mem_wordPrefixes_iff, wordPrefixes_descending _,
    t.prefixMatches_eq_hits_iff _, ?_⟩
  intro σ V _ st holds hst s m hs hkeyed collection x rows new listed hcold hlist
  have hfull : (listed.2.1.resolve st query listed.2.2).1 = .ok (m.governing? query) :=
    resolve_of_listAll hst hs hkeyed (mirrors_fresh collection m) hlist query
  rw [hfull, answer_of_resolve_fresh hst hs hcold, Except.ok.injEq,
    Table.governing?_eq_atCandidates?_iff]

/-- A command without a name, and one that greets. -/
def namelessRows : Table String CustomCommand :=
  .ofRows [{ name := "", template := "hello", owner := 7 },
    { name := "greet", template := "hi", owner := 7 }]

/-- Behind another command's name the nameless one is no match. -/
theorem candidates_suffice_iff_greet :
    let t : Trie Nat := ((∅ : Trie Nat).insert [] 1).insert "greet".toList 2
    let listed := ({ collection := .commands } : Cache CustomCommand).listAll .memory namelessRows
    t.prefixMatches "greet all".toList = t.hits (wordPrefixes "greet all".toList) ∧
      (({ collection := .commands } : Cache CustomCommand).resolve .memory "greet all"
          namelessRows).1 = .ok (namelessRows.get? "greet") ∧
      (listed.2.1.resolve .memory "greet all" listed.2.2).1 = .ok (namelessRows.get? "greet") := by
  intro t listed
  obtain ⟨-, -, hmatches, hcaches⟩ := candidates_suffice_iff t "greet all"
  have hanswers := hcaches RowStore.lawful_memory namelessRows namelessRows rfl
    (Table.isKeyed_ofRows _) .commands (namelessRows.get? "greet") namelessRows.values (by decide)
    (by decide)
  exact ⟨hmatches.mpr (by decide), by decide, hanswers.mpr (by decide)⟩

/-- The empty key is a match of a query that begins with a space, but no candidate of it: a new
cache answers no command to it, and the nameless one once it has listed them all. -/
theorem empty_key_is_passed_over :
    let t : Trie Nat := ((∅ : Trie Nat).insert [] 1).insert "greet".toList 2
    let new : Cache CustomCommand := { collection := .commands }
    let listed := new.listAll .memory namelessRows
    t.prefixMatches " x".toList = [([], 1)] ∧ t.hits (wordPrefixes " x".toList) = [] ∧
      (new.resolve .memory " x" namelessRows).1 = .ok none ∧
      listed.1 = .ok namelessRows.values ∧
      (listed.2.1.resolve .memory " x" listed.2.2).1 =
        .ok (some { name := "", template := "hello", owner := 7 }) := by
  decide

end Cache

end Guildhall
