import Guildhall.Proofs.Table
import Guildhall.Proofs.Trie
import Mathlib.Data.List.MinMax

/-!
The row that governs an action. A key governs an action that it is, or that goes on from it with a
space; of the keys of a table that govern an action the longest decides (`Table.governing?`,
`Table.governing?_eq_some_iff`, `Table.governing?_eq_none_iff`). That row is found by asking for
the word-bounded beginnings of the action in turn, the longest first
(`Table.governing?_eq_findSome?`).
-/

set_option autoImplicit false

namespace Guildhall

/-! ### Keys that govern an action -/

/-- A key governs the action that it is and every action that goes on from it with a space. -/
def Governs (key action : String) : Prop :=
  key = action ∨ key.toList ++ [' '] <+: action.toList

instance : DecidableRel Governs := fun key action ↦
  inferInstanceAs (Decidable (key = action ∨ key.toList ++ [' '] <+: action.toList))

theorem Governs.isPrefix_toList {key action : String} (hgoverns : Governs key action) :
    key.toList <+: action.toList := by
  rcases hgoverns with rfl | hspace
  · exact List.prefix_rfl
  · exact (List.prefix_append _ _).trans hspace

/-- Keys of one length that govern one action are the same. -/
theorem Governs.eq_of_length_eq {key key' action : String} (hgoverns : Governs key action)
    (hgoverns' : Governs key' action) (hlength : key.length = key'.length) : key = key' := by
  rw [← String.length_toList, ← String.length_toList] at hlength
  have hbegins := List.prefix_of_prefix_length_le hgoverns.isPrefix_toList
    hgoverns'.isPrefix_toList hlength.le
  exact String.toList_injective (hbegins.eq_of_length hlength)

/-! ### Word-bounded beginnings -/

theorem mem_beforeSpaces_iff {p s : List Char} : p ∈ beforeSpaces s ↔ p ++ [' '] <+: s := by
  induction s generalizing p with
  | nil => simp [beforeSpaces]
  | cons c s ih =>
    rw [beforeSpaces, List.mem_append, List.mem_map]
    cases p with
    | nil =>
      by_cases hspace : c = ' '
      · simp [hspace]
      · simp [hspace, Ne.symm hspace]
    | cons d p =>
      rw [List.cons_append, List.cons_prefix_cons]
      by_cases hspace : c = ' '
      · simp [hspace, ih, and_comm, eq_comm]
      · simp [hspace, ih, and_comm, eq_comm]

theorem mem_wordStarts_iff {p s : List Char} :
    p ∈ wordStarts s ↔ p = s ∨ p ++ [' '] <+: s := by
  rw [wordStarts, List.mem_append, mem_beforeSpaces_iff, List.mem_singleton, or_comm]

theorem governs_iff_mem_wordStarts {key action : String} :
    Governs key action ↔ key.toList ∈ wordStarts action.toList := by
  rw [mem_wordStarts_iff, Governs, String.toList_inj]

theorem wordStarts_ascending (s : List Char) : (wordStarts s).Pairwise (·.length < ·.length) := by
  induction s with
  | nil => simp [wordStarts, beforeSpaces]
  | cons c s ih =>
    rw [wordStarts_cons, List.pairwise_append]
    refine ⟨?_, ?_, ?_⟩
    · split_ifs <;> simp
    · rw [List.pairwise_map]
      exact ih.imp fun hlt ↦ by simpa using hlt
    · intro p hp p' hp'
      obtain ⟨q, -, rfl⟩ := List.mem_map.mp hp'
      have hnil : p = [] := by
        split_ifs at hp
        · simpa using hp
        · simp at hp
      simp [hnil]

/-- The candidates of a query that does not begin with a space are its word-bounded beginnings. -/
theorem wordPrefixes_eq {query : List Char} (hspace : query.head? ≠ some ' ') :
    wordPrefixes query = (wordStarts query).reverse := by
  have hfull : (beforeSpaces query).filter (!·.isEmpty) = beforeSpaces query := by
    refine List.filter_eq_self.mpr fun p hp ↦ ?_
    have hprefix := mem_beforeSpaces_iff.mp hp
    cases p with
    | nil =>
      obtain ⟨rest, rfl⟩ := hprefix
      exact absurd rfl hspace
    | cons c p => rfl
  rw [wordPrefixes, hfull, wordStarts, List.reverse_append, List.reverse_singleton]
  rfl

/-! ### The governing row -/

namespace Table

variable {V : Type}

/-- The row at the longest key that governs an action. -/
def governing? (t : Table String V) (action : String) : Option V :=
  ((t.entries.filter fun e ↦ Governs e.1 action).argmax fun e ↦ e.1.length).map (·.2)

theorem governing?_eq_some_iff {t : Table String V} {action : String} {row : V} :
    t.governing? action = some row ↔ ∃ key, t.get? key = some row ∧ Governs key action ∧
      ∀ key' row', t.get? key' = some row' → Governs key' action → key'.length ≤ key.length := by
  rw [governing?, Option.map_eq_some_iff]
  constructor
  · rintro ⟨⟨key, row'⟩, hmax, rfl⟩
    have hmem := List.mem_filter.mp (List.argmax_mem hmax)
    refine ⟨key, mem_entries_iff.mp hmem.1, of_decide_eq_true hmem.2, ?_⟩
    intro key' other hget hgoverns
    have hother : (key', other) ∈ t.entries.filter fun e ↦ Governs e.1 action :=
      List.mem_filter.mpr ⟨mem_entries_iff.mpr hget, decide_eq_true hgoverns⟩
    exact List.le_of_mem_argmax (f := fun e : String × V ↦ e.1.length) hother hmax
  · rintro ⟨key, hget, hgoverns, hlongest⟩
    have hmem : (key, row) ∈ t.entries.filter fun e ↦ Governs e.1 action :=
      List.mem_filter.mpr ⟨mem_entries_iff.mpr hget, decide_eq_true hgoverns⟩
    cases hmax : (t.entries.filter fun e ↦ Governs e.1 action).argmax fun e ↦ e.1.length with
    | none =>
      rw [List.argmax_eq_none] at hmax
      rw [hmax] at hmem
      exact absurd hmem List.not_mem_nil
    | some e =>
      have he := List.mem_filter.mp (List.argmax_mem hmax)
      have hget' := mem_entries_iff.mp he.1
      have hgoverns' : Governs e.1 action := of_decide_eq_true he.2
      have hlonger := List.le_of_mem_argmax (f := fun e : String × V ↦ e.1.length) hmem hmax
      have hkey := hgoverns'.eq_of_length_eq hgoverns
        (le_antisymm (hlongest e.1 e.2 hget' hgoverns') hlonger)
      rw [hkey, hget, Option.some.injEq] at hget'
      exact ⟨e, rfl, hget'.symm⟩

theorem governing?_eq_none_iff {t : Table String V} {action : String} :
    t.governing? action = none ↔ ∀ key, Governs key action → t.get? key = none := by
  rw [governing?, Option.map_eq_none_iff, List.argmax_eq_none, List.filter_eq_nil_iff]
  constructor
  · intro hnone key hgoverns
    rw [Option.eq_none_iff_forall_ne_some]
    intro row hget
    exact hnone (key, row) (mem_entries_iff.mpr hget) (decide_eq_true hgoverns)
  · intro hnone e he hgoverns
    have hget := mem_entries_iff.mp he
    rw [hnone e.1 (of_decide_eq_true hgoverns)] at hget
    exact absurd hget (by simp)

/-- The governing row is found at the first word-bounded beginning, from the longest on, that has
a row. -/
theorem governing?_eq_findSome? (t : Table String V) (action : String) :
    t.governing? action =
      (wordStarts action.toList).reverse.findSome? fun p ↦ t.get? (String.ofList p) := by
  cases hfind : (wordStarts action.toList).reverse.findSome? fun p ↦ t.get? (String.ofList p) with
  | none =>
    rw [governing?_eq_none_iff]
    intro key hgoverns
    have hmem := List.mem_reverse.mpr (governs_iff_mem_wordStarts.mp hgoverns)
    simpa using List.findSome?_eq_none_iff.mp hfind key.toList hmem
  | some row =>
    obtain ⟨before, p, after, hsplit, hget, hbefore⟩ := List.findSome?_eq_some_iff.mp hfind
    -- What stands before the row found has no row, and what stands after it is shorter.
    have hdescending : (wordStarts action.toList).reverse.Pairwise (·.length > ·.length) :=
      List.pairwise_reverse.mpr (wordStarts_ascending action.toList)
    rw [hsplit, List.pairwise_append] at hdescending
    have hmem : ∀ q, q ∈ wordStarts action.toList ↔ q ∈ before ++ p :: after := by
      intro q
      rw [← hsplit, List.mem_reverse]
    rw [governing?_eq_some_iff]
    refine ⟨String.ofList p, hget, ?_, ?_⟩
    · rw [governs_iff_mem_wordStarts, String.toList_ofList, hmem]
      simp
    · intro key' row' hget' hgoverns'
      have hmem' := (hmem _).mp (governs_iff_mem_wordStarts.mp hgoverns')
      rw [← String.length_toList, String.length_ofList]
      rcases List.mem_append.mp hmem' with hlonger | hlater
      · have hnone := hbefore _ hlonger
        rw [String.ofList_toList, hget'] at hnone
        exact absurd hnone (by simp)
      · rcases List.mem_cons.mp hlater with hsame | hshorter
        · rw [hsame]
        · have hlt := List.rel_of_pairwise_cons hdescending.2.1 hshorter
          exact hlt.le

end Table

end Guildhall
