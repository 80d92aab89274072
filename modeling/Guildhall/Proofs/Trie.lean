import Guildhall.Action
import Guildhall.Trie
import Mathlib.Data.Char
import Mathlib.Data.List.Basic

/-!
Tries as they are looked up. The nodes below a node are in strictly ascending order, and every
change keeps them so (`Branches.ordered_insert`, `Branches.ordered_erase`). In such a trie what is
stored is found and nothing else changes (`Trie.get?_insert`, `Trie.get?_erase`), a value that is
replaced or taken out is the one that was found before (`Trie.put_eq`, `Trie.take_eq`), and the
entries are the pairs that it looks up, in ascending order (`Trie.mem_entries_iff`,
`Trie.entries_ascending`).
-/

set_option autoImplicit false

namespace Guildhall

variable {V : Type}

/-- The word-bounded beginnings of a text, shortest first. -/
def wordStarts (s : List Char) : List (List Char) := beforeSpaces s ++ [s]

theorem wordStarts_cons (c : Char) (s : List Char) :
    wordStarts (c :: s) = (if c = ' ' then [[]] else []) ++ (wordStarts s).map (c :: ·) := by
  simp [wordStarts, beforeSpaces]

namespace Branches

/-! ### One node at a time -/

@[simp] theorem get?_nil (c : Char) (s : List Char) : (nil : Branches V).get? c s = none := rfl

@[simp] theorem get?_node_nil (c : Char) (value : Option V) (below next : Branches V) :
    (node c value below next).get? c [] = value := by
  simp [get?]

@[simp] theorem get?_node_cons (c c' : Char) (s : List Char) (value : Option V)
    (below next : Branches V) :
    (node c value below next).get? c (c' :: s) = below.get? c' s := by
  simp [get?]

theorem get?_node_of_ne {c d : Char} (hne : c ≠ d) (s : List Char) (value : Option V)
    (below next : Branches V) : (node d value below next).get? c s = next.get? c s := by
  simp [get?, hne]

@[simp] theorem insert_node_nil (c : Char) (value : Option V) (below next : Branches V) (v : V) :
    (node c value below next).insert c [] v = node c (some v) below next := by
  simp [insert]

@[simp] theorem insert_node_cons (c c' : Char) (s : List Char) (value : Option V)
    (below next : Branches V) (v : V) :
    (node c value below next).insert c (c' :: s) v =
      node c value (below.insert c' s v) next := by
  simp [insert]

theorem insert_node_of_lt {c d : Char} (hlt : c < d) (s : List Char) (value : Option V)
    (below next : Branches V) (v : V) :
    (node d value below next).insert c s v = chain c s v (node d value below next) := by
  rw [insert.eq_def]
  simp [Char.ne_of_lt hlt, hlt]

theorem insert_node_of_gt {c d : Char} (hgt : d < c) (s : List Char) (value : Option V)
    (below next : Branches V) (v : V) :
    (node d value below next).insert c s v = node d value below (next.insert c s v) := by
  rw [insert.eq_def]
  simp [(Char.ne_of_lt hgt).symm, Char.lt_asymm hgt]

@[simp] theorem erase_node_nil (c : Char) (value : Option V) (below next : Branches V) :
    (node c value below next).erase c [] = prune c none below next := by
  simp [erase]

@[simp] theorem erase_node_cons (c c' : Char) (s : List Char) (value : Option V)
    (below next : Branches V) :
    (node c value below next).erase c (c' :: s) = prune c value (below.erase c' s) next := by
  simp [erase]

theorem erase_node_of_ne {c d : Char} (hne : c ≠ d) (s : List Char) (value : Option V)
    (below next : Branches V) :
    (node d value below next).erase c s = node d value below (next.erase c s) := by
  rw [erase.eq_def]
  simp [hne]

/-! ### Order -/

/-- Every node stands after the character. -/
def Above (d : Char) : Branches V → Prop
  | nil => True
  | node c _ _ next => d < c ∧ next.Above d

/-- The nodes are in strictly ascending order, at every depth. -/
def Ordered : Branches V → Prop
  | nil => True
  | node c _ below next => below.Ordered ∧ next.Ordered ∧ next.Above c

theorem above_of_lt {d c : Char} {b : Branches V} (hlt : d < c) (habove : b.Above c) :
    b.Above d := by
  induction b with
  | nil => trivial
  | node e value below next _ ihNext =>
    exact ⟨Char.lt_trans hlt habove.1, ihNext habove.2⟩

theorem get?_of_above {d : Char} {b : Branches V} (habove : b.Above d) (s : List Char) :
    b.get? d s = none := by
  induction b with
  | nil => rfl
  | node c value below next _ ihNext =>
    rw [get?_node_of_ne (Char.ne_of_lt habove.1), ihNext habove.2]

/-! ### Insertion -/

theorem above_chain {d c : Char} (s : List Char) (v : V) {next : Branches V} (hlt : d < c)
    (habove : next.Above d) : (chain c s v next).Above d := by
  cases s with
  | nil => exact ⟨hlt, habove⟩
  | cons c' s' => exact ⟨hlt, habove⟩

theorem ordered_chain (c : Char) (s : List Char) (v : V) {next : Branches V}
    (hnext : next.Ordered) (habove : next.Above c) : (chain c s v next).Ordered := by
  induction s generalizing c next with
  | nil => exact ⟨trivial, hnext, habove⟩
  | cons c' s' ih => exact ⟨ih c' trivial trivial, hnext, habove⟩

theorem above_insert {d c : Char} (s : List Char) (v : V) {b : Branches V} (hlt : d < c)
    (habove : b.Above d) : (b.insert c s v).Above d := by
  induction b with
  | nil => exact above_chain s v hlt trivial
  | node e value below next _ ihNext =>
    rcases lt_trichotomy c e with hce | rfl | hce
    · rw [insert_node_of_lt hce]
      exact above_chain s v hlt habove
    · cases s with
      | nil =>
        rw [insert_node_nil]
        exact habove
      | cons c' s' =>
        rw [insert_node_cons]
        exact habove
    · rw [insert_node_of_gt hce]
      exact ⟨habove.1, ihNext habove.2⟩

theorem ordered_insert (c : Char) (s : List Char) (v : V) {b : Branches V} (hb : b.Ordered) :
    (b.insert c s v).Ordered := by
  induction b generalizing c s with
  | nil => exact ordered_chain c s v trivial trivial
  | node e value below next ihBelow ihNext =>
    obtain ⟨hbelow, hnext, habove⟩ := hb
    rcases lt_trichotomy c e with hce | rfl | hce
    · rw [insert_node_of_lt hce]
      exact ordered_chain c s v ⟨hbelow, hnext, habove⟩ ⟨hce, above_of_lt hce habove⟩
    · cases s with
      | nil =>
        rw [insert_node_nil]
        exact ⟨hbelow, hnext, habove⟩
      | cons c' s' =>
        rw [insert_node_cons]
        exact ⟨ihBelow c' s' hbelow, hnext, habove⟩
    · rw [insert_node_of_gt hce]
      exact ⟨hbelow, ihNext c s hnext, above_insert s v hce habove⟩

theorem get?_chain (c : Char) (s : List Char) (v : V) (next : Branches V) (c' : Char)
    (s' : List Char) :
    (chain c s v next).get? c' s' =
      if c' = c then if s' = s then some v else none else next.get? c' s' := by
  induction s generalizing c next c' s' with
  | nil =>
    by_cases hc : c' = c
    · cases s' <;> simp [chain, hc]
    · simp [chain, get?_node_of_ne hc, hc]
  | cons d rest ih =>
    by_cases hc : c' = c
    · cases s' with
      | nil => simp [chain, hc]
      | cons d' rest' => by_cases hd : d' = d <;> simp [chain, hc, hd, ih]
    · simp [chain, get?_node_of_ne hc, hc]

theorem get?_insert (c : Char) (s : List Char) (v : V) {b : Branches V} (hb : b.Ordered)
    (c' : Char) (s' : List Char) :
    (b.insert c s v).get? c' s' = if c' = c ∧ s' = s then some v else b.get? c' s' := by
  induction b generalizing c s c' s' with
  | nil => by_cases hc : c' = c <;> simp [insert, get?_chain, hc]
  | node e value below next ihBelow ihNext =>
    obtain ⟨hbelow, hnext, habove⟩ := hb
    rcases lt_trichotomy c e with hce | rfl | hce
    -- The new node stands before all others, so that none of them had the key.
    · have hall : (node e value below next).Above c := ⟨hce, above_of_lt hce habove⟩
      have hnone := get?_of_above hall s'
      rw [insert_node_of_lt hce, get?_chain]
      by_cases hc : c' = c
      · subst hc
        simp [hnone]
      · simp [hc]
    · by_cases hc : c' = c
      · subst hc
        cases s <;> cases s' <;> simp [ihBelow, hbelow]
      · cases s <;> simp [get?_node_of_ne hc, hc]
    · rw [insert_node_of_gt hce]
      by_cases he : c' = e
      · subst he
        have hc : c' ≠ c := Char.ne_of_lt hce
        cases s' <;> simp [hc]
      · rw [get?_node_of_ne he, get?_node_of_ne he, ihNext c s hnext]

/-! ### Removal -/

theorem above_prune {d c : Char} (value : Option V) (below : Branches V) {next : Branches V}
    (hlt : d < c) (habove : next.Above d) : (prune c value below next).Above d := by
  unfold prune
  split
  · exact habove
  · exact ⟨hlt, habove⟩

theorem ordered_prune {c : Char} (value : Option V) {below next : Branches V}
    (hbelow : below.Ordered) (hnext : next.Ordered) (habove : next.Above c) :
    (prune c value below next).Ordered := by
  unfold prune
  split
  · exact hnext
  · exact ⟨hbelow, hnext, habove⟩

theorem get?_prune {c : Char} (value : Option V) (below : Branches V) {next : Branches V}
    (habove : next.Above c) (c' : Char) (s' : List Char) :
    (prune c value below next).get? c' s' = (node c value below next).get? c' s' := by
  unfold prune
  split
  · by_cases hc : c' = c
    · subst hc
      cases s' <;> simp [get?_of_above habove]
    · rw [get?_node_of_ne hc]
  · rfl

theorem above_erase {d : Char} (c : Char) (s : List Char) {b : Branches V} (habove : b.Above d) :
    (b.erase c s).Above d := by
  induction b with
  | nil => trivial
  | node e value below next _ ihNext =>
    by_cases hc : c = e
    · subst hc
      cases s with
      | nil =>
        rw [erase_node_nil]
        exact above_prune none below habove.1 habove.2
      | cons c' s' =>
        rw [erase_node_cons]
        exact above_prune value (below.erase c' s') habove.1 habove.2
    · rw [erase_node_of_ne hc]
      exact ⟨habove.1, ihNext habove.2⟩

theorem ordered_erase (c : Char) (s : List Char) {b : Branches V} (hb : b.Ordered) :
    (b.erase c s).Ordered := by
  induction b generalizing c s with
  | nil => trivial
  | node e value below next ihBelow ihNext =>
    obtain ⟨hbelow, hnext, habove⟩ := hb
    by_cases hc : c = e
    · subst hc
      cases s with
      | nil =>
        rw [erase_node_nil]
        exact ordered_prune none hbelow hnext habove
      | cons c' s' =>
        rw [erase_node_cons]
        exact ordered_prune value (ihBelow c' s' hbelow) hnext habove
    · rw [erase_node_of_ne hc]
      exact ⟨hbelow, ihNext c s hnext, above_erase c s habove⟩

theorem get?_erase (c : Char) (s : List Char) {b : Branches V} (hb : b.Ordered) (c' : Char)
    (s' : List Char) :
    (b.erase c s).get? c' s' = if c' = c ∧ s' = s then none else b.get? c' s' := by
  induction b generalizing c s c' s' with
  | nil => simp [erase]
  | node e value below next ihBelow ihNext =>
    obtain ⟨hbelow, hnext, habove⟩ := hb
    by_cases he : c = e
    · subst he
      by_cases hc : c' = c
      · subst hc
        cases s <;> cases s' <;> simp [get?_prune _ _ habove, ihBelow, hbelow]
      · cases s <;> simp [get?_prune _ _ habove, get?_node_of_ne hc, hc]
    · rw [erase_node_of_ne he]
      by_cases hc : c' = e
      · subst hc
        have hne : c' ≠ c := Ne.symm he
        cases s' <;> simp [hne]
      · rw [get?_node_of_ne hc, get?_node_of_ne hc, ihNext c s hnext]

/-! ### Values that are replaced and taken out -/

/-- Storing a value gives the one that is looked up before. -/
theorem put_eq (c : Char) (s : List Char) (v : V) {b : Branches V} (hb : b.Ordered) :
    b.put c s v = (b.get? c s, b.insert c s v) := by
  induction b generalizing c s with
  | nil => rfl
  | node d value below next ihBelow ihNext =>
    obtain ⟨hbelow, hnext, habove⟩ := hb
    rcases lt_trichotomy c d with hlt | rfl | hgt
    · have hall : (node d value below next).Above c := ⟨hlt, above_of_lt hlt habove⟩
      have hnone := get?_of_above hall s
      rw [hnone, insert_node_of_lt hlt, put.eq_def]
      simp [Char.ne_of_lt hlt, hlt]
    · cases s with
      | nil => simp [put]
      | cons c' s' => simp [put, ihBelow c' s' hbelow]
    · rw [get?_node_of_ne (Char.ne_of_lt hgt).symm, insert_node_of_gt hgt, put.eq_def]
      simp [(Char.ne_of_lt hgt).symm, Char.lt_asymm hgt, ihNext c s hnext]

/-- Taking a value out gives the one that is looked up, and changes nothing where there is none. -/
theorem take_eq (c : Char) (s : List Char) (b : Branches V) :
    b.take c s = (b.get? c s, if (b.get? c s).isSome then b.erase c s else b) := by
  induction b generalizing c s with
  | nil => rfl
  | node d value below next ihBelow ihNext =>
    by_cases hc : c = d
    · subst hc
      cases s with
      | nil => cases value <;> simp [take]
      | cons c' s' =>
        rw [get?_node_cons, erase_node_cons, take.eq_def]
        simp only [if_true, ihBelow c' s']
        cases below.get? c' s' <;> simp
    · rw [get?_node_of_ne hc, erase_node_of_ne hc, take.eq_def]
      simp only [hc, if_false, ihNext c s]
      cases next.get? c s <;> simp

/-! ### Entries -/

theorem head_of_mem_entries {d : Char} {b : Branches V} (habove : b.Above d)
    {e : List Char × V} (he : e ∈ b.entries) : ∃ c s, e.1 = c :: s ∧ d < c := by
  induction b with
  | nil => simp [entries] at he
  | node c value below next _ ihNext =>
    simp only [entries, List.mem_append, List.mem_map, Option.mem_toList] at he
    rcases he with (⟨v, -, rfl⟩ | ⟨e', -, rfl⟩) | he
    · exact ⟨c, [], rfl, habove.1⟩
    · exact ⟨c, e'.1, rfl, habove.1⟩
    · exact ihNext habove.2 he

theorem ne_nil_of_mem_entries {b : Branches V} {e : List Char × V} (he : e ∈ b.entries) :
    e.1 ≠ [] := by
  induction b with
  | nil => simp [entries] at he
  | node c value below next _ ihNext =>
    simp only [entries, List.mem_append, List.mem_map, Option.mem_toList] at he
    rcases he with (⟨v, -, rfl⟩ | ⟨e', -, rfl⟩) | he
    · simp
    · simp
    · exact ihNext he

theorem entries_ascending {b : Branches V} (hb : b.Ordered) :
    b.entries.Pairwise (·.1 < ·.1) := by
  induction b with
  | nil => exact List.Pairwise.nil
  | node c value below next ihBelow ihNext =>
    obtain ⟨hbelow, hnext, habove⟩ := hb
    rw [entries, List.pairwise_append, List.pairwise_append]
    refine ⟨⟨?_, ?_, ?_⟩, ihNext hnext, ?_⟩
    · cases value <;> simp
    · rw [List.pairwise_map]
      refine (ihBelow hbelow).imp fun hlt ↦ ?_
      exact List.cons_lt_cons_iff.mpr (Or.inr ⟨rfl, hlt⟩)
    · intro e he e' he'
      obtain ⟨v, -, rfl⟩ := List.mem_map.mp he
      obtain ⟨d, hd, rfl⟩ := List.mem_map.mp he'
      obtain ⟨c', s', hkey⟩ := List.exists_cons_of_ne_nil (ne_nil_of_mem_entries hd)
      rw [hkey]
      exact List.cons_lt_cons_iff.mpr (Or.inr ⟨rfl, List.nil_lt_cons c' s'⟩)
    · intro e he e' he'
      obtain ⟨c', s', hkey, hlt⟩ := head_of_mem_entries habove he'
      rw [hkey]
      rw [List.mem_append, List.mem_map, List.mem_map] at he
      rcases he with ⟨v, -, rfl⟩ | ⟨d, -, rfl⟩
      · exact List.cons_lt_cons_iff.mpr (Or.inl hlt)
      · exact List.cons_lt_cons_iff.mpr (Or.inl hlt)

theorem mem_entries_iff {b : Branches V} (hb : b.Ordered) {k : List Char} {v : V} :
    (k, v) ∈ b.entries ↔ ∃ c s, k = c :: s ∧ b.get? c s = some v := by
  induction b generalizing k with
  | nil => simp [entries]
  | node c value below next ihBelow ihNext =>
    obtain ⟨hbelow, hnext, habove⟩ := hb
    simp only [entries, List.mem_append, List.mem_map, Option.mem_toList, Prod.mk.injEq]
    constructor
    · rintro ((⟨v', hv', rfl, rfl⟩ | ⟨e, he, rfl, rfl⟩) | he)
      · exact ⟨c, [], rfl, by simpa using hv'⟩
      · obtain ⟨c', s', hkey, hget⟩ := (ihBelow hbelow).mp he
        exact ⟨c, e.1, rfl, by simp [hkey, hget]⟩
      · obtain ⟨c', s', hkey, hlt⟩ := head_of_mem_entries habove he
        obtain ⟨c'', s'', hkey', hget⟩ := (ihNext hnext).mp he
        obtain ⟨rfl, rfl⟩ := List.cons.inj (hkey.symm.trans hkey')
        exact ⟨c', s', hkey, by rw [get?_node_of_ne (Char.ne_of_lt hlt).symm, hget]⟩
    · rintro ⟨c', s', rfl, hget⟩
      by_cases hc : c' = c
      · subst hc
        cases s' with
        | nil => exact Or.inl (Or.inl ⟨v, by simpa using hget, rfl, rfl⟩)
        | cons d rest =>
          rw [get?_node_cons] at hget
          have hmem := (ihBelow hbelow).mpr ⟨d, rest, rfl, hget⟩
          exact Or.inl (Or.inr ⟨(d :: rest, v), hmem, rfl, rfl⟩)
      · rw [get?_node_of_ne hc] at hget
        exact Or.inr ((ihNext hnext).mpr ⟨c', s', rfl, hget⟩)

/-! ### The way along a text -/

@[simp] theorem along_nil (b : Branches V) : b.along [] = [] := by
  cases b <;> rfl

/-- Along a text stand the values at its word-bounded beginnings. -/
theorem along_cons (b : Branches V) (c : Char) (s : List Char) :
    b.along (c :: s) =
      (wordStarts s).filterMap fun p ↦ (b.get? c p).map fun v ↦ (c :: p, v) := by
  induction b generalizing c s with
  | nil => simp [along]
  | node d value below next ihBelow ihNext =>
    by_cases hc : c = d
    · subst hc
      cases s with
      | nil => cases value <;> simp [along, endsWord, wordStarts, beforeSpaces]
      | cons c' s' =>
        rw [along, if_pos rfl, ihBelow, wordStarts_cons, List.filterMap_append,
          List.filterMap_map, List.map_filterMap]
        congr 1
        · by_cases hspace : c' = ' '
          · cases value <;> simp [endsWord, hspace]
          · simp [endsWord, hspace]
        · refine List.filterMap_congr fun p _ ↦ ?_
          simp [Function.comp_def]
    · rw [along, if_neg hc, ihNext]
      refine List.filterMap_congr fun p _ ↦ ?_
      rw [get?_node_of_ne hc]

end Branches

namespace Trie

/-! ### Tries -/

def Ordered (t : Trie V) : Prop := t.branches.Ordered

theorem ordered_empty : (∅ : Trie V).Ordered := trivial

@[simp] theorem get?_empty (key : List Char) : (∅ : Trie V).get? key = none := by
  cases key <;> rfl

theorem ordered_insert {t : Trie V} (ht : t.Ordered) (key : List Char) (v : V) :
    (t.insert key v).Ordered := by
  cases key with
  | nil => exact ht
  | cons c s => exact Branches.ordered_insert c s v ht

theorem get?_insert {t : Trie V} (ht : t.Ordered) (key : List Char) (v : V) (key' : List Char) :
    (t.insert key v).get? key' = if key' = key then some v else t.get? key' := by
  cases key with
  | nil => cases key' <;> simp [insert, get?]
  | cons c s =>
    cases key' with
    | nil => simp [insert, get?]
    | cons c' s' => simp [insert, get?, Branches.get?_insert c s v ht]

theorem ordered_erase {t : Trie V} (ht : t.Ordered) (key : List Char) : (t.erase key).Ordered := by
  unfold erase
  split_ifs
  · exact ht
  · cases key with
    | nil => exact ht
    | cons c s => exact Branches.ordered_erase c s ht

theorem get?_erase {t : Trie V} (ht : t.Ordered) (key key' : List Char) :
    (t.erase key).get? key' = if key' = key then none else t.get? key' := by
  unfold erase
  split_ifs with hnone hkey hkey
  · rw [hkey]
    simpa using hnone
  · rfl
  · subst hkey
    cases key' with
    | nil => rfl
    | cons c s => simp [get?, Branches.get?_erase c s ht]
  · cases key with
    | nil =>
      cases key' with
      | nil => exact absurd rfl hkey
      | cons c' s' => rfl
    | cons c s =>
      cases key' with
      | nil => rfl
      | cons c' s' =>
        have hpath : ¬ (c' = c ∧ s' = s) := by
          rintro ⟨rfl, rfl⟩
          exact hkey rfl
        simp [get?, Branches.get?_erase c s ht, hpath]

/-- Storing a value gives the one that is looked up before. -/
theorem put_eq {t : Trie V} (ht : t.Ordered) (key : List Char) (v : V) :
    t.put key v = (t.get? key, t.insert key v) := by
  cases key with
  | nil => cases hvalue : t.value <;> simp [put, insert, get?, hvalue]
  | cons c s =>
    cases hget : t.branches.get? c s <;> simp [put, insert, get?, Branches.put_eq c s v ht, hget]

/-- Taking a value out gives the one that is looked up. -/
theorem take_eq (t : Trie V) (key : List Char) : t.take key = (t.get? key, t.erase key) := by
  cases key with
  | nil =>
    cases t with
    | mk value branches size => cases value <;> simp [take, erase, get?]
  | cons c s =>
    cases hget : t.branches.get? c s <;> simp [take, erase, get?, Branches.take_eq, hget]

theorem entries_ascending {t : Trie V} (ht : t.Ordered) : t.entries.Pairwise (·.1 < ·.1) := by
  rw [entries, List.pairwise_append]
  refine ⟨?_, Branches.entries_ascending ht, ?_⟩
  · cases t.value <;> simp
  · intro e he e' he'
    obtain ⟨v, -, rfl⟩ := List.mem_map.mp he
    obtain ⟨c, s, hkey⟩ := List.exists_cons_of_ne_nil (Branches.ne_nil_of_mem_entries he')
    rw [hkey]
    exact List.nil_lt_cons c s

theorem mem_entries_iff {t : Trie V} (ht : t.Ordered) {key : List Char} {v : V} :
    (key, v) ∈ t.entries ↔ t.get? key = some v := by
  rw [entries, List.mem_append, Branches.mem_entries_iff ht]
  cases key with
  | nil => simp [get?]
  | cons c s => simp [get?, and_assoc]

/-- The matches of a query are the values at its word-bounded beginnings, the longest first. -/
theorem prefixMatches_eq (t : Trie V) (query : List Char) :
    t.prefixMatches query =
      ((wordStarts query).filterMap fun p ↦ (t.get? p).map (p, ·)).reverse := by
  rw [prefixMatches]
  congr 1
  cases query with
  | nil =>
    cases hvalue : t.value <;>
      simp [Branches.endsWord, wordStarts, beforeSpaces, get?, hvalue]
  | cons c s =>
    rw [Branches.along_cons, wordStarts_cons, List.filterMap_append, List.filterMap_map]
    congr 1
    by_cases hspace : c = ' '
    · cases hvalue : t.value <;> simp [Branches.endsWord, hspace, get?, hvalue]
    · simp [Branches.endsWord, hspace]

end Trie

end Guildhall
