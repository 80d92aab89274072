import Guildhall.Table
import Mathlib.Data.Finset.Card
import Mathlib.Data.List.Induction
import Mathlib.Data.List.Pairwise
import Mathlib.Data.List.Sort

/-!
Finite maps as they are looked up. A table holds the pairs that it looks up and no others
(`mem_entries_iff`), what is stored is found and nothing else changes (`get?_insert`,
`get?_erase`, `get?_filter`), a table is determined by what it looks up (`ext_get?`), and it has as
many pairs as keys (`card_keys`).
-/

set_option autoImplicit false

namespace Guildhall.Table

universe u v

/-! ### Pairs and lookups -/

section Lookup

variable {K : Type u} {V : Type v} [LT K] [Std.Asymm (α := K) (· < ·)]

/-- A table holds at most one pair of a key. -/
theorem eq_of_mem_entries {t : Table K V} {k : K} {v v' : V} (hv : (k, v) ∈ t.entries)
    (hv' : (k, v') ∈ t.entries) : v = v' := by
  have hapart : t.entries.Pairwise fun a b ↦ a.1 < b.1 ∨ b.1 < a.1 := t.ascending.imp Or.inl
  have hsymm : Std.Symm fun a b : K × V ↦ a.1 < b.1 ∨ b.1 < a.1 := ⟨fun _ _ h ↦ h.symm⟩
  by_contra hne
  have hlt := hapart.forall hv hv' fun heq ↦ hne (Prod.ext_iff.mp heq).2
  exact Std.Irrefl.irrefl k (or_self_iff.mp hlt)

/-- Two tables with the same pairs are the same. -/
theorem ext_entries {t t' : Table K V} (h : ∀ e, e ∈ t.entries ↔ e ∈ t'.entries) : t = t' := by
  have hantisymm : Std.Antisymm fun a b : K × V ↦ a.1 < b.1 :=
    ⟨fun a b hab hba ↦ absurd hba (Std.Asymm.asymm a.1 b.1 hab)⟩
  have hirrefl : Std.Irrefl fun a b : K × V ↦ a.1 < b.1 := ⟨fun a ↦ Std.Irrefl.irrefl a.1⟩
  cases t
  cases t'
  simp only [mk.injEq]
  exact List.Pairwise.eq_of_mem_iff ‹_› ‹_› h

/-- The entries are the only ascending list of the pairs of a table. -/
theorem eq_entries {t : Table K V} {l : List (K × V)} (hl : l.Pairwise (·.1 < ·.1))
    (h : ∀ e, e ∈ l ↔ e ∈ t.entries) : l = t.entries :=
  congrArg entries (ext_entries h : (⟨l, hl⟩ : Table K V) = t)

variable [DecidableEq K]

theorem mem_entries_iff {t : Table K V} {k : K} {v : V} :
    (k, v) ∈ t.entries ↔ t.get? k = some v := by
  constructor
  · intro hmem
    have hsome : (t.entries.find? (·.1 = k)).isSome :=
      List.find?_isSome.mpr ⟨(k, v), hmem, by simp⟩
    obtain ⟨e, he⟩ := Option.isSome_iff_exists.mp hsome
    have hkey : e.1 = k := by simpa using List.find?_some he
    have hvalue : e.2 = v :=
      eq_of_mem_entries (hkey ▸ List.mem_of_find?_eq_some he) hmem
    rw [get?, he, Option.map_some, hvalue]
  · intro hget
    obtain ⟨e, he, rfl⟩ := Option.map_eq_some_iff.mp hget
    have hkey : e.1 = k := by simpa using List.find?_some he
    exact hkey ▸ List.mem_of_find?_eq_some he

theorem mem_values_iff {t : Table K V} {v : V} : v ∈ t.values ↔ ∃ k, t.get? k = some v := by
  simp only [values, List.mem_map, Prod.exists, exists_eq_right, mem_entries_iff]

/-- Two tables that look up the same are the same. -/
theorem ext_get? {t t' : Table K V} (h : ∀ k, t.get? k = t'.get? k) : t = t' :=
  ext_entries fun ⟨k, v⟩ ↦ by rw [mem_entries_iff, mem_entries_iff, h k]

end Lookup

/-! ### What a change does to lookups -/

section Change

variable {K : Type u} {V : Type v} [LT K] [DecidableEq K]

@[simp] theorem get?_empty (k : K) : (∅ : Table K V).get? k = none := rfl

theorem get?_erase (t : Table K V) (k k' : K) :
    (t.erase k).get? k' = if k' = k then none else t.get? k' := by
  rw [get?, erase, List.find?_filter]
  split_ifs with hkey
  · subst hkey
    simp
  · have hsame : (fun e : K × V ↦ decide (decide (e.1 ≠ k) = true ∧ decide (e.1 = k') = true)) =
        fun e ↦ decide (e.1 = k') := by
      funext e
      by_cases he : e.1 = k'
      · simp [he, hkey]
      · simp [he]
    rw [hsame, get?]

/-- What passes of a table is looked up as before. -/
theorem get?_filter [Std.Asymm (α := K) (· < ·)] (t : Table K V) (p : K → V → Bool) (k : K) :
    (t.filter p).get? k = (t.get? k).filter (p k) := by
  refine Option.ext fun v ↦ ?_
  rw [← mem_entries_iff, filter, List.mem_filter, mem_entries_iff, Option.filter_eq_some_iff]

variable [DecidableLT K] [Std.Irrefl (α := K) (· < ·)] [Std.Trichotomous (α := K) (· < ·)]

theorem find?_insertEntry (k : K) (v : V) (l : List (K × V)) (k' : K) :
    (insertEntry k v l).find? (·.1 = k') =
      if k' = k then some (k, v) else l.find? (·.1 = k') := by
  induction l with
  | nil => simp [insertEntry, eq_comm]
  | cons e rest ih =>
    by_cases hkey : k' = k
    · subst hkey
      by_cases hlt : k' < e.1
      · simp [insertEntry, hlt]
      · by_cases hgt : e.1 < k'
        · have hne : e.1 ≠ k' := fun heq ↦ Std.Irrefl.irrefl k' (heq ▸ hgt)
          simp [insertEntry, hlt, hgt, hne, ih]
        · simp [insertEntry, hlt, hgt]
    · by_cases hlt : k < e.1
      · simp [insertEntry, hlt, hkey, Ne.symm hkey]
      · by_cases hgt : e.1 < k
        · simp [insertEntry, hlt, hgt, hkey, ih, List.find?_cons]
        · have hsame : e.1 = k := Std.Trichotomous.trichotomous _ _ hgt hlt
          have hne : e.1 ≠ k' := fun heq ↦ hkey (heq.symm.trans hsame)
          simp [insertEntry, hlt, hgt, hkey, Ne.symm hkey, hne]

variable [Trans (α := K) (β := K) (γ := K) (· < ·) (· < ·) (· < ·)]

theorem get?_insert (t : Table K V) (k : K) (v : V) (k' : K) :
    (t.insert k v).get? k' = if k' = k then some v else t.get? k' := by
  rw [get?, insert, find?_insertEntry]
  split_ifs
  · rfl
  · rfl

theorem get?_insert_self (t : Table K V) (k : K) (v : V) : (t.insert k v).get? k = some v := by
  rw [get?_insert, if_pos rfl]

end Change

/-! ### Keys -/

section Keys

variable {K : Type u} {V : Type v} [LT K] [Std.Asymm (α := K) (· < ·)]

theorem nodup_keys (t : Table K V) : t.keys.Nodup := by
  rw [keys, List.nodup_iff_pairwise_ne, List.pairwise_map]
  refine t.ascending.imp fun {e e'} hlt heq ↦ ?_
  rw [heq] at hlt
  exact Std.Irrefl.irrefl e'.1 hlt

variable [DecidableEq K]

theorem mem_keys_iff {t : Table K V} {k : K} : k ∈ t.keys ↔ (t.get? k).isSome := by
  simp only [keys, List.mem_map, Prod.exists, exists_and_right, exists_eq_right, mem_entries_iff,
    Option.isSome_iff_exists]

/-- A table has as many pairs as keys. -/
theorem card_keys (t : Table K V) : t.keys.toFinset.card = t.size := by
  rw [List.toFinset_card_of_nodup t.nodup_keys, keys, List.length_map, size]

theorem size_erase (t : Table K V) (k : K) :
    (t.erase k).size = if (t.get? k).isSome then t.size - 1 else t.size := by
  have hkeys : (t.erase k).keys.toFinset = t.keys.toFinset.erase k := by
    ext k'
    by_cases hkey : k' = k
    · simp [mem_keys_iff, get?_erase, hkey]
    · simp [mem_keys_iff, get?_erase, hkey]
  rw [← card_keys, hkeys, Finset.card_erase_eq_ite, card_keys]
  simp only [List.mem_toFinset, mem_keys_iff]

variable [DecidableLT K] [Std.Trichotomous (α := K) (· < ·)]
  [Trans (α := K) (β := K) (γ := K) (· < ·) (· < ·) (· < ·)]

theorem size_insert (t : Table K V) (k : K) (v : V) :
    (t.insert k v).size = if (t.get? k).isSome then t.size else t.size + 1 := by
  have hkeys : (t.insert k v).keys.toFinset = Insert.insert k t.keys.toFinset := by
    ext k'
    by_cases hkey : k' = k
    · simp [mem_keys_iff, get?_insert, hkey]
    · simp [mem_keys_iff, get?_insert, hkey]
  rw [← card_keys, hkeys, Finset.card_insert_eq_ite, card_keys]
  simp only [List.mem_toFinset, mem_keys_iff]

end Keys

/-! ### Lists of pairs -/

section Lists

variable {K : Type u} {V : Type v} [LT K] [DecidableLT K]

theorem insertEntry_of_lt [Std.Asymm (α := K) (· < ·)] {k : K} {v : V} {l : List (K × V)}
    (hlt : ∀ e ∈ l, e.1 < k) : insertEntry k v l = l ++ [(k, v)] := by
  induction l with
  | nil => rfl
  | cons e l ih =>
    obtain ⟨he, hl⟩ := List.forall_mem_cons.mp hlt
    rw [insertEntry, if_neg (Std.Asymm.asymm _ _ he), if_pos he, ih hl, List.cons_append]

variable [Std.Trichotomous (α := K) (· < ·)]
  [Trans (α := K) (β := K) (γ := K) (· < ·) (· < ·) (· < ·)]

theorem mem_of_mem_foldl_insert {l : List (K × V)} {t : Table K V} {e : K × V}
    (he : e ∈ (l.foldl (fun t e ↦ t.insert e.1 e.2) t).entries) : e ∈ t.entries ∨ e ∈ l := by
  induction l generalizing t with
  | nil => exact Or.inl he
  | cons d l ih =>
    rcases ih he with hinsert | hrest
    · rcases mem_insertEntry hinsert with rfl | hold
      · exact Or.inr List.mem_cons_self
      · exact Or.inl hold
    · exact Or.inr (List.mem_cons_of_mem d hrest)

/-- The table of a list of pairs has no others. -/
theorem mem_of_mem_ofList {l : List (K × V)} {e : K × V} (he : e ∈ (ofList l).entries) : e ∈ l :=
  (mem_of_mem_foldl_insert he).resolve_left List.not_mem_nil

variable [Std.Asymm (α := K) (· < ·)] [DecidableEq K]

/-- Of pairs with one key the last is found. -/
theorem get?_ofList (l : List (K × V)) (k : K) :
    (ofList l).get? k = (l.reverse.find? (·.1 = k)).map (·.2) := by
  induction l using List.reverseRecOn with
  | nil => rfl
  | append_singleton l e ih =>
    have hlast : ofList (l ++ [e]) = (ofList l).insert e.1 e.2 := by
      simp [ofList, List.foldl_append]
    rw [hlast, get?_insert, List.reverse_append, List.reverse_singleton, List.singleton_append,
      List.find?_cons, ih]
    by_cases hkey : e.1 = k
    · rw [if_pos hkey.symm, decide_eq_true hkey, Option.map_some]
    · rw [if_neg (Ne.symm hkey), decide_eq_false hkey]

omit [DecidableEq K]

theorem entries_foldl_insert {l : List (K × V)} {t : Table K V}
    (hascending : (t.entries ++ l).Pairwise (·.1 < ·.1)) :
    (l.foldl (fun t e ↦ t.insert e.1 e.2) t).entries = t.entries ++ l := by
  induction l generalizing t with
  | nil => exact (List.append_nil t.entries).symm
  | cons e l ih =>
    have hlt : ∀ d ∈ t.entries, d.1 < e.1 := fun d hd ↦
      (List.pairwise_append.mp hascending).2.2 d hd e List.mem_cons_self
    have hinsert : (t.insert e.1 e.2).entries = t.entries ++ [e] := insertEntry_of_lt hlt
    rw [List.append_cons] at hascending
    rw [List.foldl_cons, ih (hinsert ▸ hascending), hinsert, ← List.append_cons]

/-- A table is the table of its pairs. -/
theorem ofList_entries (t : Table K V) : ofList t.entries = t := by
  refine ext_entries fun e ↦ ?_
  rw [ofList, entries_foldl_insert (t := empty) t.ascending, empty, List.nil_append]

end Lists

end Guildhall.Table
