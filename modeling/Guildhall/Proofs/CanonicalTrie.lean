import Guildhall.Proofs.TrieCalls
import Mathlib.Algebra.BigOperators.Group.List.Basic
import Mathlib.Algebra.GroupWithZero.Nat

/-!
Tries without idle nodes. A node that has neither a value nor nodes below it leads to nothing, and
no change of a trie leaves one (`Branches.pruned_insert`, `Branches.pruned_erase`). Where there is
none, every node is on the way to some key, so that a trie is determined by what it looks up
(`Trie.ext_get?`) and has no more nodes than its keys have characters (`Branches.nodes_le`). So
after any calls equal contents have equal tries (`TrieCall.canonical_runAll`).
-/

set_option autoImplicit false

namespace Guildhall

variable {V : Type}

namespace Branches

/-- Every node has a value or nodes below it. -/
def Pruned : Branches V → Prop
  | nil => True
  | node _ value below next => ¬(value = none ∧ below = nil) ∧ below.Pruned ∧ next.Pruned

/-- The number of nodes. -/
def nodes : Branches V → Nat
  | nil => 0
  | node _ _ below next => below.nodes + next.nodes + 1

/-! ### Changes -/

theorem pruned_chain (c : Char) (s : List Char) (v : V) {next : Branches V} (hnext : next.Pruned) :
    (chain c s v next).Pruned := by
  induction s generalizing c next with
  | nil => exact ⟨by simp, trivial, hnext⟩
  | cons c' s' ih =>
    refine ⟨fun hidle ↦ ?_, ih c' trivial, hnext⟩
    cases s' <;> cases hidle.2

theorem insert_ne_nil (b : Branches V) (c : Char) (s : List Char) (v : V) :
    b.insert c s v ≠ nil := by
  cases b with
  | nil => cases s <;> simp [insert, chain]
  | node d value below next =>
    rcases lt_trichotomy c d with hlt | rfl | hgt
    · rw [insert_node_of_lt hlt]
      cases s <;> simp [chain]
    · cases s <;> simp
    · simp [insert_node_of_gt hgt]

theorem pruned_insert (c : Char) (s : List Char) (v : V) {b : Branches V} (hb : b.Pruned) :
    (b.insert c s v).Pruned := by
  induction b generalizing c s with
  | nil => exact pruned_chain c s v trivial
  | node d value below next ihBelow ihNext =>
    obtain ⟨hbusy, hbelow, hnext⟩ := hb
    rcases lt_trichotomy c d with hlt | rfl | hgt
    · rw [insert_node_of_lt hlt]
      exact pruned_chain c s v ⟨hbusy, hbelow, hnext⟩
    · cases s with
      | nil =>
        rw [insert_node_nil]
        exact ⟨by simp, hbelow, hnext⟩
      | cons c' s' =>
        rw [insert_node_cons]
        exact ⟨fun hidle ↦ insert_ne_nil below c' s' v hidle.2, ihBelow c' s' hbelow, hnext⟩
    · rw [insert_node_of_gt hgt]
      exact ⟨hbusy, hbelow, ihNext c s hnext⟩

theorem pruned_prune (d : Char) (value : Option V) {below next : Branches V}
    (hbelow : below.Pruned) (hnext : next.Pruned) : (prune d value below next).Pruned := by
  unfold prune
  split
  · exact hnext
  · rename_i hbusy
    exact ⟨fun hidle ↦ hbusy hidle.1 hidle.2, hbelow, hnext⟩

theorem pruned_erase (c : Char) (s : List Char) {b : Branches V} (hb : b.Pruned) :
    (b.erase c s).Pruned := by
  induction b generalizing c s with
  | nil => trivial
  | node d value below next ihBelow ihNext =>
    obtain ⟨hbusy, hbelow, hnext⟩ := hb
    by_cases hc : c = d
    · subst hc
      cases s with
      | nil =>
        rw [erase_node_nil]
        exact pruned_prune c none hbelow hnext
      | cons c' s' =>
        rw [erase_node_cons]
        exact pruned_prune c value (ihBelow c' s' hbelow) hnext
    · rw [erase_node_of_ne hc]
      exact ⟨hbusy, hbelow, ihNext c s hnext⟩

/-! ### Every node leads to a key -/

theorem exists_get?_node {d : Char} {value : Option V} {below next : Branches V}
    (hb : (node d value below next).Pruned) :
    ∃ s v, (node d value below next).get? d s = some v := by
  induction below generalizing d value next with
  | nil =>
    cases value with
    | none => exact absurd ⟨rfl, rfl⟩ hb.1
    | some v => exact ⟨[], v, get?_node_nil d (some v) nil next⟩
  | node d' value' below' next' ihBelow =>
    obtain ⟨s, v, hget⟩ := ihBelow hb.2.1
    exact ⟨d' :: s, v, by rw [get?_node_cons, hget]⟩

/-- Branches in order without idle nodes are determined by what they look up. -/
theorem ext_get? {b b' : Branches V} (hb : b.Ordered) (hb' : b'.Ordered) (hpruned : b.Pruned)
    (hpruned' : b'.Pruned) (hsame : ∀ c s, b.get? c s = b'.get? c s) : b = b' := by
  induction b generalizing b' with
  | nil =>
    cases b' with
    | nil => rfl
    | node d' value' below' next' =>
      obtain ⟨s, v, hget⟩ := exists_get?_node hpruned'
      cases (hsame d' s).trans hget
  | node d value below next ihBelow ihNext =>
    obtain ⟨s, v, hget⟩ := exists_get?_node hpruned
    cases b' with
    | nil => cases (hsame d s).symm.trans hget
    | node d' value' below' next' =>
      obtain ⟨s', v', hget'⟩ := exists_get?_node hpruned'
      -- The first node of each leads to a key, so that the other has a node of its character.
      have hfirst : d = d' := by
        rcases lt_trichotomy d d' with hlt | heq | hgt
        · have hnone := get?_of_above (b := node d' value' below' next')
            ⟨hlt, above_of_lt hlt hb'.2.2⟩ s
          cases (hget.symm.trans (hsame d s)).trans hnone
        · exact heq
        · have hnone := get?_of_above (b := node d value below next)
            ⟨hgt, above_of_lt hgt hb.2.2⟩ s'
          cases (hget'.symm.trans (hsame d' s').symm).trans hnone
      subst hfirst
      have hvalue : value = value' := by simpa using hsame d []
      have hbelow : below = below' := by
        refine ihBelow hb.1 hb'.1 hpruned.2.1 hpruned'.2.1 fun c s ↦ ?_
        simpa using hsame d (c :: s)
      have hnext : next = next' := by
        refine ihNext hb.2.1 hb'.2.1 hpruned.2.2 hpruned'.2.2 fun c s ↦ ?_
        by_cases hc : c = d
        · subst hc
          rw [get?_of_above hb.2.2, get?_of_above hb'.2.2]
        · simpa only [get?_node_of_ne hc] using hsame c s
      rw [hvalue, hbelow, hnext]

theorem entries_ne_nil {b : Branches V} (hb : b.Ordered) (hpruned : b.Pruned) (hne : b ≠ nil) :
    b.entries ≠ [] := by
  cases b with
  | nil => exact absurd rfl hne
  | node d value below next =>
    obtain ⟨s, v, hget⟩ := exists_get?_node hpruned
    exact List.ne_nil_of_mem ((mem_entries_iff hb).mpr ⟨d, s, rfl, hget⟩)

/-- There are no more nodes than characters in the keys. -/
theorem nodes_le {b : Branches V} (hb : b.Ordered) (hpruned : b.Pruned) :
    b.nodes ≤ (b.entries.map (·.1.length)).sum := by
  induction b with
  | nil => exact Nat.le_refl 0
  | node d value below next ihBelow ihNext =>
    obtain ⟨hbelow, hnext, -⟩ := hb
    obtain ⟨hbusy, hprunedBelow, hprunedNext⟩ := hpruned
    have hcountBelow := ihBelow hbelow hprunedBelow
    have hcountNext := ihNext hnext hprunedNext
    have hlonger : ((below.entries.map fun e ↦ (d :: e.1, e.2)).map (·.1.length)).sum =
        (below.entries.map (·.1.length)).sum + below.entries.length := by
      simp [Function.comp_def, List.sum_map_add]
    rw [nodes, entries, List.map_append, List.map_append, List.sum_append, List.sum_append,
      hlonger]
    cases value with
    | some v =>
      simp only [Option.toList_some, List.map_cons, List.map_nil, List.length_singleton,
        List.sum_singleton]
      omega
    | none =>
      have hmore : below ≠ nil := fun hnil ↦ hbusy ⟨rfl, hnil⟩
      have hpos := List.length_pos_of_ne_nil (entries_ne_nil hbelow hprunedBelow hmore)
      omega

end Branches

namespace Trie

theorem pruned_insert {t : Trie V} (ht : t.branches.Pruned) (key : List Char) (v : V) :
    (t.insert key v).branches.Pruned := by
  cases key with
  | nil => exact ht
  | cons c s => exact Branches.pruned_insert c s v ht

theorem pruned_erase {t : Trie V} (ht : t.branches.Pruned) (key : List Char) :
    (t.erase key).branches.Pruned := by
  unfold erase
  split_ifs
  · exact ht
  · cases key with
    | nil => exact ht
    | cons c s => exact Branches.pruned_erase c s ht

/-- Tries that list maps are the same where they look up the same. -/
theorem ext_get? {t t' : Trie V} {m m' : Table String V} (ht : t.Lists m) (ht' : t'.Lists m')
    (hpruned : t.branches.Pruned) (hpruned' : t'.branches.Pruned)
    (hsame : ∀ key, t.get? key = t'.get? key) : t = t' := by
  have hvalue : t.value = t'.value := hsame []
  have hbranches : t.branches = t'.branches :=
    Branches.ext_get? ht.ordered ht'.ordered hpruned hpruned' fun c s ↦ hsame (c :: s)
  have hmap : m = m' := Table.ext_get? fun key ↦ by rw [← ht.lookup, ← ht'.lookup, hsame]
  have hsize : t.size = t'.size := by rw [ht.size, ht'.size, hmap]
  cases t
  cases t'
  cases hvalue
  cases hbranches
  cases hsize
  rfl

/-- A key that is stored and taken away leaves the trie as it was if it was new, and only then. -/
theorem erase_insert_eq_iff {t : Trie V} {m : Table String V} (ht : t.Lists m)
    (hpruned : t.branches.Pruned) (key : String) (v : V) :
    (t.insert key.toList v).erase key.toList = t ↔ t.get? key.toList = none := by
  have hinserted := ht.insert key v
  have hlookup (key' : List Char) : ((t.insert key.toList v).erase key.toList).get? key' =
      if key' = key.toList then none else t.get? key' := by
    rw [get?_erase hinserted.ordered, get?_insert ht.ordered]
    split_ifs <;> rfl
  constructor
  · intro heq
    rw [← heq, hlookup, if_pos rfl]
  · intro hnew
    refine ext_get? (hinserted.erase key) ht (pruned_erase (pruned_insert hpruned _ v) _) hpruned
      fun key' ↦ ?_
    rw [hlookup]
    split_ifs with hkey
    · rw [hkey, hnew]
    · rfl

end Trie

namespace TrieCall

theorem pruned_run (call : TrieCall V) {t : Trie V} {m : Table String V} (ht : t.Lists m)
    (hpruned : t.branches.Pruned) : (call.run t).2.branches.Pruned := by
  cases call with
  | insert key v =>
    simp only [run, Trie.put_eq ht.ordered]
    exact Trie.pruned_insert hpruned key.toList v
  | remove key =>
    simp only [run, Trie.remove, Trie.take_eq]
    exact Trie.pruned_erase hpruned key.toList
  | take key =>
    simp only [run, Trie.take_eq]
    exact Trie.pruned_erase hpruned key.toList
  | clear => trivial

theorem pruned_runAll (calls : List (TrieCall V)) {t : Trie V} {m : Table String V}
    (ht : t.Lists m) (hpruned : t.branches.Pruned) :
    (runAll run calls t).2.branches.Pruned := by
  induction calls generalizing t m with
  | nil => exact hpruned
  | cons call calls ih => exact ih (call.lists_run ht).2 (call.pruned_run ht hpruned)

/-- Tries are canonical. Any calls of a new trie leave the pairs that the same operations leave on
a finite map. Every node below the root then has a value or nodes below it, and there are no more
nodes than characters in the keys that are there. Two runs of calls leave one and the same trie
exactly if they leave the same keys with the same values. So a key that is inserted and then
removed, or taken out, leaves the very trie that was there exactly if the key was new. -/
theorem canonical_runAll (calls calls' : List (TrieCall V)) :
    let t := (runAll run calls ∅).2
    let t' := (runAll run calls' ∅).2
    let m := (runAll onTable calls ∅).2
    let m' := (runAll onTable calls' ∅).2
    t.entries.map Trie.pair = m.entries ∧ t.branches.Pruned ∧
      t.branches.nodes ≤ (m.keys.map String.length).sum ∧ (t = t' ↔ m = m') ∧
      ∀ key v, (((remove key).run ((insert key v).run t).2).2 = t ↔ m.get? key = none) ∧
        (((take key).run ((insert key v).run t).2).2 = t ↔ m.get? key = none) := by
  intro t t' m m'
  obtain ⟨-, hlists⟩ : _ ∧ t.Lists m := lists_runAll calls Trie.lists_empty
  obtain ⟨-, hlists'⟩ : _ ∧ t'.Lists m' := lists_runAll calls' Trie.lists_empty
  have hpruned : t.branches.Pruned := pruned_runAll calls Trie.lists_empty trivial
  have hpruned' : t'.branches.Pruned := pruned_runAll calls' Trie.lists_empty trivial
  refine ⟨hlists.map_pair_entries, hpruned, ?_, ⟨fun heq ↦ ?_, fun heq ↦ ?_⟩, fun key v ↦ ?_⟩
  · calc t.branches.nodes
      _ ≤ (t.branches.entries.map (·.1.length)).sum := Branches.nodes_le hlists.ordered hpruned
      _ ≤ (t.entries.map (·.1.length)).sum := by
        rw [Trie.entries, List.map_append, List.sum_append]
        exact Nat.le_add_left _ _
      _ = (m.keys.map String.length).sum := by
        rw [Table.keys, ← hlists.map_pair_entries, List.map_map, List.map_map]
        simp only [Function.comp_def, Trie.pair, String.length_ofList]
  · refine Table.ext_get? fun key ↦ ?_
    rw [← hlists.lookup, heq, hlists'.lookup]
  · refine Trie.ext_get? hlists hlists' hpruned hpruned' fun key ↦ ?_
    rw [← String.toList_ofList (l := key), hlists.lookup, hlists'.lookup, heq]
  · simp only [run, Trie.remove, Trie.put_eq hlists.ordered, Trie.take_eq,
      Trie.erase_insert_eq_iff hlists hpruned key v, hlists.lookup, and_self]

end TrieCall

end Guildhall
