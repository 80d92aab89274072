import Guildhall.Pattern.Meaning
import Guildhall.Proofs.PastedPatterns

/-!
What every pattern that is read is like: no loop has a bound below its least number of rounds, and
no group has the number of the whole match (`Node.Sound`). Each piece that the reader takes keeps
this of everything that it has read (`Reading.Sound`), in the groups that are open as well.
-/

set_option autoImplicit false

namespace Guildhall.Pattern

/-- Whether the loops of a node agree and none of its groups is the whole match. -/
structure Node.Sound (n : Node) : Prop where
  loops : n.LoopsAgree
  groups : 0 ∉ n.groupIndices

namespace Node

theorem Sound.empty : empty.Sound := ⟨trivial, by simp [groupIndices]⟩

theorem Sound.one (set : Charset) : (one set).Sound := ⟨trivial, by simp [groupIndices]⟩

theorem Sound.look (l : Look) : (look l).Sound := ⟨trivial, by simp [groupIndices]⟩

theorem Sound.group {n : Node} (h : n.Sound) {index : Nat} (hindex : index ≠ 0) :
    (Node.group index n).Sound :=
  ⟨h.loops, by simpa [groupIndices] using ⟨hindex.symm, h.groups⟩⟩

theorem Sound.cat {a b : Node} (ha : a.Sound) (hb : b.Sound) : (a.cat b).Sound :=
  ⟨⟨ha.loops, hb.loops⟩, by simpa [groupIndices] using ⟨ha.groups, hb.groups⟩⟩

theorem Sound.alt {a b : Node} (ha : a.Sound) (hb : b.Sound) : (a.alt b).Sound :=
  ⟨⟨ha.loops, hb.loops⟩, by simpa [groupIndices] using ⟨ha.groups, hb.groups⟩⟩

theorem Sound.loop {n : Node} (h : n.Sound) {min : Nat} {max : Option Nat}
    (hle : ∀ most ∈ max, min ≤ most) (greedy : Bool) : (Node.loop min max greedy n).Sound :=
  ⟨⟨hle, h.loops⟩, h.groups⟩

theorem Sound.mkLoop {n : Node} (h : n.Sound) {min : Nat} {max : Option Nat}
    (hle : ∀ most ∈ max, min ≤ most) (greedy : Bool) : (mkLoop min max greedy n).Sound := by
  -- A body that reads only the empty text has both bounds cut to one.
  have hbounds : ∀ (low : Nat) (high : Option Nat), (∀ most ∈ high, low ≤ most) →
      (if high = some 0 then Node.empty
        else if low = 1 ∧ high = some 1 then n else .loop low high greedy n).Sound := by
    intro low high hle
    split_ifs
    · exact .empty
    · exact h
    · exact h.loop hle greedy
  rw [Node.mkLoop]
  split_ifs with hempty
  · refine hbounds _ _ ?_
    rintro _ ⟨⟩
    cases max with
    | none => exact Nat.min_le_right min 1
    | some most =>
      exact Nat.le_min_of_le_of_le ((Nat.min_le_left min 1).trans (hle most rfl))
        (Nat.min_le_right min 1)
  · exact hbounds min max hle

theorem Sound.concat {ns : List Node} (h : ∀ n ∈ ns, n.Sound) : (concat ns).Sound :=
  concat_induction .empty (fun _ _ ↦ .cat) h

theorem Sound.choice {ns : List Node} (h : ∀ n ∈ ns, n.Sound) : (choice ns).Sound := by
  induction ns with
  | nil => exact .empty
  | cons n ns ih =>
    obtain ⟨hn, hns⟩ := List.forall_mem_cons.mp h
    cases ns with
    | nil => exact hn
    | cons m ns => exact hn.alt (ih hns)

end Node

/-! ### What has been read -/

def Piece.Sound : Piece → Prop
  | node n _ => n.Sound
  | flags => True

structure OpenGroup.Sound (g : OpenGroup) : Prop where
  index : g.index ≠ some 0
  branches : ∀ b ∈ g.branches, b.1.Sound
  pieces : ∀ p ∈ g.pieces, p.Sound

/-- Whether all that has been read is sound. -/
structure Reading.Sound (r : Reading) : Prop where
  groups : ∀ g ∈ r.groups, g.Sound
  branches : ∀ b ∈ r.branches, b.1.Sound
  pieces : ∀ p ∈ r.pieces, p.Sound

namespace Reading.Sound

variable {r r' : Reading}

theorem start (flags : Flags) : ({ flags } : Reading).Sound := ⟨by simp, by simp, by simp⟩

theorem branch (h : r.Sound) : r.branch.1.Sound := by
  refine .concat fun n hn ↦ ?_
  obtain ⟨p, hp, hpn⟩ := List.mem_filterMap.mp hn
  have hsound := h.pieces p (List.mem_reverse.mp hp)
  cases p with
  | node m depth =>
    obtain rfl : m = n := by simpa using hpn
    exact hsound
  | flags => simp at hpn

theorem body (h : r.Sound) : r.body.1.Sound := by
  refine .choice fun n hn ↦ ?_
  obtain ⟨b, hb, rfl⟩ := List.mem_map.mp hn
  rcases List.mem_cons.mp (List.mem_reverse.mp hb) with rfl | hb
  · exact h.branch
  · exact h.branches b hb

theorem push (h : r.Sound) {n : Node} (hn : n.Sound) (depth : Nat) : (r.push n depth).Sound :=
  ⟨h.groups, h.branches, List.forall_mem_cons.mpr ⟨hn, h.pieces⟩⟩

theorem repeatLast? (h : r.Sound) {min : Nat} {max : Option Nat} {greedy : Bool}
    (hle : ∀ most ∈ max, min ≤ most) (hread : r.repeatLast? min max greedy = some r') :
    r'.Sound := by
  obtain ⟨groups, branches, pieces, flags, count, names⟩ := r
  obtain _ | ⟨_ | _, pieces⟩ := pieces
  · cases hread
  · cases hread
    obtain ⟨hlast, hpieces⟩ := List.forall_mem_cons.mp h.pieces
    exact ⟨h.groups, h.branches, List.forall_mem_cons.mpr ⟨Node.Sound.mkLoop hlast hle _, hpieces⟩⟩
  · cases hread

theorem openGroup (h : r.Sound) {index : Option Nat} (hindex : index ≠ some 0) (inner : Flags) :
    (r.openGroup index inner).Sound :=
  ⟨List.forall_mem_cons.mpr ⟨⟨hindex, h.branches, h.pieces⟩, h.groups⟩, by simp [Reading.openGroup],
    by simp [Reading.openGroup]⟩

theorem closeGroup? (h : r.Sound) (hread : r.closeGroup? = some r') : r'.Sound := by
  have hbody := h.body
  rw [Reading.closeGroup?] at hread
  split at hread
  · cases hread
  · rename_i g groups hgroups
    rw [Option.some.injEq] at hread
    subst hread
    obtain ⟨hg, hgroups⟩ := List.forall_mem_cons.mp (hgroups ▸ h.groups)
    refine ⟨hgroups, hg.branches, List.forall_mem_cons.mpr ⟨?_, hg.pieces⟩⟩
    dsimp only [Piece.Sound]
    split
    · rename_i i hi
      exact hbody.group fun hzero ↦ hg.index (hi.trans (congrArg some hzero))
    · exact hbody

theorem addFlags (h : r.Sound) (flags : Flags) :
    ({ r with flags, pieces := .flags :: r.pieces } : Reading).Sound :=
  ⟨h.groups, h.branches, List.forall_mem_cons.mpr ⟨trivial, h.pieces⟩⟩

theorem endBranch (h : r.Sound) :
    ({ r with branches := r.branch :: r.branches, pieces := [] } : Reading).Sound :=
  ⟨h.groups, List.forall_mem_cons.mpr ⟨h.branch, h.branches⟩, by simp⟩

end Reading.Sound

/-! ### Reading -/

section

variable {r r' : Reading} {s rest : List Char} {f : Flags}

theorem sound_of_charNode? {c : Char} {byte : Bool} {n : Node}
    (hread : charNode? f c byte = some n) : n.Sound := by
  rw [charNode?] at hread
  split_ifs at hread <;> cases hread <;> exact .one _

theorem sound_of_dotNode? {n : Node} (hread : dotNode? f = some n) : n.Sound := by
  rw [dotNode?] at hread
  split_ifs at hread <;> cases hread <;> exact .one _

theorem sound_of_node? {a : Atom} {n : Node} (hread : a.node? f = some n) : n.Sound := by
  cases a with
  | char c byte => exact sound_of_charNode? hread
  | dot => exact sound_of_dotNode? hread
  | look l =>
    cases hread
    exact .look l
  | digit | space | word | property =>
    obtain ⟨set, -, rfl⟩ := Option.map_eq_some_iff.mp hread
    exact .one set

theorem le_of_countEnd? {low : Nat} {high : Option Nat} {read : Nat × Option Nat × Bool × List Char}
    (hread : countEnd? f low high s = some read) : ∀ most ∈ read.2.1, read.1 ≤ most := by
  rw [countEnd?] at hread
  dsimp only at hread
  split_ifs at hread with _ hle
  cases hread
  rintro most rfl
  simpa using hle

/-- A repetition is only counted up to a bound that is not below its least number of rounds. -/
theorem le_of_counted? {read : Nat × Option Nat × Bool × List Char}
    (hread : counted? f s = some read) : ∀ most ∈ read.2.1, read.1 ≤ most := by
  rw [counted?_eq] at hread
  split at hread
  · split_ifs at hread
    · obtain ⟨low, -, hread⟩ := Option.bind_eq_some_iff.mp hread
      exact le_of_countEnd? hread
    · obtain ⟨low, -, hread⟩ := Option.bind_eq_some_iff.mp hread
      obtain ⟨high, -, hread⟩ := Option.bind_eq_some_iff.mp hread
      exact le_of_countEnd? hread
  · obtain ⟨low, -, hread⟩ := Option.bind_eq_some_iff.mp hread
    obtain ⟨high, -, hread⟩ := Option.bind_eq_some_iff.mp hread
    exact le_of_countEnd? hread

theorem sound_groupStart? (h : r.Sound) (hread : groupStart? r s = some (r', rest)) : r'.Sound := by
  have hnumbered : (r.openGroup (some (r.count + 1)) r.flags).Sound := h.openGroup (by simp) _
  rw [groupStart?] at hread
  dsimp only at hread
  split_ifs at hread
  split at hread
  · obtain ⟨⟨name, t⟩, -, hread⟩ := Option.bind_eq_some_iff.mp hread
    dsimp only at hread
    split_ifs at hread
    cases hread
    exact ⟨hnumbered.groups, hnumbered.branches, hnumbered.pieces⟩
  · split at hread
    · obtain ⟨⟨flags, closing, any, t⟩, -, hread⟩ := Option.bind_eq_some_iff.mp hread
      dsimp only at hread
      split_ifs at hread <;> cases hread
      · exact h.openGroup (by simp) flags
      · exact h.addFlags flags
    · cases hread
      exact hnumbered

theorem sound_uncounted? (h : r.Sound) {min : Nat} {max : Option Nat}
    (hle : ∀ most ∈ max, min ≤ most) (hread : uncounted? r min max s = some (r', rest)) :
    r'.Sound := by
  rw [uncounted?_eq] at hread
  obtain ⟨r'', hlast, hread⟩ := Option.map_eq_some_iff.mp hread
  cases hread
  exact h.repeatLast? hle hlast

theorem sound_step? (h : r.Sound) {c : Char} (hread : step? r c s = some (r', rest)) :
    r'.Sound := by
  unfold step? at hread
  -- The cases are the signs that a piece can begin with, in the order of `step?`.
  split at hread
  · exact sound_groupStart? h hread
  · obtain ⟨r'', hclose, hread⟩ := Option.map_eq_some_iff.mp hread
    cases hread
    exact h.closeGroup? hclose
  · cases hread
    exact h.endBranch
  · obtain ⟨⟨set, depth, t⟩, -, hread⟩ := Option.bind_eq_some_iff.mp hread
    cases hread
    exact h.push (.one set) depth
  · exact sound_uncounted? h (by simp) hread
  · exact sound_uncounted? h (by simp) hread
  · exact sound_uncounted? h (by simp) hread
  · obtain ⟨⟨min, max, greedy, t⟩, hcount, hread⟩ := Option.bind_eq_some_iff.mp hread
    obtain ⟨r'', hlast, hread⟩ := Option.bind_eq_some_iff.mp hread
    cases hread
    exact h.repeatLast? (le_of_counted? hcount) hlast
  · obtain ⟨⟨a, t⟩, -, hread⟩ := Option.bind_eq_some_iff.mp hread
    obtain ⟨n, hn, hread⟩ := Option.bind_eq_some_iff.mp hread
    cases hread
    exact h.push (sound_of_node? hn) 0
  · obtain ⟨n, hn, hread⟩ := Option.bind_eq_some_iff.mp hread
    cases hread
    exact h.push (sound_of_dotNode? hn) 0
  · cases hread
    exact h.push (.look _) 0
  · cases hread
    exact h.push (.look _) 0
  · obtain ⟨n, hn, hread⟩ := Option.bind_eq_some_iff.mp hread
    cases hread
    exact h.push (sound_of_charNode? hn) 0

theorem sound_readFrom {fuel : Nat} (h : r.Sound) (hread : readFrom fuel r s = some r') :
    r'.Sound := by
  induction fuel generalizing r s with
  | zero => simp [readFrom] at hread
  | succ fuel ih =>
    rw [readFrom] at hread
    split at hread
    · cases hread
      exact h
    · obtain ⟨⟨r'', t⟩, hstep, hread⟩ := Option.bind_eq_some_iff.mp hread
      exact ih (sound_step? h hstep) hread

/-- Every pattern that is read is sound. -/
theorem Node.sound_of_read? {n : Node} (hread : Node.read? f s = some n) : n.Sound := by
  obtain ⟨r, hread, hn⟩ := Option.bind_eq_some_iff.mp hread
  have hbody := (sound_readFrom (.start f) hread).body
  dsimp only at hn
  split_ifs at hn
  cases hn
  exact hbody

end

end Guildhall.Pattern
