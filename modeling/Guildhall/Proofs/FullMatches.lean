import Guildhall.Proofs.PatternPrograms
import Guildhall.Proofs.SoundPatterns
import Guildhall.Template.Placeholder

/-!
Definitions match in full. The shape of a pattern is compiled from a larger pattern that is
anchored at both ends (`Shape.ofPattern?`). Where the pattern is one on its own, what is read of
the larger one is the pattern between its anchors (`Pattern.Node.eq_anchored`), so that whatever
the definition handles the pattern matches from one end to the other. A pattern that is one only
within the larger one, as its parentheses reach past the paste, is not anchored by it: this is
exactly the case in which a definition handles what its pattern does not match
(`Shape.handles_whole_matches_iff`, `Shape.pasted_branch_is_not_anchored`).
-/

set_option autoImplicit false

namespace Guildhall

namespace Pattern

/-- The flags that a definition's pattern is read with: every character is any character. -/
def Flags.ofDefinition : Flags := { dotNewline := true }

/-- What stands before the pattern in the larger one. -/
def opening : List Char := "(?s)^(?:".toList

/-- The group that the pattern stands in, with what was read before it. -/
def pasteGroup : OpenGroup :=
  ⟨none, .ofDefinition, [], [.node (.look .start) 0, .flags]⟩

/-- A node between the anchors of both ends. -/
def Node.anchored (n : Node) : Node := .cat (.look .start) (.cat n (.look .finish))

/-! ### What is read -/

section

variable {s : List Char} {n m : Node}

theorem readFrom_opening (fuel : Nat) (s : List Char) :
    readFrom (fuel + 3) { flags := {} } (opening ++ s) =
      readFrom fuel (({ flags := .ofDefinition } : Reading).below pasteGroup) s := rfl

theorem readFrom_closing (fuel : Nat) {last : Reading} (hgroups : last.groups = [])
    (hrest : skipSpace last.flags s = closing) :
    (readFrom (fuel + 3) (last.below pasteGroup) s).map (·.body.1) =
      some last.body.1.anchored := by
  obtain ⟨groups, branches, pieces, flags, count, names⟩ := last
  obtain rfl : groups = [] := hgroups
  rw [readFrom, Reading.flags_below, hrest]
  rfl

/-- A pattern that is one on its own stands between the anchors of the larger one. -/
theorem Node.eq_anchored (hread : read? .ofDefinition s = some n)
    (hlarger : read? {} (opening ++ (s ++ closing)) = some m) : m = n.anchored := by
  obtain ⟨last, hlast, hn⟩ := Option.bind_eq_some_iff.mp hread
  obtain ⟨r, hr, hm⟩ := Option.bind_eq_some_iff.mp hlarger
  dsimp only at hn hm
  split_ifs at hn with hclosed
  split_ifs at hm with hclosed'
  rw [Option.some.injEq] at hn hm
  have hlength : (opening ++ (s ++ closing)).length + 1 = (s.length + 1 + 7) + 3 := by
    simp only [List.length_append]
    change 8 + (s.length + 2) + 1 = _
    omega
  rw [hlength, readFrom_opening] at hr
  obtain ⟨fuel, hfuel, rest, hend, heq⟩ := readFrom_below hlast (.append_closing s) 7
  rw [heq] at hr
  generalize hskip : skipSpace last.flags rest = tail at hend
  cases hend with
  | closing =>
    obtain ⟨fuel, rfl⟩ : ∃ k, fuel = k + 3 := ⟨fuel - 3, by omega⟩
    have hbody := readFrom_closing fuel (List.isEmpty_iff.mp hclosed.1) hskip
    rw [hr] at hbody
    rw [← hn, ← hm]
    exact Option.some.inj hbody
  | swallowed =>
    -- The group that the pattern stands in is still open.
    obtain ⟨fuel, rfl⟩ := Nat.exists_eq_succ_of_ne_zero (Nat.ne_zero_of_lt hfuel)
    rw [readFrom, Reading.flags_below, hskip] at hr
    obtain rfl := Option.some.inj hr
    simp [Reading.below] at hclosed'

/-! ### What is matched -/

theorem Repeats.preserves {step : Nat → Nat → Prop} {P : Nat → Prop}
    (hstep : ∀ first last, step first last → P first → P last) {count first last : Nat}
    (h : Repeats step count first last) (hfirst : P first) : P last := by
  induction count generalizing first with
  | zero =>
    obtain rfl : first = last := h
    exact hfirst
  | succ count ih =>
    obtain ⟨place, hone, h⟩ := h
    exact ih h (hstep _ _ hone hfirst)

/-- No node reads beyond the end of the text. -/
theorem Node.Reads.le_length {first last : Nat} (h : n.Reads s first last)
    (hfirst : first ≤ s.length) : last ≤ s.length := by
  induction n generalizing first last with
  | empty =>
    obtain rfl : first = last := h
    exact hfirst
  | one set =>
    obtain ⟨⟨c, hc, -⟩, rfl⟩ := h
    exact (List.getElem?_eq_some_iff.mp hc).1
  | look l =>
    obtain ⟨-, rfl⟩ := h
    exact hfirst
  | loop min max greedy body ih =>
    obtain ⟨count, -, -, h⟩ := h
    exact h.preserves (P := (· ≤ s.length)) (fun _ _ hone hle ↦ ih hone hle) hfirst
  | group index body ih => exact ih h hfirst
  | cat a b iha ihb =>
    obtain ⟨place, ha, hb⟩ := h
    exact ihb hb (iha ha hfirst)
  | alt a b iha ihb => exact h.elim (iha · hfirst) (ihb · hfirst)

/-- What reads between the anchors reads the whole text. -/
theorem Node.Reads.of_anchored {first last : Nat} (h : n.anchored.Reads s first last)
    (hfirst : first ≤ s.length) : first = 0 ∧ last = s.length ∧ n.Matches s := by
  obtain ⟨_, ⟨hstart, rfl⟩, last, hn, hfinish, rfl⟩ := h
  have hzero : first = 0 ∨ s = [] := by simpa [Look.HoldsAt, Look.holds] using hstart
  have hend : s.length ≤ last := by simpa [Look.HoldsAt, Look.holds] using hfinish
  have hle := hn.le_length hfirst
  obtain rfl : first = 0 := by
    rcases hzero with hzero | rfl
    · exact hzero
    · exact Nat.le_zero.mp hfirst
  obtain rfl := Nat.le_antisymm hle hend
  exact ⟨rfl, rfl, hn⟩

theorem between_self (s : List Char) : between s 0 s.length = s := by
  rw [between, List.drop_zero, Nat.sub_zero, List.take_length]

end

end Pattern

namespace Shape

open Pattern

variable {source : String} {shape : Shape}

theorem of_ofPattern? (hshape : ofPattern? source = some shape) :
    ∃ compiled m, shape = .pattern compiled ∧
      Node.read? {} (opening ++ (source.toList ++ closing)) = some m ∧
      Program.ofNode? m = some compiled.program := by
  obtain ⟨compiled, hcompiled, rfl⟩ := Option.map_eq_some_iff.mp hshape
  obtain ⟨m, hm, hcompiled⟩ := Option.bind_eq_some_iff.mp hcompiled
  obtain ⟨program, hprogram, rfl⟩ := Option.map_eq_some_iff.mp hcompiled
  rw [String.toList_append, String.toList_append, List.append_assoc] at hm
  exact ⟨_, m, rfl, hm, hprogram⟩

/-- Where the pattern is one on its own, the text is matched in full. -/
theorem matches_of_parts? (hshape : ofPattern? source = some shape) {n : Node}
    (hread : Node.read? .ofDefinition source.toList = some n) {s : List Char} {parts : Parts}
    (hparts : shape.parts? s = some parts) : n.Matches s ∧ parts.head? = some (some s) := by
  obtain ⟨compiled, m, rfl, hlarger, hprogram⟩ := of_ofPattern? hshape
  have hsound := Node.sound_of_read? hlarger
  obtain ⟨first, hfirst, last, hreads, hwhole⟩ :=
    Program.reads_of_groups? hsound.loops hsound.groups hprogram hparts
  obtain rfl := Node.eq_anchored hread hlarger
  obtain ⟨rfl, rfl, hmatches⟩ := hreads.of_anchored hfirst
  rw [between_self] at hwhole
  exact ⟨hmatches, hwhole⟩

theorem isSome_evaluate?_iff (defn : Definition) (ctx : TemplateContext) (s : List Char)
    (d : Draws) : (Definitions.evaluate? [defn] ctx s d).isSome ↔
      ∃ parts, defn.shape.parts? s = some parts := by
  simp [Definitions.evaluate?, Option.isSome_iff_exists]

/-- A definition handles only what its pattern matches in full exactly if the pattern is one on its
own or the definition handles nothing at all. -/
theorem handles_whole_matches_iff {defn : Definition}
    (hshape : ofPattern? source = some defn.shape) (ctx : TemplateContext) (d : Draws) :
    (∀ s, (Definitions.evaluate? [defn] ctx s d).isSome →
      ∃ n, Node.read? .ofDefinition source.toList = some n ∧ n.Matches s ∧
        ∃ parts, defn.shape.parts? s = some parts ∧ parts.head? = some (some s)) ↔
      (Node.read? .ofDefinition source.toList).isSome ∨ ∀ s, defn.shape.parts? s = none := by
  constructor
  · intro hfull
    by_contra hneither
    obtain ⟨hread, hsome⟩ := not_or.mp hneither
    obtain ⟨s, hs⟩ := not_forall.mp hsome
    have hhandled := (isSome_evaluate?_iff defn ctx s d).mpr (Option.ne_none_iff_exists'.mp hs)
    obtain ⟨n, hn, -⟩ := hfull s hhandled
    exact hread (by rw [hn]; rfl)
  · rintro (hread | hnone) s hs
    · obtain ⟨n, hn⟩ := Option.isSome_iff_exists.mp hread
      obtain ⟨parts, hparts⟩ := (isSome_evaluate?_iff defn ctx s d).mp hs
      obtain ⟨hmatches, hwhole⟩ := matches_of_parts? hshape hn hparts
      exact ⟨n, hn, hmatches, parts, hparts, hwhole⟩
    · obtain ⟨parts, hparts⟩ := (isSome_evaluate?_iff defn ctx s d).mp hs
      rw [hnone s] at hparts
      cases hparts

/-- The parentheses of a pattern may reach past the paste: of this one only the first branch is
anchored at the beginning and only the last one at the end. -/
theorem pasted_branch_is_not_anchored :
    Node.read? .ofDefinition "a)|(?:b".toList = none ∧
      ∃ shape, ofPattern? "a)|(?:b" = some shape ∧
        ∀ handler ctx d,
          (Definitions.evaluate? [⟨"first", "", "", shape, handler⟩] ctx "ax".toList d).isSome ∧
            shape.parts? "ax".toList = some [some ['a']] := by
  have hparts : ((ofPattern? "a)|(?:b").bind (·.parts? "ax".toList)) = some [some ['a']] := by
    decide +kernel
  obtain ⟨shape, hshape, hparts⟩ := Option.bind_eq_some_iff.mp hparts
  refine ⟨by decide +kernel, shape, hshape, fun handler ctx d ↦ ⟨?_, hparts⟩⟩
  exact (isSome_evaluate?_iff _ ctx _ d).mpr ⟨_, hparts⟩

/-- Both branches of a pattern that is one on its own are anchored. -/
theorem handles_whole_matches_iff_branches :
    ∃ shape, ofPattern? "a|b" = some shape ∧ (shape.parts? "b".toList).isSome ∧
      ∀ handler ctx s d,
        (Definitions.evaluate? [⟨"first", "", "", shape, handler⟩] ctx s d).isSome →
          ∃ n, Node.read? .ofDefinition "a|b".toList = some n ∧ n.Matches s ∧
            ∃ parts, shape.parts? s = some parts ∧ parts.head? = some (some s) := by
  have hparts : ((ofPattern? "a|b").bind (·.parts? "b".toList)) = some [some ['b']] := by
    decide +kernel
  obtain ⟨shape, hshape, hparts⟩ := Option.bind_eq_some_iff.mp hparts
  refine ⟨shape, hshape, by rw [hparts]; rfl, fun handler ctx s d ↦ ?_⟩
  let defn : Definition := ⟨"first", "", "", shape, handler⟩
  have hdefn : ofPattern? "a|b" = some defn.shape := hshape
  have hread : (Node.read? .ofDefinition "a|b".toList).isSome := by decide +kernel
  exact (handles_whole_matches_iff hdefn ctx d).mpr (.inl hread) s

end Shape

end Guildhall
