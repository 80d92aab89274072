import Guildhall.Pattern.Search

/-!
What patterns mean: the places of a text between which a node reads, and for nodes that ask nothing
of their places, the texts that they read wherever these stand. The meaning leaves open how the text
is searched and which of several readings is preferred.
-/

set_option autoImplicit false

namespace Guildhall.Pattern

/-- Whether `count` steps lead from one place to another. -/
def Repeats (step : Nat → Nat → Prop) : Nat → Nat → Nat → Prop
  | 0, first, last => first = last
  | count + 1, first, last => ∃ place, step first place ∧ Repeats step count place last

/-- Whether a condition holds at a place of a text. -/
def Look.HoldsAt (l : Look) (s : List Char) (place : Nat) : Prop :=
  l.holds (s.take place).getLast? (s.drop place).head? = true

namespace Node

/-- Whether a node reads the text from one place to another. -/
def Reads (s : List Char) : Node → Nat → Nat → Prop
  | empty, first, last => first = last
  | one set, first, last => (∃ c, s[first]? = some c ∧ set.has c = true) ∧ last = first + 1
  | look l, first, last => l.HoldsAt s first ∧ first = last
  | loop min max _ body, first, last =>
    ∃ count, min ≤ count ∧ (∀ most ∈ max, count ≤ most) ∧ Repeats (Reads s body) count first last
  | group _ body, first, last => Reads s body first last
  | cat a b, first, last => ∃ place, Reads s a first place ∧ Reads s b place last
  | alt a b, first, last => Reads s a first last ∨ Reads s b first last

/-- Whether a node can read the whole of a text. -/
def Matches (n : Node) (s : List Char) : Prop := n.Reads s 0 s.length

/-- Whether a node asks nothing of the places between which it reads. -/
def LookFree : Node → Prop
  | empty | one _ => True
  | look _ => False
  | loop _ _ _ body | group _ body => body.LookFree
  | cat a b | alt a b => a.LookFree ∧ b.LookFree

/-- Whether a node without looks reads a text, wherever it stands. -/
def Spells : Node → List Char → Prop
  | empty, w => w = []
  | one set, w => ∃ c, w = [c] ∧ set.has c = true
  | look _, _ => False
  | loop min max _ body, w =>
    ∃ ws : List (List Char), min ≤ ws.length ∧ (∀ most ∈ max, ws.length ≤ most) ∧
      (∀ v ∈ ws, Spells body v) ∧ w = ws.flatten
  | group _ body, w => Spells body w
  | cat a b, w => ∃ u v, Spells a u ∧ Spells b v ∧ w = u ++ v
  | alt a b, w => Spells a w ∨ Spells b w

/-- The numbers of the groups of a node. -/
def groupIndices : Node → List Nat
  | empty | one _ | look _ => []
  | loop _ _ _ body => body.groupIndices
  | group index body => index :: body.groupIndices
  | cat a b | alt a b => a.groupIndices ++ b.groupIndices

/-- Whether no loop has a bound below its least number of rounds. -/
def LoopsAgree : Node → Prop
  | empty | one _ | look _ => True
  | loop min max _ body => (∀ most ∈ max, min ≤ most) ∧ body.LoopsAgree
  | group _ body => body.LoopsAgree
  | cat a b | alt a b => a.LoopsAgree ∧ b.LoopsAgree

/-- What two nodes one after the other keep holds of any number of them. -/
theorem concat_induction {P : Node → Prop} (hempty : P empty)
    (hcat : ∀ a b, P a → P b → P (cat a b)) {ns : List Node} (h : ∀ n ∈ ns, P n) :
    P (concat ns) := by
  induction ns with
  | nil => exact hempty
  | cons n ns ih =>
    obtain ⟨hn, hns⟩ := List.forall_mem_cons.mp h
    cases ns with
    | nil => exact hn
    | cons m ns => exact hcat _ _ hn (ih hns)

end Node

end Guildhall.Pattern
