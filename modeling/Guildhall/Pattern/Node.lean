import Guildhall.Pattern.Charset

/-!
Patterns as trees. A node reads text from left to right; where several readings are possible
their order says which is preferred.
-/

set_option autoImplicit false

namespace Guildhall.Pattern

/-- Conditions on the two neighbours of a place in a text. Words are those of all scripts or, with
`ascii`, of ASCII alone. -/
inductive Look where
  | start | finish
  | lineStart (crlf : Bool) | lineEnd (crlf : Bool)
  | boundary (ascii : Bool) | notBoundary (ascii : Bool)
  | wordStart (ascii : Bool) | wordEnd (ascii : Bool)
  | wordStartHalf (ascii : Bool) | wordEndHalf (ascii : Bool)
  deriving Repr, DecidableEq

inductive Node where
  | empty
  /-- One character of the set. -/
  | one (set : Charset)
  | look (look : Look)
  /-- At least `min` and at most `max` times, as often as possible or, if not `greedy`, as
  seldom. -/
  | loop (min : Nat) (max : Option Nat) (greedy : Bool) (body : Node)
  /-- Remembers what `body` reads as the group of this number. -/
  | group (index : Nat) (body : Node)
  | cat (first second : Node)
  /-- Either of two, the first preferred. -/
  | alt (first second : Node)
  deriving Repr, DecidableEq, Inhabited

namespace Node

/-- The least number of characters that a node reads; nothing if it reads no text at all. -/
def minLength : Node → Option Nat
  | empty | look _ => some 0
  | one set => if set.isVoid then none else some 1
  | loop min _ _ body => body.minLength.map (min * ·)
  | group _ body => body.minLength
  | cat first second => do return (← first.minLength) + (← second.minLength)
  | alt first second => do return min (← first.minLength) (← second.minLength)

/-- Whether a node reads nothing but the empty text. -/
def onlyEmpty : Node → Bool
  | empty | look _ => true
  | one _ => false
  | loop _ max _ body => max == some 0 || body.onlyEmpty
  | group _ body => body.onlyEmpty
  | cat first second | alt first second => first.onlyEmpty && second.onlyEmpty

/-- A loop, or a simpler node that reads the same. A body that reads only the empty text is not
read twice. -/
def mkLoop (min : Nat) (max : Option Nat) (greedy : Bool) (body : Node) : Node :=
  let (min, max) :=
    if body.onlyEmpty then (Nat.min min 1, some ((max.map (Nat.min · 1)).getD 1)) else (min, max)
  if max = some 0 then empty
  else if min = 1 ∧ max = some 1 then body
  else loop min max greedy body

/-- The nodes in their order, one after the other. -/
def concat : List Node → Node
  | [] => empty
  | [n] => n
  | n :: ns => cat n (concat ns)

/-- Any of the nodes, earlier ones preferred. -/
def choice : List Node → Node
  | [] => empty
  | [n] => n
  | n :: ns => alt n (choice ns)

/-- The greatest number of a group, zero if there is none. -/
def groupCount : Node → Nat
  | empty | one _ | look _ => 0
  | loop _ _ _ body => body.groupCount
  | group index body => max index body.groupCount
  | cat first second | alt first second => max first.groupCount second.groupCount

end Node

end Guildhall.Pattern
