import Guildhall.Pattern.Node

/-!
Patterns as programs: a numbered list of states, each of which reads one character, tests its
place, remembers its place, or goes on to two states of which the first is preferred. Programs
that would need too much room are refused before they are built.
-/

set_option autoImplicit false

namespace Guildhall.Pattern

inductive State where
  | accept
  | read (set : Charset) (next : Nat)
  | test (look : Look) (next : Nat)
  /-- Remembers the place in the slot: a group has a slot for each of its ends. -/
  | save (slot next : Nat)
  | split (first second : Nat)
  deriving Repr, DecidableEq, Inhabited

/-- States by number, and the number of the state to begin with. -/
structure Program where
  states : Array State
  start : Nat
  groups : Nat
  deriving Repr

namespace Program

/-- Adds a state; answers its number. -/
def add (states : Array State) (s : State) : Nat × Array State :=
  (states.size, states.push s)

/-- A split that prefers the body if `greedy`. -/
def splitFor (greedy : Bool) (body exit : Nat) : State :=
  if greedy then .split body exit else .split exit body

/-- Adds `count` copies of what `build` adds, each going on to the one before. -/
def copies (build : Nat → Array State → Nat × Array State) :
    Nat → Nat → Array State → Nat × Array State
  | 0, next, states => (next, states)
  | count + 1, next, states =>
    let (next, states) := build next states
    copies build count next states

/-- Adds `count` copies, each of which may be left out with all that follow it. -/
def optionals (build : Nat → Array State → Nat × Array State) (greedy : Bool) (exit : Nat) :
    Nat → Nat → Array State → Nat × Array State
  | 0, next, states => (next, states)
  | count + 1, next, states =>
    let (body, states) := build next states
    let (next, states) := add states (splitFor greedy body exit)
    optionals build greedy exit count next states

/-- Adds a body that is followed by a choice between itself and `next`; answers the body and the
choice. -/
def again (build : Nat → Array State → Nat × Array State) (greedy : Bool) (next : Nat)
    (states : Array State) : Nat × Nat × Array State :=
  let choice := states.size
  let (body, states) := build choice (states.push .accept)
  (body, choice, states.set! choice (splitFor greedy body next))

/-- Adds the states of a node that go on to `next`; answers the first of them. -/
def build : Node → Nat → Array State → Nat × Array State
  | .empty, next, states => (next, states)
  | .one set, next, states => add states (.read set next)
  | .look l, next, states => add states (.test l next)
  | .group index body, next, states =>
    let (close, states) := add states (.save (2 * index + 1) next)
    let (first, states) := build body close states
    add states (.save (2 * index) first)
  | .cat a b, next, states =>
    let (second, states) := build b next states
    build a second states
  | .alt a b, next, states =>
    let (first, states) := build a next states
    let (second, states) := build b next states
    add states (.split first second)
  | .loop min (some max) greedy body, next, states =>
    let (rest, states) := optionals (build body) greedy next (max - min) next states
    copies (build body) min rest states
  | .loop 0 none greedy body, next, states =>
    let (first, choice, states) := again (build body) greedy next states
    if body.minLength.any (0 < ·) then (choice, states)
    else add states (splitFor greedy first next)
  | .loop (min + 1) none greedy body, next, states =>
    let (first, _, states) := again (build body) greedy next states
    copies (build body) min first states

/-! ### Room -/

/-- The most bytes that a program may take. -/
def roomLimit : Nat := 10 * Nat.pow 2 20

/-- The number of bytes that one state takes. -/
def stateRoom : Nat := 32

/-- The least code points whose encodings have one, two, three and four bytes, and the limit. -/
def encodingBounds : List (Nat × Nat) :=
  [(0, 0x7F), (0x80, 0x7FF), (0x800, 0xFFFF), (0x10000, 0x10FFFF)]

/-- An estimate of the room for the encodings of a set's characters: every range takes the states
of its two ends, one for each byte of the encoding. -/
def charsetRoom (set : Charset) : Nat :=
  if set.isAscii then 2 * stateRoom + 8 * set.length
  else
    2 * stateRoom + (encodingBounds.zipIdx.map fun (b, i) ↦
      let ranges := set.filter fun r ↦ r.1 ≤ b.2 && b.1 ≤ r.2
      (stateRoom + 4 + 16 * i) * ranges.length).foldl (· + ·) 0

/-- An estimate of the room that a node takes. -/
def room : Node → Nat
  | .empty => stateRoom
  | .one set =>
    match set with
    | [(a, b)] => if a = b then stateRoom * (String.singleton (Char.ofNat a)).utf8ByteSize
        else charsetRoom set
    | _ => charsetRoom set
  | .look _ => stateRoom
  | .group _ body => 2 * stateRoom + room body
  | .cat a b => room a + room b
  | .alt a b => room a + room b + 2 * stateRoom + 8
  | .loop min none _ body => (max min 1) * room body + 3 * stateRoom
  | .loop min (some max) _ body =>
    max * room body + (max - min) * (stateRoom + 8) + stateRoom

/-- The program of a pattern, unless it would take too much room. The whole match is the group
of number zero. -/
def ofNode? (n : Node) : Option Program :=
  let whole := Node.group 0 n
  if room whole ≤ roomLimit then
    let (start, states) := build whole 0 #[.accept]
    some { states, start, groups := n.groupCount + 1 }
  else none

end Program

end Guildhall.Pattern
