import Guildhall.Pattern.Program
import Guildhall.Text.Letters

/-!
Runs programs over texts. All ways to read the text advance together, one character at a time, in
the order of preference; of two that reach one state at one place only the preferred one goes on,
so a search takes time proportional to the text and the program.
-/

set_option autoImplicit false

namespace Guildhall.Pattern

open Text

/-- Whether a character belongs to a word. -/
def inWord (ascii : Bool) (c : Option Char) : Bool :=
  c.any fun c ↦ if ascii then c.isAlphanum || c == '_' else isWord c

/-- Whether the condition holds between the characters `before` and `after`. -/
def Look.holds (l : Look) (before after : Option Char) : Bool :=
  match l with
  | start => before.isNone
  | finish => after.isNone
  | lineStart false => before.all (· == '\n')
  | lineEnd false => after.all (· == '\n')
  | lineStart true =>
    before.all (· == '\n') || (before == some '\r' && after != some '\n')
  | lineEnd true =>
    after.all (· == '\r') || (after == some '\n' && before != some '\r')
  | boundary ascii => inWord ascii before != inWord ascii after
  | notBoundary ascii => inWord ascii before == inWord ascii after
  | wordStart ascii => !inWord ascii before && inWord ascii after
  | wordEnd ascii => inWord ascii before && !inWord ascii after
  | wordStartHalf ascii => !inWord ascii before
  | wordEndHalf ascii => !inWord ascii after

/-- The places that were remembered, the last one first. -/
abbrev Slots := List (Nat × Nat)

/-- A way to read the text so far: the state it waits in and the places that it remembered. -/
structure Thread where
  state : Nat
  slots : Slots
  deriving Repr

/-- Where the threads of one place come to wait: the states that were reached, as the bits of a
number, and the threads, the least preferred one first. -/
structure Frontier where
  reached : Nat := 0
  threads : List Thread := []
  deriving Repr

/-- Follows the states that read nothing from those on the stack, the first one first. A thread
waits where a character is read or where the program accepts. -/
def follow (p : Program) (place : Nat) (before after : Option Char) :
    Nat → List Thread → Frontier → Frontier
  | 0, _, f => f
  | _ + 1, [], f => f
  | fuel + 1, t :: stack, f =>
    if f.reached.testBit t.state then follow p place before after fuel stack f
    else
      let f := { f with reached := f.reached ||| (1 <<< t.state) }
      match p.states[t.state]? with
      | none => follow p place before after fuel stack f
      | some .accept | some (.read _ _) =>
        follow p place before after fuel stack { f with threads := t :: f.threads }
      | some (.test l next) =>
        let stack := if l.holds before after then ⟨next, t.slots⟩ :: stack else stack
        follow p place before after fuel stack f
      | some (.save slot next) =>
        follow p place before after fuel (⟨next, (slot, place) :: t.slots⟩ :: stack) f
      | some (.split first second) =>
        follow p place before after fuel (⟨first, t.slots⟩ :: ⟨second, t.slots⟩ :: stack) f

/-- Enough steps to follow every state once. -/
def Program.fuel (p : Program) : Nat := 2 * p.states.size + 2

/-- The threads that accept cut off the ones they are preferred to. Answers the threads that go
on reading, and the slots of the one that accepted. -/
def cutAtAccept (p : Program) : List Thread → List Thread × Option Slots
  | [] => ([], none)
  | t :: rest =>
    match p.states[t.state]? with
    | some .accept => ([], some t.slots)
    | _ =>
      let (going, found) := cutAtAccept p rest
      (t :: going, found)

/-- Lets the threads read a character, in their order. -/
def advance (p : Program) (place : Nat) (c : Char) (after : Option Char) (threads : List Thread) :
    Frontier :=
  threads.foldl (fun (f : Frontier) (t : Thread) ↦
    match p.states[t.state]? with
    | some (.read set next) =>
      if set.has c then follow p place (some c) after p.fuel [⟨next, t.slots⟩] f else f
    | _ => f) {}

/-- Searches from a place on, with the threads that wait there. As long as nothing has matched, a
new thread begins at every place, less preferred than those before it. -/
def searchFrom (p : Program) (place : Nat) (before : Option Char) (f : Frontier)
    (found : Option Slots) : List Char → Option Slots
  | [] =>
    let f := if found.isSome then f else follow p place before none p.fuel [⟨p.start, []⟩] f
    ((cutAtAccept p f.threads.reverse).2).or found
  | c :: rest =>
    let f := if found.isSome then f else follow p place before (some c) p.fuel [⟨p.start, []⟩] f
    let (going, accepted) := cutAtAccept p f.threads.reverse
    let found := accepted.or found
    if going.isEmpty && found.isSome then found
    else searchFrom p (place + 1) (some c) (advance p (place + 1) c rest.head? going) found rest

/-- The slots of the leftmost match, and of the preferred one among those. -/
def Program.search (p : Program) (s : List Char) : Option Slots :=
  searchFrom p 0 none {} none s

def Program.isMatch (p : Program) (s : List Char) : Bool := (p.search s).isSome

/-- The text between two places. -/
def between (s : List Char) (first last : Nat) : List Char := (s.drop first).take (last - first)

/-- What each group of the match read, the whole match first; nothing for a group that took no
part. -/
def Program.groups? (p : Program) (s : List Char) : Option (List (Option (List Char))) :=
  (p.search s).map fun slots ↦
    (List.range p.groups).map fun i ↦ do
      let first ← slots.lookup (2 * i)
      let last ← slots.lookup (2 * i + 1)
      some (between s first last)

end Guildhall.Pattern
