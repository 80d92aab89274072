import Guildhall.Yaml.Cursor

/-!
Scalars and the five forms in which they are written. Within quoted and plain scalars a line end
is read as a space and the blanks around it are dropped; of several line ends all but the first
are kept. Block scalars keep their lines, literally or folded in the same way.
-/

set_option autoImplicit false

namespace Guildhall.Yaml

inductive Style where
  | plain | singleQuoted | doubleQuoted | literal | folded
  deriving Repr, DecidableEq

/-- What stands between two words of a scalar: the blanks before the first line end, that line
end, and those after it. A line end that a backslash hides is no line end. -/
structure Gap where
  blanks : List Char := []
  first : Option Char := none
  more : List Char := []
  hidden : Bool := false
  deriving Repr, DecidableEq

namespace Gap

/-- Whether a line ended in the gap. -/
def endsLine (g : Gap) : Bool := g.hidden || g.first.isSome

def addBreak (g : Gap) (b : Char) : Gap :=
  if g.endsLine then { g with more := g.more ++ [b] } else { g with first := some b, blanks := [] }

/-- The characters that a gap stands for. -/
def text (g : Gap) : List Char :=
  match g.first with
  | none => g.blanks ++ g.more
  | some '\n' => if g.more.isEmpty then [' '] else g.more
  | some b => b :: g.more

/-- Reads on through a gap. In a line after the first no tab may stand before column `indent`. -/
def read? (indent : Nat) : Nat → Gap → Cursor → Option (Gap × Cursor)
  | 0, g, c => some (g, c)
  | fuel + 1, g, c =>
    if c.sees isBlank then
      if g.endsLine then
        if c.seesChar '\t' && c.column < indent then none else read? indent fuel g c.skip
      else read? indent fuel { g with blanks := g.blanks ++ c.rest.take 1 } c.skip
    else
      match c.takeBreak? with
      | some (b, c) => read? indent fuel (g.addBreak b) c
      | none => some (g, c)

end Gap

/-- The character that a letter after a backslash stands for. -/
def escapes : List (Char × Char) :=
  [('0', '\x00'), ('a', '\x07'), ('b', '\x08'), ('t', '\t'), ('\t', '\t'), ('n', '\n'),
    ('v', '\x0b'), ('f', '\x0c'), ('r', '\r'), ('e', '\x1b'), (' ', ' '), ('"', '"'), ('/', '/'),
    ('\\', '\\'), ('N', '\u0085'), ('_', '\u00a0'), ('L', '\u2028'), ('P', '\u2029')]

/-- The number of digits of the code point that follows a backslash and this letter. -/
def escapeWidth? : Char → Option Nat
  | 'x' => some 2
  | 'u' => some 4
  | 'U' => some 8
  | _ => none

def hexDigit? (c : Char) : Option Nat :=
  if '0' ≤ c && c ≤ '9' then some (c.toNat - '0'.toNat)
  else if 'a' ≤ c && c ≤ 'f' then some (c.toNat - 'a'.toNat + 10)
  else if 'A' ≤ c && c ≤ 'F' then some (c.toNat - 'A'.toNat + 10)
  else none

/-- The value of hexadecimal digits. -/
def hexValue? (s : List Char) : Option Nat :=
  s.foldlM (fun n c ↦ (hexDigit? c).map (16 * n + ·)) 0

/-- The character of a code point. -/
def charOfCode? (n : Nat) : Option Char := if n.isValidChar then some (Char.ofNat n) else none

/-- Reads what follows a backslash, a line end excepted. -/
def readEscape? (c : Cursor) : Option (Char × Cursor) := do
  let letter ← c.rest.head?
  match escapes.lookup letter with
  | some ch => some (ch, c.skip)
  | none =>
    let width ← escapeWidth? letter
    let digits := (c.rest.drop 1).take width
    if digits.length = width then
      let ch ← charOfCode? (← hexValue? digits)
      some (ch, (List.range (width + 1)).foldl (fun c _ ↦ c.skip) c)
    else none

/-- Reads a quoted scalar from after the opening quote; `text` is what was read before, last
character first. -/
def quotedFrom? (double : Bool) : Nat → List Char → Cursor → Option (List Char × Cursor)
  | 0, _, _ => none
  | fuel + 1, text, c =>
    let quote := if double then '"' else '\''
    match c.rest with
    | [] => none
    | ch :: _ =>
      if c.atDocumentMark then none
      else if !double && ch == '\'' && c.seesChar '\'' 1 then
        quotedFrom? double fuel ('\'' :: text) c.skip.skip
      else if ch == quote then some (text, c.skip)
      else if double && ch == '\\' then
        match c.skip.takeBreak? with
        | some (_, c) => do
          let (gap, c) ← Gap.read? 0 c.rest.length { hidden := true } c
          quotedFrom? double fuel (gap.text.reverse ++ text) c
        | none => do
          let (e, c) ← readEscape? c.skip
          quotedFrom? double fuel (e :: text) c
      else if isBlank ch || isBreak ch then do
        let (gap, c) ← Gap.read? 0 c.rest.length {} c
        quotedFrom? double fuel (gap.text.reverse ++ text) c
      else quotedFrom? double fuel (ch :: text) c.skip

/-- Reads a quoted scalar from its opening quote. -/
def readQuoted? (double : Bool) (c : Cursor) : Option (String × Cursor) :=
  (quotedFrom? double (c.rest.length + 1) [] c.skip).map fun r ↦ (String.ofList r.1.reverse, r.2)

/-- The characters that delimit flow collections. -/
def isFlowMark (c : Char) : Bool := c == ',' || c == '[' || c == ']' || c == '\x7b' || c == '\x7d'

/-- Whether a plain scalar ends here; nothing where a colon stands that cannot stand there. -/
def endsPlain? (inFlow : Bool) (c : Cursor) : Option Bool :=
  if inFlow && c.seesChar ':' && c.sees (fun ch ↦ isFlowMark ch || ch == '?') 1 then none
  else some (c.atEnd || (c.seesChar ':' && c.seesGap 1) || (inFlow && c.sees isFlowMark))

/-- Reads a plain scalar on; its further lines begin at column `indent` at least, unless it is
within a flow collection. Answers also whether the last gap ended a line. -/
def plainFrom? (inFlow : Bool) (indent : Nat) :
    Nat → List Char → Cursor → Option (List Char × Cursor × Bool)
  | 0, text, c => some (text, c, false)
  | fuel + 1, text, c =>
    if c.sees fun ch ↦ isBlank ch || isBreak ch then do
      let (gap, c) ← Gap.read? indent c.rest.length {} c
      if (!inFlow && c.column < indent) || c.atDocumentMark || c.seesChar '#' then
        some (text, c, gap.endsLine)
      else if ← endsPlain? inFlow c then some (text, c, gap.endsLine)
      else plainFrom? inFlow indent fuel (gap.text.reverse ++ text) c
    else do
      if ← endsPlain? inFlow c then some (text, c, false)
      else plainFrom? inFlow indent fuel (c.rest.take 1 ++ text) c.skip

def readPlain? (inFlow : Bool) (indent : Nat) (c : Cursor) : Option (String × Cursor × Bool) :=
  (plainFrom? inFlow indent (c.rest.length + 1) [] c).map fun r ↦ (String.ofList r.1.reverse, r.2)

/-- What becomes of the line ends at the end of a block scalar. -/
inductive Chomping where
  | strip | clip | keep
  deriving Repr, DecidableEq

def chomping? (c : Cursor) : Option Chomping :=
  if c.seesChar '+' then some .keep else if c.seesChar '-' then some .strip else none

/-- Reads a digit of indentation, which is not zero. -/
def increment? (c : Cursor) : Option (Option Nat × Cursor) :=
  match c.rest with
  | ch :: _ =>
    if ch == '0' then none
    else if '1' ≤ ch && ch ≤ '9' then some (some (ch.toNat - '0'.toNat), c.skip)
    else some (none, c)
  | [] => some (none, c)

/-- Reads the indicators after the mark of a block scalar, in either order. -/
def blockHeader? (c : Cursor) : Option (Chomping × Option Nat × Cursor) :=
  match chomping? c with
  | some chomping => do
    let (increment, c) ← increment? c.skip
    some (chomping, increment, c)
  | none => do
    let (increment, c) ← increment? c
    match increment, chomping? c with
    | some _, some chomping => some (chomping, increment, c.skip)
    | _, _ => some (.clip, increment, c)

/-- Passes indentation and empty lines. While the indentation is not known, every space counts as
indentation; `deepest` is the greatest column reached. -/
def emptyLines? (indent : Option Nat) :
    Nat → Nat → List Char → Cursor → Option (List Char × Nat × Cursor)
  | 0, deepest, breaks, c => some (breaks, deepest, c)
  | fuel + 1, deepest, breaks, c =>
    let width := (c.rest.takeWhile (· == ' ')).length
    let n := match indent with
      | none => width
      | some indent => min width (indent - c.column)
    let c := { c with rest := c.rest.drop n, index := c.index + n, column := c.column + n }
    let deepest := max deepest c.column
    if indent.all (c.column < ·) && c.seesChar '\t' then none
    else
      match c.takeBreak? with
      | some (b, c) => emptyLines? indent fuel deepest (breaks ++ [b]) c
      | none => some (breaks, deepest, c)

/-- The lines of a block scalar that were read: the text, last character first, the end of its
last line, the empty lines after that, and whether its last line began with a blank. -/
structure BlockLines where
  text : List Char := []
  lineEnd : List Char := []
  empty : List Char := []
  blankStart : Bool := false

/-- Reads the lines of a block scalar that begin at column `indent`. -/
def blockLines? (literal : Bool) (indent : Nat) :
    Nat → BlockLines → Cursor → Option (BlockLines × Cursor)
  | 0, b, c => some (b, c)
  | fuel + 1, b, c =>
    if c.column ≠ indent || c.atEnd then some (b, c)
    else do
      let blankStart := c.sees isBlank
      let joint :=
        if !literal && b.lineEnd = ['\n'] && !b.blankStart && !blankStart then
          if b.empty.isEmpty then [' '] else b.empty
        else b.lineEnd ++ b.empty
      let (line, c) := c.takeWhile (!isBreak ·)
      let (lineEnd, c) := match c.takeBreak? with
        | some (e, c) => ([e], c)
        | none => ([], c)
      let (empty, _, c) ← emptyLines? (some indent) (c.rest.length + 1) 0 [] c
      blockLines? literal indent fuel
        { text := line.reverse ++ joint.reverse ++ b.text, lineEnd, empty, blankStart } c

/-- Reads a block scalar from its mark; `parent` is the column of the collection it stands in. -/
def readBlock? (literal : Bool) (parent : Int) (c : Cursor) : Option (String × Cursor) := do
  let (chomping, increment, c) ← blockHeader? c.skip
  let c ← c.finishLine?
  let given := increment.map fun n ↦ if 0 ≤ parent then parent.toNat + n else n
  let (empty, deepest, c) ← emptyLines? given (c.rest.length + 1) 0 [] c
  let indent := given.getD (max deepest (max (parent + 1).toNat 1))
  let (b, c) ← blockLines? literal indent (c.rest.length + 1) { empty } c
  let tail := match chomping with
    | .strip => []
    | .clip => b.lineEnd
    | .keep => b.lineEnd ++ b.empty
  some (String.ofList (b.text.reverse ++ tail), c)

end Guildhall.Yaml
