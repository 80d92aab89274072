import Guildhall.Pattern.Fold
import Guildhall.Pattern.Node
import Guildhall.Pattern.Property
import Guildhall.Text.Letters
import Guildhall.Text.Blank
import Guildhall.Text.Number

/-!
Reads patterns. The reader goes through the text once, with the groups that are open on a stack,
and answers nothing for a text that is no pattern: operators without an operand, groups and
classes that are not closed, escapes and flags that do not exist, looking around and references
back, and whatever could match part of a character.
-/

set_option autoImplicit false

namespace Guildhall.Pattern

open Text

/-- The switches that a pattern sets for a group or for the rest of one. -/
structure Flags where
  ignoreCase : Bool := false
  multiLine : Bool := false
  dotNewline : Bool := false
  swapGreed : Bool := false
  crlf : Bool := false
  unicode : Bool := true
  ignoreSpace : Bool := false
  deriving Repr, DecidableEq

namespace Flags

def set? (f : Flags) (c : Char) (on : Bool) : Option Flags :=
  match c with
  | 'i' => some { f with ignoreCase := on }
  | 'm' => some { f with multiLine := on }
  | 's' => some { f with dotNewline := on }
  | 'U' => some { f with swapGreed := on }
  | 'R' => some { f with crlf := on }
  | 'u' => some { f with unicode := on }
  | 'x' => some { f with ignoreSpace := on }
  | _ => none

/-- Reads flags up to `:` or `)`. No flag is named twice, and a minus sign, of which there is at
most one, is followed by a flag. Answers the closing character and whether there were flags. -/
def read (f : Flags) (seen : List Char) : List Char → Option (Flags × Char × Bool × List Char)
  | [] => none
  | c :: s =>
    if c = ':' ∨ c = ')' then
      if seen.head? = some '-' then none else some (f, c, !seen.isEmpty, s)
    else if seen.contains c then none
    else if c = '-' then read f ('-' :: seen) s
    else
      match f.set? c (!seen.contains '-') with
      | some f => read f (c :: seen) s
      | none => none

end Flags

/-! ### Blanks and comments -/

/-- Drops a comment, up to the end of its line. -/
def skipComment : List Char → List Char
  | [] => []
  | c :: s => if c = '\n' then s else skipComment s

theorem length_skipComment (s : List Char) : (skipComment s).length ≤ s.length := by
  induction s with
  | nil => simp [skipComment]
  | cons c s ih =>
    simp only [skipComment, List.length_cons]
    split <;> omega

/-- Drops blanks and comments where the flags say that they do not count. -/
def skipSpace (f : Flags) (s : List Char) : List Char :=
  if f.ignoreSpace then go s else s
where
  go : List Char → List Char
  | [] => []
  | c :: s =>
    if isBlank c then go s
    else if c = '#' then go (skipComment s)
    else c :: s
  termination_by s => s.length
  decreasing_by
    · simp
    · have := length_skipComment s
      simp only [List.length_cons]
      omega

/-- The first character that is neither blank nor the sign of a comment, after the present one. -/
def peekSpace (f : Flags) (s : List Char) : Option Char :=
  if f.ignoreSpace then go false s.tail else s.tail.head?
where
  go (comment : Bool) : List Char → Option Char
  | [] => s.tail.head?
  | c :: rest =>
    if isBlank c then go comment rest
    else if c = '#' ∧ !comment then go true rest
    else some c

/-! ### Escapes -/

/-- What stands for one character or for a class of them. -/
inductive Atom where
  /-- `byte` holds where the character was written as a byte. -/
  | char (c : Char) (byte : Bool)
  | dot
  | look (l : Look)
  | digit (negated : Bool) | space (negated : Bool) | word (negated : Bool)
  | property (query : PropertyQuery) (negated : Bool)

def metaCharacters : List Char :=
  ['\\', '.', '+', '*', '?', '(', ')', '|', '[', ']', '\x7b', '\x7d', '^', '$', '#', '&', '-', '~']

/-- ASCII characters that are neither letters nor digits may be escaped to no effect. -/
def isEscapable (c : Char) : Bool :=
  metaCharacters.contains c ||
    (c.toNat < 128 && !c.isAlphanum && c != '<' && c != '>')

def hexValue? (c : Char) : Option Nat :=
  if '0' ≤ c ∧ c ≤ '9' then some (c.toNat - 0x30)
  else if 'a' ≤ c ∧ c ≤ 'f' then some (c.toNat - 0x61 + 10)
  else if 'A' ≤ c ∧ c ≤ 'F' then some (c.toNat - 0x41 + 10)
  else none

/-- The character of a code point. -/
def charOfCode? (n : Nat) : Option Char :=
  if n.isValidChar then some (Char.ofNat n) else none

/-- Reads `count` hexadecimal digits, between which blanks may be skipped. -/
def hexDigits? (f : Flags) : Nat → Nat → List Char → Option (Nat × List Char)
  | 0, value, s => some (value, s)
  | count + 1, value, s => do
    let c ← s.head?
    let d ← hexValue? c
    hexDigits? f count (16 * value + d) (skipSpace f s.tail)

/-- Reads the hexadecimal digits up to a closing brace; the brace itself is still to come. -/
def hexBraced? (f : Flags) : Nat → Nat → Nat → List Char → Option (Nat × Nat × List Char)
  | 0, _, _, _ => none
  | fuel + 1, count, value, s => do
    let c ← s.head?
    if c = '\x7d' then some (count, value, s)
    else
      let d ← hexValue? c
      hexBraced? f fuel (count + 1) (16 * value + d) (skipSpace f s.tail)

/-- Reads a code point in hexadecimal, after the letter that announces it. -/
def hexEscape? (f : Flags) (kind : Char) (s : List Char) : Option (Atom × List Char) := do
  let s := skipSpace f s
  if (← s.head?) = '\x7b' then
    let (count, value, s) ← hexBraced? f s.length 0 0 (skipSpace f s.tail)
    if count = 0 then none
    else
      let c ← charOfCode? value
      some (.char c false, skipSpace f s.tail)
  else
    let count := if kind = 'x' then 2 else if kind = 'u' then 4 else 8
    let (value, s) ← hexDigits? f count 0 s
    let c ← charOfCode? value
    some (.char c (kind = 'x'), s)

/-- The text before the first occurrence of `mark`, and the text after it. -/
def cutAt? (mark : List Char) : List Char → Option (List Char × List Char)
  | [] => none
  | c :: s =>
    if mark.isPrefixOf (c :: s) then some ([], (c :: s).drop mark.length)
    else (cutAt? mark s).map fun p ↦ (c :: p.1, p.2)

/-- Collects a class name up to the closing brace. -/
def propertyName? (f : Flags) : Nat → List Char → Option (List Char × List Char)
  | 0, _ => none
  | fuel + 1, s => do
    let c ← s.head?
    if c = '\x7d' then some ([], s.tail)
    else
      let (name, rest) ← propertyName? f fuel (skipSpace f s.tail)
      some (c :: name, rest)

/-- Reads a named class, after the letter that announces it. -/
def propertyEscape? (f : Flags) (negated : Bool) (s : List Char) :
    Option (Atom × List Char) := do
  let s := skipSpace f s
  let c ← s.head?
  if c = '\x7b' then
    let (name, s) ← propertyName? f s.length (skipSpace f s.tail)
    let valued (p : List Char × List Char) : PropertyQuery :=
      .valued (String.ofList p.1) (String.ofList p.2)
    match cutAt? ['!', '='] name with
    | some p => some (.property (valued p) (!negated), s)
    | none =>
      match (cutAt? [':'] name).or (cutAt? ['='] name) with
      | some p => some (.property (valued p) negated, s)
      | none => some (.property (.named (String.ofList name)) negated, s)
  else if c = '\\' then none
  else some (.property (.named (String.singleton c)) negated, skipSpace f s.tail)

/-- Collects the letters of a word boundary's name, blanks skipped between them. -/
def boundaryName (f : Flags) : Nat → List Char → List Char × List Char
  | 0, s => ([], s)
  | _ + 1, [] => ([], [])
  | fuel + 1, c :: s =>
    if c.isAlpha || c == '-' then
      let (name, rest) := boundaryName f fuel (skipSpace f s)
      (c :: name, rest)
    else ([], c :: s)

/-- Reads what follows `\b`: the name of a special boundary, or nothing of the kind. -/
def boundaryEscape? (f : Flags) (s : List Char) : Option (Look × List Char) := do
  let ascii := !f.unicode
  if s.head? = some '\x7b' then
    let inner := skipSpace f s.tail
    let c ← inner.head?
    if c.isAlpha || c == '-' then
      let (name, rest) := boundaryName f inner.length inner
      if rest.head? = some '\x7d' then
        let look ← match String.ofList name with
          | "start" => some (.wordStart ascii)
          | "end" => some (.wordEnd ascii)
          | "start-half" => some (.wordStartHalf ascii)
          | "end-half" => some (.wordEndHalf ascii)
          | _ => none
        some (look, rest.tail)
      else none
    else some (.boundary ascii, s)
  else some (.boundary ascii, s)

/-- Reads an escape, after the backslash. -/
def escape? (f : Flags) (s : List Char) : Option (Atom × List Char) := do
  let c ← s.head?
  let rest := s.tail
  let ascii := !f.unicode
  if c = 'x' ∨ c = 'u' ∨ c = 'U' then hexEscape? f c rest
  else if c = 'p' ∨ c = 'P' then propertyEscape? f (c = 'P') rest
  else if isEscapable c then some (.char c false, rest)
  else
    match c with
    | 'd' => some (.digit false, rest)
    | 'D' => some (.digit true, rest)
    | 's' => some (.space false, rest)
    | 'S' => some (.space true, rest)
    | 'w' => some (.word false, rest)
    | 'W' => some (.word true, rest)
    | 'a' => some (.char '\x07' false, rest)
    | 'f' => some (.char '\x0c' false, rest)
    | 't' => some (.char '\t' false, rest)
    | 'n' => some (.char '\n' false, rest)
    | 'r' => some (.char '\r' false, rest)
    | 'v' => some (.char '\x0b' false, rest)
    | 'A' => some (.look .start, rest)
    | 'z' => some (.look .finish, rest)
    | 'b' => do
      let (look, rest) ← boundaryEscape? f rest
      some (.look look, rest)
    | 'B' => some (.look (.notBoundary ascii), rest)
    | '<' => some (.look (.wordStart ascii), rest)
    | '>' => some (.look (.wordEnd ascii), rest)
    | _ => none

/-! ### Characters and classes -/

/-- Closes a set under case if the flags say so and complements it if it is negated. Without
Unicode a set of bytes has to stay within ASCII. -/
def foldAndNegate (f : Flags) (negated : Bool) (s : Charset) : Option Charset :=
  if f.unicode then
    let s := if f.ignoreCase then s.closeUnderCase else s
    some (if negated then s.complement Charset.maxCode else s)
  else
    let s := if f.ignoreCase then s.closeUnderAsciiCase else s
    let s := if negated then s.complement 0xFF else s
    if s.isAscii then some s else none

/-- One of the three short classes. They are closed under case as they are. -/
def shortClass (f : Flags) (all ascii : Charset) (negated : Bool) : Option Charset :=
  foldAndNegate { f with ignoreCase := false } negated (if f.unicode then all else ascii)

def asciiDigits : Charset := [(0x30, 0x39)]

def asciiSpaces : Charset := [(0x09, 0x0D), (0x20, 0x20)]

def asciiWords : Charset := [(0x30, 0x39), (0x41, 0x5A), (0x5F, 0x5F), (0x61, 0x7A)]

/-- The blank characters as ranges. -/
def blanks : Charset :=
  [(0x09, 0x0D), (0x20, 0x20), (0x85, 0x85), (0xA0, 0xA0), (0x1680, 0x1680), (0x2000, 0x200A),
    (0x2028, 0x2029), (0x202F, 0x202F), (0x205F, 0x205F), (0x3000, 0x3000)]

/-- The characters of a class that is no bracketed one. -/
def Atom.class? (f : Flags) : Atom → Option Charset
  | digit negated => shortClass f decimalDigits asciiDigits negated
  | space negated => shortClass f blanks asciiSpaces negated
  | word negated => shortClass f wordCharacters asciiWords negated
  | property query negated => do
    if f.unicode then foldAndNegate f negated (← query.characters?) else none
  | char _ _ | dot | look _ => none

/-- A character written as itself or by its code point. -/
def charNode? (f : Flags) (c : Char) (byte : Bool) : Option Node :=
  if f.unicode then
    some (.one (if f.ignoreCase then .ofCodeFolded c.toNat else .single c))
  else if byte ∧ 128 ≤ c.toNat then none
  else some (.one (if f.ignoreCase then (Charset.single c).closeUnderAsciiCase else .single c))

/-- Any character, line feeds excepted unless the flags include them. -/
def dotNode? (f : Flags) : Option Node :=
  if !f.unicode then none
  else
    let excepted : Charset :=
      if f.dotNewline then []
      else if f.crlf then [(0x0A, 0x0A), (0x0D, 0x0D)]
      else [(0x0A, 0x0A)]
    some (.one (excepted.complement Charset.maxCode))

def Atom.node? (f : Flags) (a : Atom) : Option Node :=
  match a with
  | char c byte => charNode? f c byte
  | dot => dotNode? f
  | look l => some (.look l)
  | digit _ | space _ | word _ | property _ _ => (a.class? f).map .one

/-- The classes that POSIX names. -/
def posixClass? (name : String) : Option Charset :=
  match name with
  | "alnum" => some [(0x30, 0x39), (0x41, 0x5A), (0x61, 0x7A)]
  | "alpha" => some [(0x41, 0x5A), (0x61, 0x7A)]
  | "ascii" => some [(0x00, 0x7F)]
  | "blank" => some [(0x09, 0x09), (0x20, 0x20)]
  | "cntrl" => some [(0x00, 0x1F), (0x7F, 0x7F)]
  | "digit" => some asciiDigits
  | "graph" => some [(0x21, 0x7E)]
  | "lower" => some [(0x61, 0x7A)]
  | "print" => some [(0x20, 0x7E)]
  | "punct" => some [(0x21, 0x2F), (0x3A, 0x40), (0x5B, 0x60), (0x7B, 0x7E)]
  | "space" => some asciiSpaces
  | "upper" => some [(0x41, 0x5A)]
  | "word" => some asciiWords
  | "xdigit" => some [(0x30, 0x39), (0x41, 0x46), (0x61, 0x66)]
  | _ => none

/-- Reads `[:name:]`, which may be negated. The name goes up to the next colon. -/
def posix? (f : Flags) (s : List Char) : Option (Option Charset × List Char) :=
  match s with
  | '[' :: ':' :: s =>
    let (negated, s) := match s with
      | '^' :: t => (true, t)
      | t => (false, t)
    let name := s.takeWhile (· != ':')
    match s.drop name.length with
    | ':' :: ']' :: rest =>
      (posixClass? (String.ofList name)).map fun c ↦ (foldAndNegate f negated c, rest)
    | _ => none
  | _ => none

/-- The operators between the parts of a class. -/
inductive ClassOp where
  | inter | diff | symmDiff
  deriving Repr, DecidableEq

/-- Applies an operator to two sets, which are closed under case first if case is ignored. -/
def ClassOp.apply (f : Flags) (op : ClassOp) (left right : Charset) : Charset :=
  let close (s : Charset) : Charset :=
    if !f.ignoreCase then s
    else if f.unicode then s.closeUnderCase else s.closeUnderAsciiCase
  match op with
  | inter => (close left).inter (close right)
  | diff => (close left).diff (close right)
  | symmDiff => (close left).symmDiff (close right)

/-- A bracketed class that is open: whether it is negated, the operand and operator before the
present union if there is one, the union as read so far, and how deeply it is nested below. -/
structure OpenClass where
  negated : Bool
  operand : Option (Charset × ClassOp) := none
  union : Charset := []
  /-- How many items the union has, up to two. -/
  items : Nat := 0
  /-- The greatest depth of an item of the union. -/
  depth : Nat := 0
  /-- The depth of the operand. -/
  operandDepth : Nat := 0

namespace OpenClass

def push (o : OpenClass) (s : Charset) (depth : Nat) : OpenClass :=
  { o with union := o.union ++ s, items := o.items + 1, depth := max o.depth depth }

/-- The value of the union and of the operator before it. -/
def value (f : Flags) (o : OpenClass) : Charset :=
  match o.operand with
  | some (left, op) => op.apply f left (Charset.normalize o.union)
  | none => Charset.normalize o.union

/-- The depth of the union, which counts as a level of its own if it has several items. -/
def unionDepth (o : OpenClass) : Nat := if 2 ≤ o.items then o.depth + 1 else o.depth

def valueDepth (o : OpenClass) : Nat :=
  match o.operand with
  | some _ => max o.operandDepth o.unionDepth + 1
  | none => o.unionDepth

/-- Begins the operand after an operator. -/
def operator (f : Flags) (o : OpenClass) (op : ClassOp) : OpenClass :=
  { negated := o.negated, operand := some (o.value f, op), operandDepth := o.valueDepth }

end OpenClass

/-- Reads the minus signs that a class may begin with. -/
def leadingMinus (f : Flags) : Nat → OpenClass → List Char → OpenClass × List Char
  | 0, o, s => (o, s)
  | fuel + 1, o, s =>
    if s.head? = some '-' then
      leadingMinus f fuel (o.push (.single '-') 0) (skipSpace f s.tail)
    else (o, s)

/-- Reads the beginning of a bracketed class, after the bracket. A closing bracket that comes
first stands for itself. -/
def openClass (f : Flags) (s : List Char) : OpenClass × List Char :=
  let s := skipSpace f s
  let (negated, s) := if s.head? = some '^' then (true, skipSpace f s.tail) else (false, s)
  let (o, s) := leadingMinus f s.length { negated } s
  if o.items = 0 ∧ s.head? = some ']' then (o.push (.single ']') 0, skipSpace f s.tail)
  else (o, s)

/-- Reads one item of a class: an escape or a character as itself. -/
def classAtom? (f : Flags) (s : List Char) : Option (Atom × List Char) := do
  let c ← s.head?
  if c = '\\' then escape? f s.tail else some (.char c false, s.tail)

/-- The code point of an end of a range. Without Unicode it has to be an ASCII character. -/
def classCode? (f : Flags) : Atom → Option Nat
  | .char c byte =>
    if f.unicode then some c.toNat
    else if c.toNat < 128 then some c.toNat
    else if byte then none else none
  | _ => none

/-- Reads an item or a range of a class. -/
def classItem? (f : Flags) (s : List Char) : Option (Charset × List Char) := do
  let (first, s) ← classAtom? f s
  let s := skipSpace f s
  let c ← s.head?
  if c ≠ '-' ∨ peekSpace f s = some ']' ∨ peekSpace f s = some '-' then
    match classCode? f first with
    | some n => some ([(n, n)], s)
    | none => do
      let set ← first.class? f
      some (set, s)
  else
    let s := skipSpace f s.tail
    let (second, s) ← classAtom? f s
    let low ← classCode? f first
    let high ← classCode? f second
    if low ≤ high then some ([(low, high)], s) else none

/-- Reads a bracketed class whose enclosing classes are `outer`, innermost first; answers the set,
how deeply it is nested, and what follows. -/
def class? (f : Flags) : Nat → List OpenClass → OpenClass → List Char →
    Option (Charset × Nat × List Char)
  | 0, _, _, _ => none
  | fuel + 1, outer, o, s =>
    match skipSpace f s with
    | [] => none
    | '[' :: t =>
      match posix? f ('[' :: t) with
      | some (some set, rest) => class? f fuel outer (o.push set 0) rest
      | some (none, _) => none
      | none =>
        let (inner, rest) := openClass f t
        class? f fuel (o :: outer) inner rest
    | ']' :: t =>
      match foldAndNegate f o.negated (o.value f) with
      | none => none
      | some set =>
        match outer with
        | [] => some (set, o.valueDepth + 1, t)
        | p :: outer => class? f fuel outer (p.push set (o.valueDepth + 1)) t
    | '&' :: '&' :: t => class? f fuel outer (o.operator f .inter) t
    | '-' :: '-' :: t => class? f fuel outer (o.operator f .diff) t
    | '~' :: '~' :: t => class? f fuel outer (o.operator f .symmDiff) t
    | t =>
      match classItem? f t with
      | some (set, rest) => class? f fuel outer (o.push set 0) rest
      | none => none

/-! ### Operators and groups -/

/-- What has been read of the branch at hand. -/
inductive Piece where
  | node (n : Node) (depth : Nat)
  /-- Flags for the rest of the group, which no operator applies to. -/
  | flags

/-- A group that is open: its number if it is remembered, and what the enclosing group had read
when it opened, last first. -/
structure OpenGroup where
  index : Option Nat
  flags : Flags
  branches : List (Node × Nat)
  pieces : List Piece

/-- What the reader knows: the open groups, the finished branches and the pieces of the present
one, all last first, the number of groups and the names that are taken. -/
structure Reading where
  groups : List OpenGroup := []
  branches : List (Node × Nat) := []
  pieces : List Piece := []
  flags : Flags
  count : Nat := 0
  names : List (List Char) := []

namespace Reading

/-- The branch that the pieces make, with its depth. -/
def branch (r : Reading) : Node × Nat :=
  let pieces := r.pieces.reverse
  let nodes := pieces.filterMap fun
    | .node n _ => some n
    | .flags => none
  let depth := (pieces.map fun
    | .node _ d => d
    | .flags => 0).foldl max 0
  (.concat nodes, if 2 ≤ pieces.length then depth + 1 else depth)

/-- The alternatives that the branches make, with their depth. -/
def body (r : Reading) : Node × Nat :=
  let branches := (r.branch :: r.branches).reverse
  let depth := (branches.map (·.2)).foldl max 0
  (.choice (branches.map (·.1)), if 2 ≤ branches.length then depth + 1 else depth)

def push (r : Reading) (n : Node) (depth : Nat) : Reading :=
  { r with pieces := .node n depth :: r.pieces }

/-- Applies an operator to the last piece. -/
def repeatLast? (r : Reading) (min : Nat) (max : Option Nat) (greedy : Bool) :
    Option Reading :=
  match r.pieces with
  | .node n depth :: pieces =>
    some { r with
      pieces := .node (.mkLoop min max (greedy != r.flags.swapGreed) n) (depth + 1) :: pieces }
  | _ => none

def openGroup (r : Reading) (index : Option Nat) (inner : Flags) : Reading :=
  { r with
    groups := ⟨index, r.flags, r.branches, r.pieces⟩ :: r.groups
    branches := [], pieces := [], flags := inner
    count := r.count + if index.isSome then 1 else 0 }

def closeGroup? (r : Reading) : Option Reading :=
  match r.groups with
  | [] => none
  | g :: groups =>
    let (n, depth) := r.body
    let n := match g.index with
      | some i => .group i n
      | none => n
    some { r with
      groups, branches := g.branches, flags := g.flags
      pieces := .node n (depth + 1) :: g.pieces }

end Reading

/-- The characters of a group's name. -/
def isNameCharacter (first : Bool) (c : Char) : Bool :=
  if first then c == '_' || alphabetic.has c
  else c == '_' || c == '.' || c == '[' || c == ']' || isAlphanumeric c

/-- Reads the name of a group up to the angle bracket that closes it. -/
def groupName? (s : List Char) : Option (List Char × List Char) :=
  let name := s.takeWhile (· != '>')
  match name, s.drop name.length with
  | c :: cs, '>' :: rest =>
    if isNameCharacter true c && cs.all (isNameCharacter false) then some (name, rest) else none
  | _, _ => none

/-- The rest after `mark`, if the text begins with it. -/
def after? (mark s : List Char) : Option (List Char) :=
  if mark.isPrefixOf s then some (s.drop mark.length) else none

/-- Reads what follows an opening parenthesis: flags, a name, or the first of the group. -/
def groupStart? (r : Reading) (s : List Char) : Option (Reading × List Char) :=
  let s := skipSpace r.flags s
  if [['?', '='], ['?', '!'], ['?', '<', '='], ['?', '<', '!']].any (·.isPrefixOf s) then none
  else
    match (after? ['?', 'P', '<'] s).or (after? ['?', '<'] s) with
    | some s => do
      let (name, s) ← groupName? s
      if r.names.contains name then none
      else some ({ r.openGroup (some (r.count + 1)) r.flags with names := name :: r.names }, s)
    | none =>
      match s with
      | '?' :: s => do
        let (flags, closing, any, s) ← r.flags.read [] s
        if closing = ':' then some (r.openGroup none flags, s)
        else if any then some ({ r with flags, pieces := .flags :: r.pieces }, s)
        else none
      | s => some (r.openGroup (some (r.count + 1)) r.flags, s)

/-- Reads a decimal number, with blanks around it and blanks skipped between its digits. -/
def decimal? (f : Flags) (s : List Char) : Option Nat × List Char :=
  let s := s.dropWhile isBlank
  let (digits, s) := go s.length s
  let s := if f.ignoreSpace then skipBlanks s.length s else s.dropWhile isBlank
  (match natural? digits with
    | some n => if n < UInt32.size then some n else none
    | none => none, s)
where
  go : Nat → List Char → List Char × List Char
  | 0, s => ([], s)
  | _ + 1, [] => ([], [])
  | fuel + 1, c :: s =>
    if isAsciiDigit c then
      let (digits, rest) := go fuel (skipSpace f s)
      (c :: digits, rest)
    else ([], c :: s)
  skipBlanks : Nat → List Char → List Char
  | 0, s => s
  | _ + 1, [] => []
  | fuel + 1, c :: s => if isBlank c then skipBlanks fuel (skipSpace f s) else c :: s

/-- Reads a counted repetition, after the opening brace: `n`, `n,` or `n,m` with `n ≤ m`, and a
question mark for as few as possible. -/
def counted? (f : Flags) (s : List Char) :
    Option (Nat × Option Nat × Bool × List Char) := do
  let s := skipSpace f s
  let (low, s) := decimal? f s
  let (low, high, s) ← match s with
    | ',' :: t =>
      let t := skipSpace f t
      if t.head? = some '\x7d' then some (← low, none, t)
      else
        let (high, t) := decimal? f t
        some (← low, some (← high), t)
    | s => some (← low, some (← low), s)
  if s.head? = some '\x7d' ∧ high.all (low ≤ ·) then
    let s := skipSpace f s.tail
    match s with
    | '?' :: s => some (low, high, false, s)
    | s => some (low, high, true, s)
  else none

/-- Reads an operator and the question mark that makes it modest. -/
def uncounted? (r : Reading) (min : Nat) (max : Option Nat) (s : List Char) :
    Option (Reading × List Char) :=
  match s with
  | '?' :: s => (r.repeatLast? min max false).map (·, s)
  | s => (r.repeatLast? min max true).map (·, s)

/-- Reads one piece, which begins with `c`. -/
def step? (r : Reading) (c : Char) (s : List Char) : Option (Reading × List Char) :=
  match c with
  | '(' => groupStart? r s
  | ')' => r.closeGroup?.map (·, s)
  | '|' => some ({ r with branches := r.branch :: r.branches, pieces := [] }, s)
  | '[' => do
    let (o, t) := openClass r.flags s
    let (set, depth, s) ← class? r.flags (s.length + 1) [] o t
    some (r.push (.one set) depth, s)
  | '?' => uncounted? r 0 (some 1) s
  | '*' => uncounted? r 0 none s
  | '+' => uncounted? r 1 none s
  | '\x7b' => do
    let (min, max, greedy, s) ← counted? r.flags s
    let r ← r.repeatLast? min max greedy
    some (r, s)
  | '\\' => do
    let (a, s) ← escape? r.flags s
    some (r.push (← a.node? r.flags) 0, s)
  | '.' => do some (r.push (← dotNode? r.flags) 0, s)
  | '^' =>
    some (r.push (.look (if r.flags.multiLine then .lineStart r.flags.crlf else .start)) 0, s)
  | '$' =>
    some (r.push (.look (if r.flags.multiLine then .lineEnd r.flags.crlf else .finish)) 0, s)
  | c => do some (r.push (← charNode? r.flags c false) 0, s)

/-- Reads pieces until the text ends. -/
def readFrom : Nat → Reading → List Char → Option Reading
  | 0, _, _ => none
  | fuel + 1, r, s =>
    match skipSpace r.flags s with
    | [] => some r
    | c :: s => do
      let (r, s) ← step? r c s
      readFrom fuel r s

/-- How deeply a pattern may be nested. -/
def depthLimit : Nat := 250

/-- Reads a pattern, from flags that hold at its beginning. -/
def Node.read? (flags : Flags) (s : List Char) : Option Node := do
  let r ← readFrom (s.length + 1) { flags } s
  let (n, depth) := r.body
  if r.groups.isEmpty ∧ depth ≤ depthLimit then some n else none

end Guildhall.Pattern
