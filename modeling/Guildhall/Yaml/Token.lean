import Guildhall.Yaml.Scalar

/-!
The tokens of a YAML text. Block collections are told by their columns: a token further to the
right opens one, a token further to the left closes those that it leaves. A key needs no mark of
its own: it is known by the colon after it, on the same line and within 1024 characters.
-/

set_option autoImplicit false

namespace Guildhall.Yaml

inductive Token where
  | version (major minor : Nat)
  | tagHandle (handle start : String)
  | documentStart
  | documentEnd
  | blockSequence
  | blockMapping
  | blockEnd
  | flowSequence
  | flowSequenceEnd
  | flowMapping
  | flowMappingEnd
  | entry
  | comma
  | key
  | value
  | alias (name : String)
  | anchor (name : String)
  | tag (handle suffix : String)
  | scalar (style : Style) (text : String)
  deriving Repr, DecidableEq

/-- A place where a key may have begun: the number of the token that it begins with, its position,
and whether it has to be a key because it begins a line of its collection. -/
structure PossibleKey where
  token : Nat
  start : Cursor
  required : Bool
  deriving Repr, DecidableEq

/-- Whether a key that began at `k` can still be one here. -/
def PossibleKey.isOpen (k : PossibleKey) (c : Cursor) : Bool :=
  k.start.line == c.line && c.index ≤ k.start.index + 1024

/-- The tokens that were read, and what is known of the collections that are open: the columns of
the block collections, the number of flow collections, and for each flow collection and the block
around them the place where a key may have begun. -/
structure Scan where
  cursor : Cursor
  tokens : Array Token := #[]
  indent : Int := -1
  outer : List Int := []
  flow : Nat := 0
  keyAllowed : Bool := true
  keys : List (Option PossibleKey) := [none]

namespace Scan

def inFlow (s : Scan) : Bool := s.flow != 0

def push (s : Scan) (t : Token) : Scan := { s with tokens := s.tokens.push t }

def skip (s : Scan) : Scan := { s with cursor := s.cursor.skip }

/-- Gives up the place where a key of the innermost collection may have begun. -/
def dropKey? (s : Scan) : Option Scan :=
  match s.keys with
  | some k :: keys => if k.required then none else some { s with keys := none :: keys }
  | _ => some s

/-- Notes that a key may begin here. -/
def noteKey? (s : Scan) : Option Scan := do
  if s.keyAllowed then
    let s ← s.dropKey?
    let required := !s.inFlow && s.indent == (s.cursor.column : Int)
    let key : PossibleKey := { token := s.tokens.size, start := s.cursor, required }
    some { s with keys := some key :: s.keys.tail }
  else some s

/-- Gives up the places where no key can begin any more. -/
def dropStale? (s : Scan) : Option Scan := do
  let keys ← s.keys.mapM fun k ↦
    match k with
    | some key =>
      if key.isOpen s.cursor then some k else if key.required then none else some none
    | none => some none
  some { s with keys }

/-- Opens a block collection if the column is to the right of the innermost one. -/
def indentTo (s : Scan) (column : Nat) (position : Nat) (t : Token) : Scan :=
  if s.inFlow || (column : Int) ≤ s.indent then s
  else
    { s with
      tokens := s.tokens.insertIdxIfInBounds position t
      indent := column
      outer := s.indent :: s.outer }

/-- Closes the block collections to the right of a column. -/
def closeTo (s : Scan) (column : Int) : Scan :=
  if s.inFlow then s
  else
    let closed := (s.indent :: s.outer).takeWhile (column < ·)
    match (s.indent :: s.outer).drop closed.length with
    | [] => s
    | indent :: outer =>
      { s with tokens := s.tokens ++ closed.map (fun _ ↦ Token.blockEnd), indent, outer }

/-- Passes blanks, comments and line ends. Tabs count as blanks only where no key can begin. -/
def toNext : Nat → Scan → Scan
  | 0, s => s
  | fuel + 1, s =>
    let tabs := s.inFlow || !s.keyAllowed
    let c := if s.cursor.index == 0 && s.cursor.seesChar '\ufeff' then s.cursor.skip else s.cursor
    let c := c.skipWhile fun ch ↦ ch == ' ' || (tabs && ch == '\t')
    let c := if c.seesChar '#' then c.skipWhile (!isBreak ·) else c
    match c.takeBreak? with
    | some (_, c) => toNext fuel { s with cursor := c, keyAllowed := s.keyAllowed || !s.inFlow }
    | none => { s with cursor := c }

/-- The end of the text or of a document closes all block collections. -/
def leaveBlocks? (s : Scan) : Option Scan := do
  let s ← (s.closeTo (-1)).dropKey?
  some { s with keyAllowed := false }

def number? (c : Cursor) : Option (Nat × Cursor) :=
  let (digits, c) := c.takeWhile Char.isDigit
  if digits.isEmpty || 9 < digits.length then none
  else (String.ofList digits).toNat?.map (·, c)

/-- Reads the bytes of one character that are written as `%` and two digits each. -/
def uriEscape? (c : Cursor) : Option (Char × Cursor) := do
  let octet? (c : Cursor) : Option (Nat × Cursor) := do
    if c.seesChar '%' then
      let digits := (c.rest.drop 1).take 2
      if digits.length = 2 then some (← hexValue? digits, c.skip.skip.skip) else none
    else none
  let (lead, c) ← octet? c
  let (width, bits) ←
    if lead < 0x80 then some (0, lead)
    else if 0xC0 ≤ lead && lead < 0xE0 then some (1, lead % 0x20)
    else if 0xE0 ≤ lead && lead < 0xF0 then some (2, lead % 0x10)
    else if 0xF0 ≤ lead && lead < 0xF8 then some (3, lead % 0x08)
    else none
  let (code, c) ← (List.range width).foldlM
    (fun (code, c) _ ↦ do
      let (b, c) ← octet? c
      if 0x80 ≤ b && b < 0xC0 then some (64 * code + b % 0x40, c) else none)
    (bits, c)
  some (← charOfCode? code, c)

/-- The characters of a tag; within angle brackets also a comma and square brackets. -/
def isUriChar (verbatim : Bool) (c : Char) : Bool :=
  isNameChar c || ";/?:@&=+$.%!~*'()".toList.contains c || (verbatim && ",[]".toList.contains c)

def uriFrom? (verbatim : Bool) : Nat → List Char → Cursor → Option (List Char × Cursor)
  | 0, text, c => some (text.reverse, c)
  | fuel + 1, text, c =>
    if c.seesChar '%' then do
      let (ch, c) ← uriEscape? c
      uriFrom? verbatim fuel (ch :: text) c
    else if c.sees (isUriChar verbatim) then
      uriFrom? verbatim fuel (c.rest.take 1 ++ text) c.skip
    else some (text.reverse, c)

/-- Reads the characters of a tag. -/
def uri? (verbatim : Bool) (c : Cursor) : Option (List Char × Cursor) :=
  uriFrom? verbatim (c.rest.length + 1) [] c

/-- Reads an exclamation mark, a name and, if there is one, a second exclamation mark. -/
def handle? (c : Cursor) : Option (List Char × Cursor) :=
  if c.seesChar '!' then
    let (name, c) := c.skip.takeWhile isNameChar
    if c.seesChar '!' then some ('!' :: name ++ ['!'], c.skip) else some ('!' :: name, c)
  else none

def isHandle (s : List Char) : Bool := 2 ≤ s.length && s.getLast? == some '!'

/-- Reads a tag: `!<text>`, `!name!suffix` or `!suffix`. -/
def readTag? (inFlow : Bool) (c : Cursor) : Option (Token × Cursor) := do
  let (handle, suffix, c) ←
    if c.seesChar '<' 1 then do
      let (suffix, c) ← uri? true c.skip.skip
      if c.seesChar '>' && !suffix.isEmpty then some ([], suffix, c.skip) else none
    else do
      let (head, c) ← handle? c
      if isHandle head then do
        let (suffix, c) ← uri? false c
        if suffix.isEmpty then none else some (head, suffix, c)
      else do
        let (rest, c) ← uri? false c
        let suffix := head.tail ++ rest
        some (if suffix.isEmpty then ([], ['!'], c) else (['!'], suffix, c))
  if (inFlow && c.seesChar ',') || c.seesGap then
    some (.tag (String.ofList handle) (String.ofList suffix), c)
  else none

/-- Reads the name of an anchor or an alias. -/
def readName? (c : Cursor) : Option (String × Cursor) :=
  let (name, c) := c.skip.takeWhile isNameChar
  if !name.isEmpty && (c.seesGap || c.sees ("?:,]\x7d%@`".toList.contains ·)) then
    some (String.ofList name, c)
  else none

/-- Reads a directive line. -/
def readDirective? (c : Cursor) : Option (Token × Cursor) := do
  let (name, c) := c.skip.takeWhile isNameChar
  if name.isEmpty || !c.seesGap then none
  else
    let c := c.skipWhile isBlank
    let (t, c) ← match String.ofList name with
      | "YAML" => do
        let (major, c) ← number? c
        if c.seesChar '.' then do
          let (minor, c) ← number? c.skip
          some (Token.version major minor, c)
        else none
      | "TAG" => do
        let (handle, c) ← handle? c
        if (handle == ['!'] || isHandle handle) && c.sees isBlank then do
          let (start, c) ← uri? true (c.skipWhile isBlank)
          if !start.isEmpty && c.seesGap then
            some (.tagHandle (String.ofList handle) (String.ofList start), c)
          else none
        else none
      | _ => none
    some (t, ← c.finishLine?)

def directive? (s : Scan) : Option Scan := do
  let s ← s.leaveBlocks?
  let (t, cursor) ← readDirective? s.cursor
  some { s.push t with cursor }

/-- A mark at the start of a line that starts or ends a document. -/
def documentMark? (s : Scan) (t : Token) : Option Scan := do
  let s ← s.leaveBlocks?
  some (s.skip.skip.skip.push t)

def openFlow? (s : Scan) (t : Token) : Option Scan := do
  let s ← s.noteKey?
  some { s.skip.push t with keys := none :: s.keys, flow := s.flow + 1, keyAllowed := true }

def closeFlow? (s : Scan) (t : Token) : Option Scan := do
  let s ← s.dropKey?
  let s := if s.inFlow then { s with keys := s.keys.tail, flow := s.flow - 1 } else s
  some { s.skip.push t with keyAllowed := false }

def comma? (s : Scan) : Option Scan := do
  let s ← s.dropKey?
  some { s.skip.push .comma with keyAllowed := true }

/-- A mark that stands for itself opens a block collection where it is the first of its column. -/
def openBlock? (s : Scan) (t : Token) : Option Scan :=
  if s.inFlow then some s
  else if s.keyAllowed then some (s.indentTo s.cursor.column s.tokens.size t)
  else none

def entry? (s : Scan) : Option Scan := do
  let s ← (← s.openBlock? .blockSequence).dropKey?
  some { s.skip.push .entry with keyAllowed := true }

def key? (s : Scan) : Option Scan := do
  let s ← (← s.openBlock? .blockMapping).dropKey?
  some { s.skip.push .key with keyAllowed := !s.inFlow }

/-- A colon makes what stands before it a key, if that may be one. -/
def value? (s : Scan) : Option Scan := do
  match s.keys with
  | some k :: keys =>
    let s := { s with tokens := s.tokens.insertIdxIfInBounds k.token .key }
    let s := s.indentTo k.start.column k.token .blockMapping
    some { s.skip.push .value with keys := none :: keys, keyAllowed := false }
  | _ =>
    let s ← s.openBlock? .blockMapping
    some { s.skip.push .value with keyAllowed := !s.inFlow }

/-- A token that may begin a key. -/
def nodeStart? (s : Scan) (read? : Cursor → Option (Token × Cursor)) : Option Scan := do
  let s ← s.noteKey?
  let (t, cursor) ← read? s.cursor
  some { s.push t with cursor, keyAllowed := false }

def block? (s : Scan) (style : Style) : Option Scan := do
  let s ← s.dropKey?
  let (text, cursor) ← readBlock? (style == .literal) s.indent s.cursor
  some { s.push (.scalar style text) with cursor, keyAllowed := true }

def quoted? (s : Scan) (style : Style) : Option Scan :=
  s.nodeStart? fun c ↦
    (readQuoted? (style == .doubleQuoted) c).map fun r ↦ (.scalar style r.1, r.2)

def plain? (s : Scan) : Option Scan := do
  let s ← s.noteKey?
  let (text, cursor, endsLine) ← readPlain? s.inFlow (s.indent + 1).toNat s.cursor
  some { s.push (.scalar .plain text) with cursor, keyAllowed := endsLine }

/-- Whether a plain scalar may begin here. -/
def beginsPlain (s : Scan) : Bool :=
  let c := s.cursor
  !(c.seesGap || c.sees ("-?:,[]\x7b\x7d#&*!|>'\"%@`".toList.contains ·)) ||
    (c.seesChar '-' && !c.sees isBlank 1) ||
    (!s.inFlow && c.sees (fun ch ↦ ch == '?' || ch == ':') && !c.seesGap 1)

/-- Reads the token at the cursor, which is not at the end of the text. -/
def token? (s : Scan) : Option Scan :=
  let c := s.cursor
  let named (t : String → Token) : Option Scan :=
    s.nodeStart? fun c ↦ (readName? c).map fun r ↦ (t r.1, r.2)
  if c.column == 0 && c.seesChar '%' then s.directive?
  else if c.atMark '-' then s.documentMark? .documentStart
  else if c.atMark '.' then s.documentMark? .documentEnd
  else
    match c.rest with
    | '[' :: _ => s.openFlow? .flowSequence
    | '\x7b' :: _ => s.openFlow? .flowMapping
    | ']' :: _ => s.closeFlow? .flowSequenceEnd
    | '\x7d' :: _ => s.closeFlow? .flowMappingEnd
    | ',' :: _ => s.comma?
    | '*' :: _ => named .alias
    | '&' :: _ => named .anchor
    | '!' :: _ => s.nodeStart? (readTag? s.inFlow)
    | '\'' :: _ => s.quoted? .singleQuoted
    | '"' :: _ => s.quoted? .doubleQuoted
    | ch :: _ =>
      if ch == '-' && c.seesGap 1 then s.entry?
      else if ch == '?' && (s.inFlow || c.seesGap 1) then s.key?
      else if ch == ':' && (s.inFlow || c.seesGap 1) then s.value?
      else if ch == '|' && !s.inFlow then s.block? .literal
      else if ch == '>' && !s.inFlow then s.block? .folded
      else if s.beginsPlain then s.plain?
      else none
    | [] => none

def run? : Nat → Scan → Option (Array Token)
  | 0, _ => none
  | fuel + 1, s => do
    let s := toNext (s.cursor.rest.length + 1) s
    let s := (← s.dropStale?).closeTo s.cursor.column
    if s.cursor.atEnd then return (← s.leaveBlocks?).tokens
    run? fuel (← s.token?)

end Scan

/-- The tokens of a text, if it is made of tokens. -/
def Token.ofText? (text : List Char) : Option (List Token) :=
  let text := if text.head? == some '\ufeff' then text.tail else text
  if text.all isAllowed then
    (Scan.run? (text.length + 2) { cursor := { rest := text } }).map (·.toList)
  else none

end Guildhall.Yaml
