/-!
Positions in a YAML text. Lines end at a carriage return, a line feed, both, or one of the three
Unicode line ends; all but the separators `2028` and `2029` are read as a line feed.
-/

set_option autoImplicit false

namespace Guildhall.Yaml

/-- The characters that end a line. -/
def isBreak (c : Char) : Bool :=
  c == '\n' || c == '\r' || c == '\u0085' || c == '\u2028' || c == '\u2029'

/-- The characters that separate words within a line. -/
def isBlank (c : Char) : Bool := c == ' ' || c == '\t'

/-- The characters of the names of anchors and tag handles. -/
def isNameChar (c : Char) : Bool := c.isAlphanum || c == '_' || c == '-'

/-- The characters that a YAML text may hold. -/
def isAllowed (c : Char) : Bool :=
  let n := c.toNat
  n == 0x09 || n == 0x0A || n == 0x0D || (0x20 ≤ n && n ≤ 0x7E) || n == 0x85 ||
    (0xA0 ≤ n && n ≤ 0xD7FF) || (0xE000 ≤ n && n ≤ 0xFFFD) || 0x10000 ≤ n

/-- The rest of a text and where it begins. -/
structure Cursor where
  rest : List Char
  index : Nat := 0
  line : Nat := 0
  column : Nat := 0
  deriving Repr, DecidableEq

namespace Cursor

def atEnd (c : Cursor) : Bool := c.rest.isEmpty

/-- Whether the character `n` places on satisfies `p`. -/
def sees (c : Cursor) (p : Char → Bool) (n : Nat := 0) : Bool := c.rest[n]?.any p

def seesChar (c : Cursor) (ch : Char) (n : Nat := 0) : Bool := c.sees (· == ch) n

/-- Whether a blank, the end of the line or the end of the text is `n` places on. -/
def seesGap (c : Cursor) (n : Nat := 0) : Bool :=
  c.rest[n]?.all fun ch ↦ isBlank ch || isBreak ch

/-- Passes one character that does not end a line. -/
def skip (c : Cursor) : Cursor :=
  { c with rest := c.rest.tail, index := c.index + 1, column := c.column + 1 }

/-- Passes the characters up to the first that does not satisfy `p`, none of which ends a line. -/
def skipWhile (p : Char → Bool) (c : Cursor) : Cursor :=
  let n := (c.rest.takeWhile p).length
  { c with rest := c.rest.drop n, index := c.index + n, column := c.column + n }

/-- The characters that `skipWhile` passes, and the cursor after them. -/
def takeWhile (p : Char → Bool) (c : Cursor) : List Char × Cursor :=
  (c.rest.takeWhile p, c.skipWhile p)

/-- Passes the end of a line, of `n` characters. -/
def newLine (c : Cursor) (n : Nat) : Cursor :=
  { rest := c.rest.drop n, index := c.index + n, line := c.line + 1, column := 0 }

/-- Reads the end of a line as one character. -/
def takeBreak? (c : Cursor) : Option (Char × Cursor) :=
  match c.rest with
  | '\r' :: '\n' :: _ => some ('\n', c.newLine 2)
  | ch :: _ =>
    if isBreak ch then
      some (if ch == '\u2028' || ch == '\u2029' then ch else '\n', c.newLine 1)
    else none
  | [] => none

/-- Whether three of the character begin a line and stand alone. -/
def atMark (c : Cursor) (ch : Char) : Bool :=
  c.column == 0 && c.seesChar ch && c.seesChar ch 1 && c.seesChar ch 2 && c.seesGap 3

/-- Whether a line begins with the mark that starts or ends a document. -/
def atDocumentMark (c : Cursor) : Bool := c.atMark '-' || c.atMark '.'

/-- Passes the rest of a line that holds nothing but blanks and a comment. -/
def finishLine? (c : Cursor) : Option Cursor :=
  let c := c.skipWhile isBlank
  let c := if c.seesChar '#' then c.skipWhile (!isBreak ·) else c
  if c.atEnd then some c else (c.takeBreak?).map (·.2)

end Cursor

end Guildhall.Yaml
