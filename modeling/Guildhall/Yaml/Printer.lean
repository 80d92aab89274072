import Guildhall.Yaml.Schema

/-!
Writing YAML in block style. A text is written plain where that reads back as the same text, in
single quotes where it does not, as a literal block where it has several lines, and in double
quotes where it holds characters or spaces that no other form keeps. A key of more than 128 bytes
or more than one line follows a question mark.
-/

set_option autoImplicit false

namespace Guildhall.Yaml

/-- What is written: texts, words that stand for themselves, and mappings in a given order. -/
inductive Tree where
  | text (s : String)
  | bare (s : String)
  | mapping (entries : List (String × Tree))

/-- The characters that are written as they are. -/
def isPrintable (c : Char) : Bool :=
  let n := c.toNat
  n == 0x0A || (0x20 ≤ n && n ≤ 0x7E) || (0xA0 ≤ n && n ≤ 0xFFFD && n != 0xFEFF) || 0x10000 ≤ n

namespace Printer

/-- A blank, a line end or the end of the text. -/
def isGap (c : Option Char) : Bool := c.all fun c ↦ isBlank c || isBreak c || c == '\x00'

/-- Whether no text can begin with this character and stand plain. -/
def isIndicator (c : Char) (next : Option Char) : Bool :=
  "#,[]\x7b\x7d&*!|>'\"%@`".toList.contains c || ("?:-".toList.contains c && isGap next)

/-- Whether two neighbours within a text would end a plain scalar. -/
def endsPlain (a : Char) (rest : List Char) : Bool :=
  match rest with
  | '#' :: _ => isGap (some a)
  | ':' :: t => isGap t.head?
  | _ => false

/-- Whether some character of a text, with what follows it, satisfies `p`. -/
def anyTail (p : Char → List Char → Bool) : List Char → Bool
  | [] => false
  | c :: s => p c s || anyTail p s

def isSpaceOrBreak (c : Option Char) : Bool := c.any fun c ↦ c == ' ' || isBreak c

def hasBreak (s : List Char) : Bool := s.any isBreak

/-- Characters that only double quotes keep, among them a space at the end of a line. -/
def needsEscapes (s : List Char) : Bool :=
  s.any (!isPrintable ·) || anyTail (fun c t ↦ c == ' ' && t.head?.any isBreak) s

/-- Whether a line after the first begins with a space. -/
def hasIndentedLine (s : List Char) : Bool := anyTail (fun c t ↦ isBreak c && t.head? == some ' ') s

def beginsWithMark (s : List Char) : Bool := s.take 3 == "---".toList || s.take 3 == "...".toList

/-- Whether a text can be written plain, whatever it means. -/
def allowsPlain (s : List Char) : Bool :=
  match s with
  | [] => true
  | c :: t =>
    !(beginsWithMark s || isIndicator c t.head? || anyTail endsPlain s || hasBreak s ||
      needsEscapes s || isSpaceOrBreak (some c) || isSpaceOrBreak s.getLast?)

def allowsSingleQuotes (s : List Char) : Bool := !(hasIndentedLine s || needsEscapes s)

def allowsBlock (s : List Char) : Bool :=
  !(s.isEmpty || s.getLast? == some ' ' || needsEscapes s)

/-- Whether a text means text when it stands plain. -/
def meansText (s : String) : Bool := meaning s == .text && !hasLeadingZero s.toList

/-- The form in which a text is written. -/
def styleOf (s : String) : Style :=
  let cs := s.toList
  if cs.contains '\n' then if allowsBlock cs then .literal else .doubleQuoted
  else if meansText s && allowsPlain cs then .plain
  else if allowsSingleQuotes cs then .singleQuoted
  else .doubleQuoted

/-- Whether a key is written without a question mark. -/
def isSimpleKey (s : String) : Bool := !hasBreak s.toList && s.utf8ByteSize ≤ 128

def hexDigits (count n : Nat) : List Char :=
  (List.range count).map fun i ↦
    (Nat.digitChar (n / Nat.pow 16 (count - 1 - i) % 16)).toUpper

/-- The escape of a character within double quotes. -/
def escape (c : Char) : List Char :=
  match (escapes.filter fun e ↦ e.1 ≠ '\t' && e.1 ≠ ' ' && e.1 ≠ '/').find? (·.2 == c) with
  | some (letter, _) => ['\\', letter]
  | none =>
    let n := c.toNat
    if n ≤ 0xFF then ['\\', 'x'] ++ hexDigits 2 n
    else if n ≤ 0xFFFF then ['\\', 'u'] ++ hexDigits 4 n
    else ['\\', 'U'] ++ hexDigits 8 n

def doubleQuoted (s : List Char) : List Char :=
  ['"'] ++ s.flatMap (fun c ↦
    if !isPrintable c || isBreak c || c == '"' || c == '\\' then escape c else [c]) ++ ['"']

def indentation (n : Nat) : List Char := List.replicate n ' '

/-- Writes lines; each but the first is indented before its first character. -/
def indentLines (indent : Nat) (write : Char → List Char) : Bool → List Char → List Char
  | afterBreak, [] => if afterBreak then indentation indent else []
  | afterBreak, c :: s =>
    if isBreak c then c :: indentLines indent write true s
    else (if afterBreak then indentation indent else []) ++ write c ++
      indentLines indent write false s

def singleQuoted (indent : Nat) (s : List Char) : List Char :=
  ['\''] ++ indentLines indent (fun c ↦ if c == '\'' then ['\'', '\''] else [c]) false s ++ ['\'']

/-- How a literal block keeps its last line ends. -/
def chomping (s : List Char) : List Char :=
  match s.reverse with
  | b :: rest =>
    if isBreak b then if rest.head?.all isBreak then ['+'] else [] else ['-']
  | [] => ['-']

/-- The lines of a literal block; an empty line is not indented. -/
def literalLines (indent : Nat) : Bool → List Char → List Char
  | _, [] => []
  | afterBreak, c :: s =>
    if isBreak c then c :: literalLines indent true s
    else (if afterBreak then indentation indent else []) ++ c :: literalLines indent false s

def literal (indent : Nat) (s : List Char) : List Char :=
  ['|'] ++ (if isSpaceOrBreak s.head? then ['2'] else []) ++ chomping s ++ ['\n'] ++
    literalLines indent true s

/-- A text, the further lines of which are indented. -/
def scalar (indent : Nat) (s : String) : List Char :=
  match styleOf s with
  | .doubleQuoted => doubleQuoted s.toList
  | .singleQuoted => singleQuoted indent s.toList
  | .literal | .folded => literal indent s.toList
  | .plain => s.toList

/-- Ends the line, if it is not ended. -/
def endLine (s : List Char) : List Char := if s.getLast?.any isBreak then s else s ++ ['\n']

mutual

/-- What follows the colon after a key in a mapping of the given indentation. A mapping goes on in
the line of a colon that begins it. -/
def value (indent : Nat) (compact : Bool) : Tree → List Char
  | .text s => [' '] ++ endLine (scalar (indent + 2) s)
  | .bare s => [' '] ++ s.toList ++ ['\n']
  | .mapping [] => [' ', '\x7b', '\x7d', '\n']
  | .mapping (e :: es) =>
    if compact then [' '] ++ (entries (indent + 2) (e :: es)).drop (indent + 2)
    else ['\n'] ++ entries (indent + 2) (e :: es)

def entries (indent : Nat) : List (String × Tree) → List Char
  | [] => []
  | (key, v) :: rest =>
    indentation indent ++
      (if isSimpleKey key then scalar (indent + 2) key ++ [':'] ++ value indent false v
        else ['?', ' '] ++ endLine (scalar (indent + 2) key) ++ indentation indent ++ [':'] ++
          value indent true v) ++
      entries indent rest

end

end Printer

/-- The document that holds a mapping. -/
def Tree.print (fields : List (String × Tree)) : String :=
  String.ofList (if fields.isEmpty then ['\x7b', '\x7d', '\n'] else Printer.entries 0 fields)

end Guildhall.Yaml
