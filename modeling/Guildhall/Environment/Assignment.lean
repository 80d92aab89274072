import Guildhall.Environment.Basic
import Guildhall.Text.Letters
import Guildhall.Text.Blank

/-!
Assignments of variables: a name, an equals sign and a value, which the word `export` may precede.
Values are literal between single quotes. Elsewhere a backslash escapes a few characters, and a
dollar sign begins the name of a variable that stands for its value, either up to the first
character that is neither letter nor digit or between braces. Outside of quotes a blank ends the
value, and only a comment may follow.
-/

set_option autoImplicit false

namespace Guildhall.Environment

/-- A piece of a value. -/
inductive ValuePart where
  | char (c : Char)
  | reference (name : String)
  deriving Repr, DecidableEq

/-- Where in a value a character is; `quoted` tells whether double quotes are open, and `read` is
the name so far in reverse. -/
inductive ValueState where
  | text (quoted : Bool)
  | escaped (quoted : Bool)
  | single
  | name (quoted : Bool) (read : List Char)
  | braced (quoted : Bool) (read : List Char)
  | ended
  deriving Repr, DecidableEq

/-- The character that a backslash and a character stand for. -/
def unescape? : Char → Option Char
  | 'n' => some '\n'
  | c => if c ∈ ['\\', '\'', '"', '$', ' '] then some c else none

/-- The variable of a name that was read in reverse. -/
def ValuePart.ofRead (read : List Char) : ValuePart := .reference (String.ofList read.reverse)

/-- Reads the rest of a value. The character that ends a name belongs to the value as it is, even
if it is a quote. A backslash at the very end stands for nothing. -/
def valueFrom? : ValueState → List Char → Option (List ValuePart)
  | .text false, [] | .escaped false, [] | .ended, [] => some []
  | .name false read, [] => some [.ofRead read]
  | _, [] => none
  | .text quoted, c :: s =>
    match c, quoted with
    | '$', _ => valueFrom? (.name quoted []) s
    | '\\', _ => valueFrom? (.escaped quoted) s
    | '"', _ => valueFrom? (.text (!quoted)) s
    | '\'', false => valueFrom? .single s
    | ' ', false | '\t', false => valueFrom? .ended s
    | c, _ => (valueFrom? (.text quoted) s).map (.char c :: ·)
  | .escaped quoted, c :: s => do
    return .char (← unescape? c) :: (← valueFrom? (.text quoted) s)
  | .single, c :: s =>
    if c = '\'' then valueFrom? (.text false) s
    else (valueFrom? .single s).map (.char c :: ·)
  | .name quoted read, c :: s =>
    if Text.isAlphanumeric c then valueFrom? (.name quoted (c :: read)) s
    else if c = '{' && read.isEmpty then valueFrom? (.braced quoted []) s
    else if c = '$' then (valueFrom? (.name quoted []) s).map (.ofRead read :: ·)
    else (valueFrom? (.text quoted) s).map ([.ofRead read, .char c] ++ ·)
  | .braced quoted read, c :: s =>
    if c = '}' then (valueFrom? (.text quoted) s).map (.ofRead read :: ·)
    else valueFrom? (.braced quoted (c :: read)) s
  | .ended, c :: s =>
    if c = '#' then some []
    else if c = ' ' || c = '\t' then valueFrom? .ended s
    else none

/-- Reads a value; a comment alone is the empty value. -/
def value? : List Char → Option (List ValuePart)
  | '#' :: _ => some []
  | s => valueFrom? (.text false) s

def isNameStart (c : Char) : Bool := c.isAlpha || c == '_'

def isNameChar (c : Char) : Bool := c.isAlphanum || c == '_' || c == '.'

/-- The name that a text begins with and what follows it and blanks. -/
def splitName? : List Char → Option (List Char × List Char)
  | c :: s =>
    if isNameStart c then
      some (c :: s.takeWhile isNameChar, Text.trimStart (s.dropWhile isNameChar))
    else none
  | [] => none

/-- The name and the text of the value; a variable may be called `export` too. -/
def splitAssignment? (s : List Char) : Option (List Char × List Char) := do
  match ← splitName? s with
  | (name, '=' :: value) => return (name, Text.trimStart value)
  | (name, rest) =>
    if name = "export".toList then
      let (name, rest) ← splitName? rest
      match rest with
      | '=' :: value => return (name, Text.trimStart value)
      | _ => none
    else none

/-- What an entry of a variable file is. -/
inductive Entry where
  | blank
  | assignment (name : String) (value : List ValuePart)
  | malformed
  deriving Repr, DecidableEq

def Entry.ofText (s : List Char) : Entry :=
  let s := Text.trim s
  if s.isEmpty || s.head? = some '#' then .blank
  else
    match splitAssignment? s with
    | none => .malformed
    | some (name, text) =>
      match value? text with
      | some value => .assignment (String.ofList name) value
      | none => .malformed

/-- The variables that an entry speaks of. -/
def Entry.names : Entry → List String
  | assignment name value =>
    name :: value.filterMap fun
      | .reference name => some name
      | .char _ => none
  | blank | malformed => []

/-- The text of a piece of a value in an environment. -/
def ValuePart.text (env : Environment) : ValuePart → String
  | char c => String.singleton c
  | reference name => env.value name

/-- Carries out entries in order, up to the first that is malformed. A variable that is set
already keeps its value. -/
def assign : List Entry → Environment → Environment
  | .blank :: rest, env => assign rest env
  | .assignment name value :: rest, env =>
    assign rest (env.supply name (String.join (value.map (·.text env))))
  | .malformed :: _, env | [], env => env

end Guildhall.Environment
