import Guildhall.Pattern.Basic
import Guildhall.Text.Number

/-!
The form of log filters: directives between commas. A directive is a level, or the name of a place
that logs, or a span in brackets, which may follow a place; the last two may have a level after an
equals sign. A bot that is given a filter of another form does not start.
-/

set_option autoImplicit false

namespace Guildhall.LogFilter

open Text

/-- The variable of the environment that holds the filter. -/
def envName : String := "RUST_LOG"

def levelNames : List String := ["off", "error", "warn", "info", "debug", "trace"]

/-- A level is written as its name, in letters of either case, or as its number. -/
def isLevel (s : List Char) : Bool :=
  (signedWord? s).any (·.toNat < levelNames.length) ||
    levelNames.contains (String.ofList (s.map Char.toLower))

/-- A field of a span is a name, or a name and the pattern of its values. -/
def isField (s : List Char) : Bool :=
  match s.dropWhile (· != '=') with
  | [] => !s.isEmpty
  | _ :: value =>
    (Pattern.Compiled.ofSource? {} (String.ofList (value.takeWhile (· != '=')))).isSome

/-- What follows a span, of which the opening bracket was read. -/
def afterSpan? (s : List Char) : Option (List Char) :=
  match s.dropWhile fun c ↦ c != ']' && c != '{' with
  | ']' :: rest => some rest
  | _ :: fields =>
    match fields.dropWhile (· != '}') with
    | '}' :: ']' :: rest => if isField (fields.takeWhile (· != '}')) then some rest else none
    | _ => none
  | [] => none

/-- Whether the name of a place or a level may begin with a character. -/
def startsName (c : Char) : Bool := isAlphanumeric c || c == '-' || c == ':' || c == '_'

/-- What follows the place and the span that a directive begins with. -/
def afterSubject? : List Char → Option (List Char)
  | '[' :: span => afterSpan? span
  | c :: rest =>
    if startsName c then
      match rest.dropWhile fun c ↦ c != '=' && c != '[' with
      | '[' :: span => afterSpan? span
      | level => some level
    else none
  | [] => none

/-- Blanks may stand around a directive that has no level after an equals sign. -/
def isDirective (s : List Char) : Bool :=
  match afterSubject? (trimStart s) with
  | some ('=' :: level) => !s.head?.any isBlank && (level.isEmpty || isLevel level)
  | some rest => rest.all isBlank
  | none => false

/-- Whether a text is a filter; empty directives count for nothing. -/
def isWellFormed (s : String) : Bool :=
  (s.splitOn ",").all fun d ↦ d.isEmpty || isDirective d.toList

end Guildhall.LogFilter
