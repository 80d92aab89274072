import Guildhall.Pattern.Basic
import Guildhall.Template.Draws
import Guildhall.Template.Mention
import Guildhall.Text.Casing
import Guildhall.Time.Calendar

/-!
Placeholders: what may stand between the braces of a template, and the text that it is replaced
by. A definition handles a text only if its shape fits the whole of it. Handlers answer every
input; what they cannot use turns into a message for the chat.
-/

set_option autoImplicit false

namespace Guildhall

open Text

/-- What a template can ask for about the message that it answers. -/
structure TemplateContext where
  sender : String
  channel : String := ""
  /-- The text after the command. -/
  message : String
  /-- The names of the members that the message mentions. -/
  mentions : List String := []
  /-- The members of an event, if there is such an event. -/
  members? : String → Option (List String) := fun _ ↦ none
  today : Date

/-- The parts of a text that a shape picks out, the whole text first. -/
abbrev Parts := List (Option (List Char))

/-- The `i`th part, empty where it took no part. -/
def Parts.part (parts : Parts) (i : Nat) : List Char := (parts[i]?.join).getD []

/-- The forms that the text of a placeholder can have. -/
inductive Shape where
  /-- The name alone. -/
  | word (name : String)
  /-- The name, blanks, and any text, which `required` texts have at least a character of. -/
  | text (name : String) (required : Bool)
  /-- The name, blanks, and two numbers with a comma between them, which may have a minus sign
  if `signed`. -/
  | pair (name : String) (signed : Bool)
  /-- Whatever the pattern matches. -/
  | pattern (compiled : Pattern.Compiled)

namespace Shape

/-- Reads blanks, of which there is at least one. -/
def blanks? (s : List Char) : Option (List Char) :=
  match s with
  | c :: s => if isBlank c then some (s.dropWhile isBlank) else none
  | [] => none

/-- Reads a run of digits, after a minus sign if `signed` and there is one. -/
def number? (signed : Bool) (s : List Char) : Option (List Char × List Char) :=
  let (sign, s) : List Char × List Char := match signed, s with
    | true, '-' :: t => (['-'], t)
    | _, t => ([], t)
  let digits := s.takeWhile isDigit
  if digits.isEmpty then none else some (sign ++ digits, s.drop digits.length)

/-- The rest after the name, if the text begins with the name. -/
def named? (name : String) (s : List Char) : Option (List Char) :=
  Pattern.after? name.toList s

/-- The text after all blanks. A text that has to have a character takes the last of two blanks
if nothing else is left. -/
def textAfterBlanks? (required : Bool) (s : List Char) : Option (List Char) := do
  let rest ← blanks? s
  if required && rest.isEmpty then
    if 2 ≤ s.length then s.getLast?.map ([·]) else none
  else some rest

def pairAfterBlanks? (signed : Bool) (s : List Char) : Option (List Char × List Char) := do
  let s ← blanks? s
  let (first, s) ← number? signed s
  match s.dropWhile isBlank with
  | ',' :: s => do
    let (second, s) ← number? signed (s.dropWhile isBlank)
    if s.isEmpty then some (first, second) else none
  | _ => none

/-- The parts of a text of this shape. -/
def parts? (shape : Shape) (s : List Char) : Option Parts :=
  match shape with
  | word name => if s = name.toList then some [some s] else none
  | text name required => do
    let rest ← textAfterBlanks? required (← named? name s)
    some [some s, some rest]
  | pair name signed => do
    let (first, second) ← pairAfterBlanks? signed (← named? name s)
    some [some s, some first, some second]
  | pattern compiled => compiled.program.groups? s

/-- The shape of a pattern that is to match a whole text, line feeds included. The pattern is
compiled as part of a larger one that is anchored at both ends. -/
def ofPattern? (source : String) : Option Shape :=
  (Pattern.Compiled.ofSource? {} ("(?s)^(?:" ++ source ++ ")$")).map .pattern

end Shape

/-- What a placeholder is replaced by, and what it leaves of the randomness. -/
abbrev Handler := TemplateContext → Parts → Draws → List Char × Draws

/-- A kind of placeholder: how it is written, what it is for, which texts it handles and how. -/
structure Definition where
  name : String
  usage : String
  help : String
  shape : Shape
  handler : Handler

/-- Definitions in the order in which they are asked. -/
abbrev Definitions := List Definition

/-- The text that the first definition whose shape fits puts in the place of `s`. -/
def Definitions.evaluate? (defs : Definitions) (ctx : TemplateContext) (s : List Char)
    (d : Draws) : Option (List Char × Draws) :=
  defs.findSome? fun defn ↦ (defn.shape.parts? s).map fun parts ↦ defn.handler ctx parts d

namespace Placeholder

/-- A handler that draws nothing. -/
def pure (f : TemplateContext → Parts → List Char) : Handler := fun ctx parts d ↦ (f ctx parts, d)

/-- The pieces of a text between the bars. -/
def options : List Char → List (List Char)
  | [] => [[]]
  | c :: s =>
    match options s with
    | [] => []
    | o :: os => if c = '|' then [] :: o :: os else (c :: o) :: os

def choice : Handler := fun _ parts d ↦
  let (chosen, d) := d.choose? (options (parts.part 1))
  (chosen.getD [], d)

def rng : Handler := fun _ parts d ↦
  match integer? (parts.part 1), integer? (parts.part 2) with
  | some a, some b =>
    let (n, d) := d.between (min a b) (max a b)
    ((toString n).toList, d)
  | _, _ => ("Invalid range: ".toList ++ parts.part 1 ++ [','] ++ parts.part 2, d)

/-- Splits on blanks into at most `limit` parts, the last of which is the rest of the text, or
into all words if the limit is zero. The text begins and ends with no blank; `fuel` bounds the
number of parts. -/
def splitWithin (limit : Nat) : Nat → Nat → List Char → List (List Char)
  | 0, _, _ => []
  | fuel + 1, count, s =>
    if s.isEmpty then []
    else if count + 1 = limit then [s]
    else
      s.takeWhile (!isBlank ·) ::
        splitWithin limit fuel (count + 1) ((s.dropWhile (!isBlank ·)).dropWhile isBlank)

def splitLimited (s : List Char) (limit : Nat) : List (List Char) :=
  splitWithin limit (s.length + 1) 0 (trim s)

def argument (ctx : TemplateContext) (parts : Parts) : List Char :=
  match word? (parts.part 1), word? (parts.part 2) with
  | some limit, some index =>
    ((splitLimited ctx.message.toList limit.toNat)[index.toNat]?).getD []
  | _, _ => []

def messageText (ctx : TemplateContext) : List Char := trim (Mention.strip ctx.message.toList)

def randomEventMember : Handler := fun ctx parts d ↦
  let event := String.ofList (trim (parts.part 1))
  match ctx.members? event with
  | none => (s!"Event \"{event}\" not found.".toList, d)
  | some members =>
    match d.choose? members with
    | (some member, d) => (member.toList, d)
    | (none, d) => (s!"Event \"{event}\" has no members.".toList, d)

def daysSince (ctx : TemplateContext) (parts : Parts) : List Char :=
  let raw := trim (parts.part 1)
  let answer := match Date.parse? raw with
    | none => s!"\"{String.ofList raw}\" is not a valid date (expected YYYY-MM-DD)."
    | some date =>
      let days := ctx.today.daysBetween date
      if days = 1 then "1 day" else s!"{days} days"
  answer.toList

/-- The placeholders that every guild has. -/
def builtin : Definitions := [
  { name := "choice"
    usage := "\x7bchoice a|b|c\x7d"
    help := "One of the `|`-separated options, picked at random."
    shape := .text "choice" false
    handler := choice },
  { name := "rng"
    usage := "\x7brng A,B\x7d"
    help := "A random whole number from A to B, both included."
    shape := .pair "rng" true
    handler := rng },
  { name := "message"
    usage := "\x7bmessage\x7d"
    help := "Everything written after the command name."
    shape := .word "message"
    handler := pure fun ctx _ ↦ ctx.message.toList },
  { name := "argument"
    usage := "\x7bargument N,K\x7d"
    help := "Splits the text after the command into at most N words and takes word K (from 0)."
    shape := .pair "argument" false
    handler := pure argument },
  { name := "messageText"
    usage := "\x7bmessageText\x7d"
    help := "The text after the command with mentions removed."
    shape := .word "messageText"
    handler := pure fun ctx _ ↦ messageText ctx },
  { name := "mentions"
    usage := "\x7bmentions\x7d"
    help := "Names of everyone mentioned in the message."
    shape := .word "mentions"
    handler := pure fun ctx _ ↦ (", ".intercalate ctx.mentions).toList },
  { name := "sender"
    usage := "\x7bsender\x7d"
    help := "Name of whoever ran the command."
    shape := .word "sender"
    handler := pure fun ctx _ ↦ ctx.sender.toList },
  { name := "channel"
    usage := "\x7bchannel\x7d"
    help := "Name of the channel the command ran in."
    shape := .word "channel"
    handler := pure fun ctx _ ↦ ctx.channel.toList },
  { name := "randomEventMember"
    usage := "\x7brandomEventMember event\x7d"
    help := "A random member of the named event."
    shape := .text "randomEventMember" true
    handler := randomEventMember },
  { name := "daysSince"
    usage := "\x7bdaysSince YYYY-MM-DD\x7d"
    help := "Number of days between the date and today."
    shape := .text "daysSince" true
    handler := pure daysSince },
  { name := "upper"
    usage := "\x7bupper text\x7d"
    help := "The text in upper case."
    shape := .text "upper" false
    handler := pure fun _ parts ↦ toUpper (parts.part 1) },
  { name := "lower"
    usage := "\x7blower text\x7d"
    help := "The text in lower case."
    shape := .text "lower" false
    handler := pure fun _ parts ↦ toLower (parts.part 1) }]

end Placeholder

end Guildhall
