import Guildhall.Text.Blank
import Guildhall.Text.Casing

/-!
Action strings, by which rules are keyed: the lower-cased command token and the words of its
arguments with single spaces between them. The candidates for a rule on an action are its
word-bounded beginnings.
-/

set_option autoImplicit false

namespace Guildhall

open Text

/-- The action string of a command token and its arguments. -/
def actionString (command args : List Char) : List Char :=
  toLower (trim command) ++ (words args).flatMap (' ' :: ·)

/-- The beginnings of `s` that a space follows, shortest first. -/
def beforeSpaces : List Char → List (List Char)
  | [] => []
  | c :: s => (if c = ' ' then [[]] else []) ++ (beforeSpaces s).map (c :: ·)

/-- The keys that could match `query`, longest first: the query itself and its beginnings that a
space follows, the empty one left out. -/
def wordPrefixes (query : List Char) : List (List Char) :=
  query :: ((beforeSpaces query).filter (!·.isEmpty)).reverse

/-- Triggers are compared trimmed, without any `!` that they then start with, and lower-cased. -/
def normalizeTrigger (s : List Char) : List Char :=
  toLower ((trim s).dropWhile (· == '!'))

/-- The action string that free text names, if it names one: its first word is taken as a
trigger and the rest as arguments. -/
def actionNamed? (s : List Char) : Option (List Char) :=
  let (command, rest) := splitFirst s
  let command := normalizeTrigger command
  if command.isEmpty then none else some (actionString command rest)

end Guildhall
