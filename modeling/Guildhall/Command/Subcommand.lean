import Guildhall.Action
import Guildhall.Cache

/-!
Subcommands: the first word after a command, read without regard to case, and what follows it.
-/

set_option autoImplicit false

namespace Guildhall

open Text

/-- The first word of the arguments in lower case, and the rest, trimmed. -/
def subcommand (args : List Char) : String × List Char :=
  let (word, rest) := splitFirst args
  (String.ofList (toLower word), rest)

/-- The first word of a text as a trigger, if it is one, and the rest. -/
def triggerArgument (args : List Char) : String × List Char :=
  let (word, rest) := splitFirst args
  (String.ofList (normalizeTrigger word), rest)

/-- The first word of a text in lower case, and the rest. -/
def nameArgument (args : List Char) : String × List Char := subcommand args

/-- The action that a text names. -/
def actionArgument? (args : List Char) : Option String := (actionNamed? args).map String.ofList

/-- What is said of a change that did not reach the store. -/
def CacheError.unsaved (e : CacheError) : String := s!"That change was not saved: {e.message}"

end Guildhall
