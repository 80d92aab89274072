import Guildhall.Environment.Assignment
import Guildhall.Environment.Entry
import Guildhall.Store.Disk

/-!
Variables from a file. They only fill in what the environment leaves open.
-/

set_option autoImplicit false

namespace Guildhall.Environment

/-- The name of the variable file. -/
def fileName : String := ".env"

/-- The entries of a variable file. -/
def readEntries (text : String) : List Entry := (splitEntries text.toList).map Entry.ofText

/-- Adds the variables that a text assigns. -/
def supplyText (env : Environment) (text : String) : Environment :=
  assign (readEntries text) env

/-- Adds the variables of the variable file, if there is one. -/
def supplyFile (env : Environment) (d : Disk) : Environment :=
  match d.text? fileName with
  | some text => env.supplyText text
  | none => env

end Guildhall.Environment
