import Guildhall.Pattern.Reader
import Guildhall.Pattern.Search

/-!
Compiled patterns: the text they were compiled from and the program that matches. A pattern has
to be read and to fit in the room for programs.
-/

set_option autoImplicit false

namespace Guildhall.Pattern

structure Compiled where
  source : String
  program : Program

namespace Compiled

/-- Compiles a node under the text that it was read from. -/
def ofNode? (source : String) (n : Node) : Option Compiled :=
  (Program.ofNode? n).map (⟨source, ·⟩)

/-- Compiles a pattern with the flags that hold at its beginning. -/
def ofSource? (flags : Flags) (source : String) : Option Compiled := do
  ofNode? source (← Node.read? flags source.toList)

def isMatch (c : Compiled) (text : String) : Bool := c.program.isMatch text.toList

end Compiled

end Guildhall.Pattern
