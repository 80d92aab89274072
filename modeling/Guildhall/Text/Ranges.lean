/-!
Sets of characters given by ascending ranges of code points.
-/

set_option autoImplicit false

namespace Guildhall.Text

/-- Ranges of code points, both ends included. -/
abbrev Ranges := List (Nat × Nat)

def Ranges.hasCode (ranges : Ranges) (n : Nat) : Bool :=
  ranges.any fun r ↦ r.1 ≤ n && n ≤ r.2

def Ranges.has (ranges : Ranges) (c : Char) : Bool :=
  ranges.hasCode c.toNat

theorem Ranges.hasCode_iff (ranges : Ranges) (n : Nat) :
    ranges.hasCode n = true ↔ ∃ r ∈ ranges, r.1 ≤ n ∧ n ≤ r.2 := by
  simp [Ranges.hasCode]

/-- A set of characters with the names it goes by. A name is read without regard to case, blanks,
dashes and underscores; the names stand here in lower case without them. -/
structure NamedRanges where
  names : List String
  characters : Ranges
  deriving Repr, DecidableEq

/-- The set of a name. -/
def NamedRanges.find? (name : String) (sets : List NamedRanges) : Option Ranges :=
  (sets.find? (·.names.contains name)).map (·.characters)

end Guildhall.Text
