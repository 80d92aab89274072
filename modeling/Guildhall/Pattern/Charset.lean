import Guildhall.Text.Ranges

/-!
Sets of characters as pattern classes build them: unions, complements, intersections,
differences and symmetric differences of ranges of code points. In normal form the ranges ascend
and no two of them touch.
-/

set_option autoImplicit false

namespace Guildhall.Pattern

/-- A set of characters, given by ranges of code points. -/
abbrev Charset := Text.Ranges

namespace Charset

/-- The greatest code point. -/
def maxCode : Nat := 0x10FFFF

/-- Joins a range with those that follow it and touch it, in a list that ascends by first code
points. -/
def joinFrom (r : Nat × Nat) : Charset → Charset
  | [] => [r]
  | t :: rest =>
    if t.1 ≤ r.2 + 1 then joinFrom (r.1, max r.2 t.2) rest else r :: joinFrom t rest

def joinTouching : Charset → Charset
  | [] => []
  | r :: rest => joinFrom r rest

/-- The same set in normal form. -/
def normalize (s : Charset) : Charset :=
  joinTouching (s.mergeSort fun a b ↦ a.1 ≤ b.1)

def union (a b : Charset) : Charset := normalize (a ++ b)

/-- The code points from `low` to `high` outside a set in normal form. -/
def gaps (low high : Nat) : Charset → Charset
  | [] => if low ≤ high then [(low, high)] else []
  | r :: rest =>
    (if low < r.1 ∧ low ≤ high then [(low, min high (r.1 - 1))] else []) ++
      gaps (max low (r.2 + 1)) high rest

/-- The code points up to `high` that are not in a set. -/
def complement (high : Nat) (s : Charset) : Charset := gaps 0 high (normalize s)

def inter (a b : Charset) : Charset :=
  complement maxCode (complement maxCode a ++ complement maxCode b)

def diff (a b : Charset) : Charset := inter a (complement maxCode b)

def symmDiff (a b : Charset) : Charset := union (diff a b) (diff b a)

def single (c : Char) : Charset := [(c.toNat, c.toNat)]

def isAscii (s : Charset) : Bool := s.all (·.2 < 128)

/-- The surrogate code points, which are no characters. -/
def surrogates : Charset := [(0xD800, 0xDFFF)]

/-- Whether no character is in the set. -/
def isVoid (s : Charset) : Bool := (diff s surrogates).isEmpty

end Charset

end Guildhall.Pattern
