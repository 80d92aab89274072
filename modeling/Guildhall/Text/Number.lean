import Guildhall.Text.Letters

/-!
Decimal numerals. Readers take ASCII digits only, with leading zeros, and refuse what does not
fit; a sign is read where the caller allows it.
-/

set_option autoImplicit false

namespace Guildhall.Text

def digitValue (c : Char) : Nat := c.toNat - '0'.toNat

/-- The value of a text of digits. -/
def digitsValue (s : List Char) : Nat :=
  s.foldl (fun n c ↦ 10 * n + digitValue c) 0

/-- One or more ASCII digits. -/
def natural? (s : List Char) : Option Nat :=
  if !s.isEmpty && s.all isAsciiDigit then some (digitsValue s) else none

/-- A natural number below `2 ^ 64`. -/
def word? (s : List Char) : Option UInt64 := do
  let n ← natural? s
  if n < UInt64.size then some (UInt64.ofNat n) else none

/-- A natural number below `2 ^ 64`, which a plus sign may precede. -/
def signedWord? : List Char → Option UInt64
  | '+' :: s => word? s
  | s => word? s

/-- An integer from `-2 ^ 63` to `2 ^ 63 - 1`, which a sign may precede. -/
def integer? (s : List Char) : Option Int := do
  let n ← match s with
    | '-' :: t => (natural? t).map fun n ↦ -(n : Int)
    | '+' :: t => (natural? t).map fun n ↦ (n : Int)
    | t => (natural? t).map fun n ↦ (n : Int)
  if -Nat.pow 2 63 ≤ n ∧ n < Nat.pow 2 63 then some n else none

end Guildhall.Text
