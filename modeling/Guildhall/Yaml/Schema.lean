import Guildhall.Text.Number
import Guildhall.Yaml.Scalar

/-!
What plain scalars mean: null, a truth value, a number or text. Digits that a zero precedes are
text, and so is a number that is too large for a binary64 float.
-/

set_option autoImplicit false

namespace Guildhall.Yaml

def isNull (s : String) : Bool := ["null", "Null", "NULL", "~"].contains s

def truth? (s : String) : Option Bool :=
  if ["true", "True", "TRUE"].contains s then some true
  else if ["false", "False", "FALSE"].contains s then some false
  else none

/-- Whether a text is more than one digit, a sign aside, the first of which is a zero. -/
def hasLeadingZero (s : List Char) : Bool :=
  let s := match s with
    | '-' :: t | '+' :: t => t
    | t => t
  2 ≤ s.length && s.head? == some '0' && s.all Text.isAsciiDigit

def digitOf? (base : Nat) (c : Char) : Option Nat := (hexDigit? c).filter (· < base)

/-- The value of one or more digits of a base. -/
def digits? (base : Nat) (s : List Char) : Option Nat :=
  if s.isEmpty then none else s.foldlM (fun n c ↦ (digitOf? base c).map (base * n + ·)) 0

/-- The magnitude of an integer: decimal digits, or digits of the base that `0x`, `0o` or `0b`
announces. -/
def magnitude? (s : List Char) : Option Nat :=
  match s with
  | '0' :: 'x' :: t => digits? 16 t
  | '0' :: 'o' :: t => digits? 8 t
  | '0' :: 'b' :: t => digits? 2 t
  | t => if hasLeadingZero t then none else digits? 10 t

/-- An integer, which a sign may precede. -/
def integer? (s : List Char) : Option Int :=
  match s with
  | '-' :: t => (magnitude? t).map fun n ↦ -(n : Int)
  | '+' :: t => (magnitude? t).map fun n ↦ (n : Int)
  | t => (magnitude? t).map fun n ↦ (n : Int)

/-- A natural number below `bound`, which a plus sign may precede. -/
def natural? (bound : Nat) (s : List Char) : Option Nat :=
  match s with
  | '+' :: t => (magnitude? t).filter (· < bound)
  | t => (magnitude? t).filter (· < bound)

/-- An exact decimal number: `digits * 10 ^ exponent`. -/
structure Decimal where
  negative : Bool
  digits : Nat
  exponent : Int
  deriving Repr, DecidableEq

namespace Decimal

/-- Whether the nearest binary64 number is finite: the magnitude is less than
`2 ^ 1024 - 2 ^ 970`. -/
def isFinite (d : Decimal) : Bool :=
  if d.digits = 0 then true
  else
    let size := (toString d.digits).length + d.exponent
    if size < 300 then true
    else if 320 < size then false
    else if 0 ≤ d.exponent then
      d.digits * Nat.pow 10 d.exponent.toNat < Nat.pow 2 1024 - Nat.pow 2 970
    else d.digits < (Nat.pow 2 1024 - Nat.pow 2 970) * Nat.pow 10 (-d.exponent).toNat

/-- Drops `n` zeros at the end of the digits, as far as there are so many. -/
def dropZeros : Nat → Decimal → Decimal
  | 0, d => d
  | n + 1, d =>
    if d.digits % 10 = 0 then
      dropZeros n { d with digits := d.digits / 10, exponent := d.exponent + 1 }
    else d

/-- The one form of a number in which its last digit is no zero. -/
def normal (d : Decimal) : Decimal :=
  if d.digits = 0 then ⟨false, 0, 0⟩ else dropZeros (toString d.digits).length d

/-- Reads `e` and an integer, or nothing. -/
def exponent? (s : List Char) : Option Int :=
  match s with
  | [] => some 0
  | e :: t =>
    if e == 'e' || e == 'E' then
      match t with
      | '-' :: t => (digits? 10 t).map fun n ↦ -(n : Int)
      | '+' :: t => (digits? 10 t).map fun n ↦ (n : Int)
      | t => (digits? 10 t).map fun n ↦ (n : Int)
    else none

/-- Reads digits, of which a point may separate some, and an exponent. -/
def ofText? (s : List Char) : Option Decimal := do
  let (negative, s) := match s with
    | '-' :: t => (true, t)
    | '+' :: t => (false, t)
    | t => (false, t)
  let whole := s.takeWhile Text.isAsciiDigit
  let (places, rest) : List Char × List Char := match s.drop whole.length with
    | '.' :: t => (t.takeWhile Text.isAsciiDigit, t.dropWhile Text.isAsciiDigit)
    | t => ([], t)
  if whole.isEmpty && places.isEmpty then none
  else
    let exponent ← exponent? rest
    let digits := Text.digitsValue (whole ++ places)
    some { negative, digits, exponent := exponent - places.length }

end Decimal

/-- A number that is no integer: infinite, no number at all, or finite. -/
inductive Float where
  | infinity (negative : Bool)
  | notANumber
  | finite (d : Decimal)
  deriving Repr, DecidableEq

def float? (s : String) : Option Float :=
  if [".inf", ".Inf", ".INF", "+.inf", "+.Inf", "+.INF"].contains s then some (.infinity false)
  else if ["-.inf", "-.Inf", "-.INF"].contains s then some (.infinity true)
  else if [".nan", ".NaN", ".NAN"].contains s then some .notANumber
  else ((Decimal.ofText? s.toList).filter (·.isFinite)).map fun d ↦ .finite d.normal

/-- What an untagged plain scalar means. -/
inductive Meaning where
  | null
  | truth (b : Bool)
  | integer (n : Int)
  | float (x : Float)
  | text
  deriving Repr, DecidableEq

/-- An integer that fits 128 bits, with a sign or without. -/
def fitsInteger (n : Int) : Bool := -Nat.pow 2 127 ≤ n && n < Nat.pow 2 128

def meaning (s : String) : Meaning :=
  if s.isEmpty || isNull s then .null
  else
    match truth? s with
    | some b => .truth b
    | none =>
      match (integer? s.toList).filter fitsInteger with
      | some n => .integer n
      | none =>
        if hasLeadingZero s.toList then .text
        else
          match float? s with
          | some x => .float x
          | none => .text

end Guildhall.Yaml
