import Guildhall.Yaml.Decode

/-!
Values of any kind. A mapping may not have one key twice, an integer has to fit 64 bits, and
collections may be nested 125 deep.
-/

set_option autoImplicit false

namespace Guildhall.Yaml

inductive Value where
  | null
  | truth (b : Bool)
  | integer (n : Int)
  | float (x : Float)
  | text (s : String)
  | sequence (items : List Value)
  | mapping (pairs : List (Value × Value))
  | tagged (tag : String) (value : Value)

namespace Value

instance : Inhabited Value := ⟨null⟩

mutual

/-- Whether two values are the same; the order of a mapping does not matter. -/
def same : Value → Value → Bool
  | null, null => true
  | truth a, truth b => a == b
  | integer a, integer b => a == b
  | float a, float b => a == b
  | text a, text b => a == b
  | sequence as, sequence bs => sameItems as bs
  | mapping as, mapping bs => as.length == bs.length && samePairs as bs
  | tagged s a, tagged t b => s == t && same a b
  | _, _ => false

def sameItems : List Value → List Value → Bool
  | [], [] => true
  | a :: as, b :: bs => same a b && sameItems as bs
  | _, _ => false

/-- Whether every pair of the first mapping is in the second. -/
def samePairs : List (Value × Value) → List (Value × Value) → Bool
  | [], _ => true
  | (k, v) :: as, bs => bs.any (fun b ↦ same k b.1 && same v b.2) && samePairs as bs

end

/-- The value of a key. -/
def get? (v : Value) (key : String) : Option Value :=
  match v with
  | mapping pairs => (pairs.find? fun p ↦ same (text key) p.1).map (·.2)
  | tagged _ (mapping pairs) => (pairs.find? fun p ↦ same (text key) p.1).map (·.2)
  | _ => none

def text? : Value → Option String
  | text s => some s
  | tagged _ (text s) => some s
  | _ => none

open Decode

/-- The value of a plain scalar without a tag. -/
def ofPlain (s : String) : Decode Value :=
  match meaning s with
  | .null => pure null
  | .truth b => pure (truth b)
  | .integer n => if -Nat.pow 2 63 ≤ n ∧ n < UInt64.size then pure (integer n) else failure
  | .float x => pure (float x)
  | .text => pure (text s)

/-- The value of a scalar under a tag that is no local one. -/
def ofTagged (tag s : String) : Decode Value :=
  if tag = coreTag "bool" then truth <$> ofOption (truth? s)
  else if tag = coreTag "int" then
    match integer? s.toList with
    | some n => if -Nat.pow 2 63 ≤ n ∧ n < UInt64.size then pure (integer n) else failure
    | none => failure
  else if tag = coreTag "float" then float <$> ofOption (float? s)
  else if tag = coreTag "null" then if isNull s then pure null else failure
  else pure (text s)

def ofScalar (s : Scalar) : Decode Value :=
  match s.tag with
  | some tag =>
    match localTag? tag with
    | some name => tagged name <$> if s.style = .plain then ofPlain s.text else pure (text s.text)
    | none => ofTagged tag s.text
  | none => if s.style = .plain then ofPlain s.text else pure (text s.text)

/-- A value under a local tag, if there is one. -/
def under (tag : Option String) (v : Value) : Value :=
  match localTag? tag with
  | some name => tagged name v
  | none => v

/-- The pairs as a mapping, if no key is there twice. -/
def ofPairs (pairs : List (Value × Value)) : Decode Value :=
  if (pairs.map (·.1)).Pairwise fun a b ↦ ¬ same a b = true then pure (mapping pairs) else failure

/-- Reads a node with collections nested `depth` deep at most. -/
def decodeWithin : Nat → Node → Decode Value
  | depth, n => do
    match depth, ← follow n with
    | _, .scalar s => ofScalar s
    | depth + 1, .sequence tag items =>
      return under tag (.sequence (← items.mapM (decodeWithin depth)))
    | depth + 1, .mapping tag pairs =>
      under tag <$> ofPairs
        (← pairs.mapM fun p ↦ do return (← decodeWithin depth p.1, ← decodeWithin depth p.2))
    | _, _ => failure

def decode (n : Node) : Decode Value := decodeWithin 125 n

end Value

end Guildhall.Yaml
