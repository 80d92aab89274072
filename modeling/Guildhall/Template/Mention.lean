import Guildhall.Text.Number

/-!
Mention tokens: `<@id>` and `<@!id>` for members, `<@&id>` for roles and `<#id>` for channels,
where the id is one or more decimal digits of any script.
-/

set_option autoImplicit false

namespace Guildhall.Mention

open Text

/-- What a token names. -/
inductive Kind where
  | member | role | channel
  deriving Repr, DecidableEq

/-- Reads the sign that a token begins with. -/
def sign? : List Char → Option (Kind × List Char)
  | '<' :: '@' :: '!' :: s => some (.member, s)
  | '<' :: '@' :: '&' :: s => some (.role, s)
  | '<' :: '@' :: s => some (.member, s)
  | '<' :: '#' :: s => some (.channel, s)
  | _ => none

/-- Reads one token: what it names, its digits and what follows it. -/
def read? (s : List Char) : Option (Kind × List Char × List Char) := do
  let (kind, s) ← sign? s
  let digits := s.takeWhile isDigit
  match s.drop digits.length with
  | '>' :: rest => if digits.isEmpty then none else some (kind, digits, rest)
  | _ => none

/-- Cuts every token out of a text, from left to right. What is joined in this way is not read
again. -/
def stripWithin : Nat → List Char → List Char
  | 0, s => s
  | _ + 1, [] => []
  | fuel + 1, c :: s =>
    match read? (c :: s) with
    | some (_, _, rest) => stripWithin fuel rest
    | none => c :: stripWithin fuel s

def strip (s : List Char) : List Char := stripWithin s.length s

/-- The digits of the members' tokens in a text, from left to right. -/
def membersWithin : Nat → List Char → List (List Char)
  | 0, _ => []
  | _ + 1, [] => []
  | fuel + 1, c :: s =>
    match read? (c :: s) with
    | some (.member, digits, rest) => digits :: membersWithin fuel rest
    | some (_, _, rest) => membersWithin fuel rest
    | none => membersWithin fuel s

def members (s : List Char) : List (List Char) := membersWithin s.length s

end Guildhall.Mention
