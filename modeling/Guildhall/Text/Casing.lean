import Guildhall.Text.Casing.Table

/-!
Lower and upper case of texts, in full: one character may map to several, and a capital sigma
that ends a word maps to the final form. Folding by ASCII letters alone is kept apart.
-/

set_option autoImplicit false

namespace Guildhall.Text

/-- The lower case of one character, sigma not yet in its final form. -/
def lowerChar (c : Char) : List Char :=
  if c = 'İ' then ['i', '\u0307'] else [((mapRun lowerRuns c.toNat).map Char.ofNat).getD c]

def upperChar (c : Char) : List Char :=
  match upperExpansions.find? (·.1 == c.toNat) with
  | some (_, codes) => codes.map Char.ofNat
  | none => [((mapRun upperRuns c.toNat).map Char.ofNat).getD c]

/-- Whether the first character that is not ignored for casing has case. -/
def nextIsCased (s : List Char) : Bool :=
  match s.dropWhile (caseIgnorableCharacters.has ·) with
  | [] => false
  | c :: _ => casedCharacters.has c

/-- The lower case of the text after `before`, which is given last character first. -/
def toLowerAfter (before : List Char) : List Char → List Char
  | [] => []
  | c :: s =>
    (if c = 'Σ' then [if nextIsCased before && !nextIsCased s then 'ς' else 'σ']
      else lowerChar c) ++ toLowerAfter (c :: before) s

def toLower (s : List Char) : List Char := toLowerAfter [] s

def toUpper (s : List Char) : List Char := s.flatMap upperChar

/-- Lower case of the letters `A` to `Z` alone. -/
def toAsciiLower (s : List Char) : List Char := s.map Char.toLower

def toAsciiUpper (s : List Char) : List Char := s.map Char.toUpper

end Guildhall.Text
