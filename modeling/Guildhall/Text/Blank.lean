/-!
White space and the words it separates. Blank characters are those of the property
`White_Space`; a text is trimmed of them at both ends and split into the words between them.
-/

set_option autoImplicit false

namespace Guildhall.Text

/-- The property `White_Space`: the joiners, the zero-width spaces and the separators of the
control range `1C` to `1F` are not in it. -/
def isBlank (c : Char) : Bool :=
  let n := c.toNat
  (0x09 ≤ n && n ≤ 0x0D) || n == 0x20 || n == 0x85 || n == 0xA0 || n == 0x1680 ||
    (0x2000 ≤ n && n ≤ 0x200A) || n == 0x2028 || n == 0x2029 || n == 0x202F || n == 0x205F ||
    n == 0x3000

def trimStart (s : List Char) : List Char := s.dropWhile isBlank

def trimEnd (s : List Char) : List Char := (s.reverse.dropWhile isBlank).reverse

def trim (s : List Char) : List Char := trimEnd (trimStart s)

/-- The word that `s` begins with (empty at a blank) and the words after it. -/
def wordsFrom : List Char → List Char × List (List Char)
  | [] => ([], [])
  | c :: s =>
    let (word, later) := wordsFrom s
    if isBlank c then ([], if word.isEmpty then later else word :: later) else (c :: word, later)

/-- The maximal runs of characters that are not blank. -/
def words (s : List Char) : List (List Char) :=
  let (word, later) := wordsFrom s
  if word.isEmpty then later else word :: later

/-- The text before the first blank and the text after it; nothing where there is no blank. -/
def splitBlank? (s : List Char) : Option (List Char × List Char) :=
  match s.dropWhile (!isBlank ·) with
  | [] => none
  | _ :: rest => some (s.takeWhile (!isBlank ·), rest)

/-- The first word of `s` and what follows it, trimmed. -/
def splitFirst (s : List Char) : List Char × List Char :=
  match splitBlank? (trim s) with
  | some (word, rest) => (word, trim rest)
  | none => (trim s, [])

end Guildhall.Text
