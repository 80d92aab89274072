import Guildhall.Text.Blank

/-!
Texts cut into lines, cut to length and put on one line.
-/

set_option autoImplicit false

namespace Guildhall.Text

/-- The words of a text with single spaces between them, cut to `max` characters. -/
def sanitizeLine (s : List Char) (max : Nat) : List Char :=
  ([' '].intercalate (words s)).take max

/-- The lines of a text, without their ends. The last line need not have one. -/
def lines : List Char → List (List Char)
  | [] => []
  | '\n' :: s => [] :: lines s
  | c :: s =>
    match lines s with
    | [] => [[c]]
    | line :: later => (c :: line) :: later

end Guildhall.Text
