import Guildhall.Text.Letters
import Guildhall.Text.Blank

/-!
The entries of a variable file. An entry is one line, or more lines where quotes are open at the
end of a line; a backslash keeps the next character from opening or closing any. A number sign
begins a comment if nothing but blanks stands before it, or if a blank that follows no other blank
stands before it. Two blanks in a row are text: a comment after them belongs to the entry.
-/

set_option autoImplicit false

namespace Guildhall.Environment

/-- Where in an entry a character is. -/
inductive EntryState where
  | plain
  | blank
  | escaped
  | double
  | doubleEscaped
  | single
  | singleEscaped
  | comment
  deriving Repr, DecidableEq

namespace EntryState

/-- The state after a character outside of quotes, where `blankState` is that after a blank. -/
def unquoted (blankState : EntryState) : Char → EntryState
  | '\\' => .escaped
  | '"' => .double
  | '\'' => .single
  | c => if Text.isBlank c && c != '\n' && c != '\r' then blankState else .plain

def next : EntryState → Char → EntryState
  | plain, c => unquoted .blank c
  | blank, c => unquoted .plain c
  | escaped, _ => .plain
  | double, c => if c = '\\' then .doubleEscaped else if c = '"' then .plain else .double
  | doubleEscaped, _ => .double
  | single, c => if c = '\\' then .singleEscaped else if c = '\'' then .plain else .single
  | singleEscaped, _ => .single
  | comment, c => if c = '\n' then .plain else .comment

/-- Whether a line that ends in a state ends its entry. -/
def endsLine : EntryState → Bool
  | plain | blank | escaped => true
  | _ => false

end EntryState

/-- The entries of the rest of a text, of which `read` holds the first one's characters so far in
reverse. An entry that the text breaks off in is none. -/
def splitFrom : EntryState → List Char → List Char → List (List Char)
  | .plain, read, [] => [read.reverse]
  | _, _, [] => []
  | .comment, _, c :: s => splitFrom (.next .comment c) [] s
  | st, read, c :: s =>
    if c = '#' && (st = .blank || read.all Text.isBlank) then
      read.reverse :: splitFrom .comment [] s
    else if c = '\n' && st.endsLine then read.reverse :: splitFrom .plain [] s
    else splitFrom (st.next c) (c :: read) s

/-- The entries of a text, which may begin with a byte order mark. -/
def splitEntries : List Char → List (List Char)
  | '\uFEFF' :: s => splitFrom .plain [] s
  | s => splitFrom .plain [] s

end Guildhall.Environment
