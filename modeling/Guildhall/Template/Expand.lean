import Guildhall.Template.Placeholder

/-!
Expansion of templates in one pass. A brace opens a buffer; the brace that closes it replaces it
by what the placeholder stands for, so that inner placeholders come first. A backslash makes the
next character literal. A text that no definition handles stands for itself, a closing brace
without an opening one is kept, and an opening brace without a closing one is dropped.
-/

set_option autoImplicit false

namespace Guildhall

/-- The buffer that is being written and those that wait for it to close, innermost first, each
with its last character first; and whether the next character is literal. -/
structure Expansion where
  buffer : List Char := []
  outer : List (List Char) := []
  escaped : Bool := false
  draws : Draws
  deriving Repr, DecidableEq

namespace Expansion

def push (e : Expansion) (c : Char) : Expansion := { e with buffer := c :: e.buffer }

/-- Closes the innermost buffer. -/
def close (defs : Definitions) (ctx : TemplateContext) (e : Expansion) : Expansion :=
  match e.outer with
  | [] => e.push '\x7d'
  | buffer :: outer =>
    let fragment := e.buffer.reverse
    let (output, draws) := (defs.evaluate? ctx fragment e.draws).getD (fragment, e.draws)
    { e with buffer := output.reverse ++ buffer, outer, draws }

def step (defs : Definitions) (ctx : TemplateContext) (e : Expansion) (c : Char) : Expansion :=
  if e.escaped then { e.push c with escaped := false }
  else
    match c with
    | '\\' => { e with escaped := true }
    | '\x7b' => { e with buffer := [], outer := e.buffer :: e.outer }
    | '\x7d' => e.close defs ctx
    | c => e.push c

/-- The text of all buffers, those that were never closed included. -/
def text (e : Expansion) : List Char :=
  (e.outer.foldl (fun inner outer ↦ inner ++ outer) e.buffer).reverse

end Expansion

/-- Expands a template; answers the text and what is left of the randomness. -/
def Definitions.expand (defs : Definitions) (ctx : TemplateContext) (template : List Char)
    (d : Draws) : List Char × Draws :=
  let e := template.foldl (Expansion.step defs ctx) { draws := d }
  (e.text, e.draws)

end Guildhall
