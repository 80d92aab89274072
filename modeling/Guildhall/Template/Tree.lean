import Guildhall.Template.Expand

/-!
Templates as trees. A template is read once, and its reading depends on nothing but its text: a
backslash makes the next character literal, and a pair of braces that match is a group
(`Template.parse`). A tree is evaluated from left to right, and a group after what is in it; its
text gives way to what the first definition that fits makes of it (`Template.evaluate`).
-/

set_option autoImplicit false

namespace Guildhall

/-- What the first definition whose shape fits puts in the place of a text, or the text itself
where none fits. -/
def Definitions.substitute (ctx : TemplateContext) (s : List Char) (d : Draws) :
    Definitions → List Char × Draws
  | [] => (s, d)
  | defn :: defs =>
    match defn.shape.parts? s with
    | some parts => defn.handler ctx parts d
    | none => substitute ctx s d defs

/-- A template that was read: characters that stand for themselves, and groups with what is in
them. -/
inductive Template where
  | nil
  | literal (c : Char) (rest : Template)
  | group (body rest : Template)
  deriving Repr, DecidableEq

namespace Template

def append : Template → Template → Template
  | nil, t => t
  | literal c rest, t => literal c (rest.append t)
  | group body rest, t => group body (rest.append t)

/-- Reads a text up to the first brace that closes no group of it, and then from each such brace
to the next. An opening brace without a closing one is dropped. -/
def read : List Char → Template × List Template
  | [] => (nil, [])
  | ['\\'] => (nil, [])
  | '\\' :: c :: s => let (t, later) := read s; (literal c t, later)
  | '\x7d' :: s => let (t, later) := read s; (nil, t :: later)
  | '\x7b' :: s =>
    match read s with
    | (body, []) => (body, [])
    | (body, t :: later) => (group body t, later)
  | c :: s => let (t, later) := read s; (literal c t, later)

/-- The pieces between closing braces that are literal, with these braces. -/
def joined : Template → List Template → Template
  | t, [] => t
  | t, u :: later => t.append (literal '\x7d' (joined u later))

/-- The tree of a text. -/
def parse (s : List Char) : Template := joined (read s).1 (read s).2

example : parse "a\x7bb\x7bc\x7d".toList =
    literal 'a' (literal 'b' (group (literal 'c' nil) nil)) := by decide

example : parse "a\x7d\\\x7bb\\".toList =
    literal 'a' (literal '\x7d' (literal '\x7b' (literal 'b' nil))) := by decide

/-- The text of a tree, and what is left of the randomness. -/
def evaluate (defs : Definitions) (ctx : TemplateContext) : Template → Draws → List Char × Draws
  | nil, d => ([], d)
  | literal c rest, d =>
    let (text, d) := rest.evaluate defs ctx d
    (c :: text, d)
  | group body rest, d =>
    let (inner, d) := body.evaluate defs ctx d
    let (output, d) := defs.substitute ctx inner d
    let (text, d) := rest.evaluate defs ctx d
    (output ++ text, d)

end Template

end Guildhall
