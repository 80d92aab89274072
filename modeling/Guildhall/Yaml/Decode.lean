import Guildhall.Table
import Guildhall.Yaml.Node
import Guildhall.Yaml.Schema

/-!
Reading typed values from a YAML document. Scalars of any form are text; numbers and truth values
are read from plain scalars alone. A value that is left out is an empty list or mapping. Aliases
are followed as often as a hundred times the size of the document, and no oftener.
-/

set_option autoImplicit false

namespace Guildhall.Yaml

/-- The numbered nodes of the document that is read. -/
abbrev Decode := ReaderT (List (Nat × Node)) (StateT Nat Option)

namespace Decode

variable {α : Type}

/-- Reads a value from a document; of an empty one, from the scalar that is missing. -/
def run (f : Node → Decode α) (d : Document) : Option α :=
  let root := d.root.getD (.scalar .missing)
  ((f root d.named).run (100 * root.size)).map (·.1)

/-- The node that is meant: that of an alias, or the node itself. -/
def follow (n : Node) : Decode Node :=
  match n with
  | .alias number => do
    match ← get with
    | 0 => failure
    | left + 1 => do
      set left
      match (← read).lookup number with
      | some target => pure target
      | none => failure
  | n => pure n

def coreTag (name : String) : String := "tag:yaml.org,2002:" ++ name

/-- The name after the exclamation mark of a tag, if it begins with one. -/
def localTag? (tag : Option String) : Option String :=
  match tag.map (·.toList) with
  | some ['!'] => some "!"
  | some ('!' :: name) => some (String.ofList name)
  | _ => none

def text (n : Node) : Decode String := do
  match ← follow n with
  | .scalar s => pure s.text
  | _ => failure

/-- The text of a scalar that is plain, or literal under the core tag of that name. -/
def literalText (name : String) (n : Node) : Decode String := do
  match ← follow n with
  | .scalar s =>
    if s.style = .plain || (s.style = .literal && s.tag == some (coreTag name)) then pure s.text
    else failure
  | _ => failure

def ofOption (a : Option α) : Decode α :=
  match a with
  | some a => pure a
  | none => failure

/-- A natural number below `bound`. -/
def natural (bound : Nat) (n : Node) : Decode Nat := do
  ofOption (natural? bound (← literalText "int" n).toList)

/-- A natural number below `2 ^ 64`. -/
def word (n : Node) : Decode UInt64 := do return UInt64.ofNat (← natural UInt64.size n)

def truth (n : Node) : Decode Bool := do ofOption (truth? (← literalText "bool" n))

/-- Whether a node stands for no value. -/
def isAbsent (n : Node) : Decode Bool := do
  match ← follow n with
  | .scalar s =>
    if s.style ≠ .plain then pure false
    else
      match s.tag with
      | some tag =>
        if tag ≠ coreTag "null" then pure false
        else if isNull s.text then pure true
        else failure
      | none => pure (s.text.isEmpty || isNull s.text)
  | _ => pure false

def optional (f : Node → Decode α) (n : Node) : Decode (Option α) := do
  let target ← follow n
  if ← isAbsent target then pure none else some <$> f target

/-- Whether a node was left out. -/
def isMissing (n : Node) : Bool :=
  match n with
  | .scalar s => s.style = .plain && s.text.isEmpty
  | _ => false

def list (f : Node → Decode α) (n : Node) : Decode (List α) := do
  match ← follow n with
  | .sequence _ items => items.mapM f
  | n => if isMissing n then pure [] else failure

def pairs (n : Node) : Decode (List (Node × Node)) := do
  match ← follow n with
  | .mapping _ pairs => pure pairs
  | n => if isMissing n then pure [] else failure

/-- A mapping with keys of one kind; of pairs with one key the last wins. -/
def table {K : Type} [LT K] [DecidableEq K] [DecidableLT K]
    [Std.Trichotomous (α := K) (· < ·)] [Trans (α := K) (β := K) (γ := K) (· < ·) (· < ·) (· < ·)]
    (key : Node → Decode K) (f : Node → Decode α) (n : Node) : Decode (Table K α) := do
  return .ofList (← (← pairs n).mapM fun p ↦ do return (← key p.1, ← f p.2))

/-- A name without contents: the text of a scalar, or a tag on a scalar that is left out. -/
def variant (n : Node) : Decode String := do
  match ← follow n with
  | .scalar s =>
    match localTag? s.tag with
    | some name =>
      if s.style = .plain && (s.text.isEmpty || isNull s.text) then pure name else failure
    | none => pure s.text
  | _ => failure

/-- A text that is no number, truth value or null. -/
def untypedText (n : Node) : Decode String := do
  match ← follow n with
  | .scalar s =>
    match s.tag with
    | some tag =>
      if (localTag? tag).isSome || ["bool", "int", "float", "null"].any (coreTag · == tag) then
        failure
      else pure s.text
    | none => if s.style = .plain && meaning s.text ≠ .text then failure else pure s.text
  | _ => failure

/-- The fields of a record. -/
abbrev Fields := List (String × Node)

/-- The fields of a record. Each of the names may occur once at most, and other names as often as
they like. -/
def fields (names : List String) (n : Node) : Decode Fields := do
  let all ← (← pairs n).mapM fun p ↦ do return (← text p.1, p.2)
  let known := all.filter fun f ↦ names.contains f.1
  if (known.map (·.1)).Nodup then pure all else failure

/-- A field that has to be there. -/
def Fields.need (fs : Fields) (name : String) (f : Node → Decode α) : Decode α :=
  match fs.lookup name with
  | some n => f n
  | none => failure

/-- A field that may be left out. -/
def Fields.getD (fs : Fields) (name : String) (f : Node → Decode α) (fallback : α) : Decode α :=
  match fs.lookup name with
  | some n => f n
  | none => pure fallback

end Decode

end Guildhall.Yaml
