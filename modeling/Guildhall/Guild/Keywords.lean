import Guildhall.Pattern.Basic
import Guildhall.Policy.Rule

/-!
Keywords and the patterns that fire them. A keyword pattern is a regular expression without
regard to case or, where it is none, the literal text with the boundaries of words at the ends
that are letters or numbers. Compiled patterns are kept by the text of the pattern.
-/

set_option autoImplicit false

namespace Guildhall

open Pattern

namespace Keyword

/-- The pattern that reads a text literally, as it is written. -/
def escape (s : List Char) : List Char :=
  s.flatMap fun c ↦ if metaCharacters.contains c then ['\\', c] else [c]

/-- Whether a literal pattern ends a word at this end. -/
def isWordEdge (c : Option Char) : Bool := c.any fun c ↦ Text.isAlphanumeric c || c == '_'

/-- The text of a literal pattern, with a boundary at each end that is part of a word. -/
def literalSource (s : List Char) : List Char :=
  (if isWordEdge s.head? then ['\\', 'b'] else []) ++ escape s ++
    if isWordEdge s.getLast? then ['\\', 'b'] else []

/-- The node that the text of a literal pattern is read as. -/
def literalNode (s : List Char) : Node :=
  let bound (edge : Option Char) : List Node :=
    if isWordEdge edge then [.look (.boundary false)] else []
  .concat (bound s.head? ++ (s.map fun c ↦ .one (.ofCodeFolded c.toNat)) ++ bound s.getLast?)

/-- Compiles a keyword pattern. -/
def compile? (pattern : String) : Option Compiled :=
  (Compiled.ofSource? { ignoreCase := true } pattern).or
    (Compiled.ofNode? (String.ofList (literalSource pattern.toList))
      (literalNode pattern.toList))

end Keyword

/-- Patterns that were compiled before, with the result. -/
structure PatternCache where
  compiled : List (String × Option Compiled) := []

namespace PatternCache

instance : Inhabited PatternCache := ⟨{}⟩

def get? (cache : PatternCache) (pattern : String) : Option (Option Compiled) :=
  cache.compiled.lookup pattern

/-- Compiles the patterns of the keywords that were not compiled before. Where there are any,
patterns that no keyword has any more are dropped. -/
def refresh (cache : PatternCache) (keywords : List Keyword) : PatternCache :=
  if keywords.all fun k ↦ (cache.get? k.pattern).isSome then cache
  else
    let kept := cache.compiled.filter fun e ↦ keywords.any (·.pattern == e.1)
    ⟨keywords.foldl (fun compiled k ↦
      if (compiled.lookup k.pattern).isSome then compiled
      else compiled ++ [(k.pattern, Keyword.compile? k.pattern)]) kept⟩

/-- The first keyword, in the given order, whose pattern matches the text. -/
def firstMatch (cache : PatternCache) (keywords : List Keyword) (text : String) :
    Option Keyword × PatternCache :=
  let cache := cache.refresh keywords
  (keywords.find? fun k ↦ (cache.get? k.pattern).join.any (·.isMatch text), cache)

end PatternCache

end Guildhall
