import Guildhall.Pattern.Charset
import Guildhall.Text.BinaryProperty
import Guildhall.Text.Script

/-!
Named classes of characters, as patterns write them between braces. A name alone is that of a
binary property, of a general category or of a script, in this order; a category or a script may
also stand as the value of its property.
-/

set_option autoImplicit false

namespace Guildhall.Pattern

open Text

/-- What a pattern asks for: one letter or name, or a value of a named property. -/
inductive PropertyQuery where
  | named (name : String)
  | valued (property value : String)
  deriving Repr, DecidableEq

/-- A name without blanks, dashes and underscores, in lower case. -/
def plainName (s : List Char) : String :=
  String.ofList
    ((s.filter fun c ↦ !(['_', '-', ' '].contains c) && c.toNat < 128).map Char.toLower)

/-- The form in which names are compared. The word `is` at the beginning does not count, except
in `isc`, which is the short name of a property that no class is for. -/
def looseName (name : String) : String :=
  match name.toList with
  | c :: d :: s =>
    if c.toLower = 'i' && d.toLower = 's' then
      if plainName s = "c" then "isc" else plainName s
    else plainName (c :: d :: s)
  | s => plainName s

/-- The categories that a group of categories joins. -/
def categoryGroups : List (List String × List String) := [
  (["l", "letter"], ["lu", "ll", "lt", "lm", "lo"]),
  (["lc", "casedletter"], ["lu", "ll", "lt"]),
  (["m", "mark", "combiningmark"], ["mn", "mc", "me"]),
  (["n", "number"], ["nd", "nl", "no"]),
  (["p", "punctuation", "punct"], ["pc", "pd", "ps", "pe", "pi", "pf", "po"]),
  (["s", "symbol"], ["sm", "sc", "sk", "so"]),
  (["z", "separator"], ["zs", "zl", "zp"])]

/-- The characters that have a category. -/
def assigned : Charset := Charset.normalize (Category.all.flatMap (·.characters))

def unassigned : Charset := Charset.complement Charset.maxCode assigned

/-- The characters of a category or of a group of categories. -/
def category? (name : String) : Option Charset :=
  match name with
  | "any" => some [(0, Charset.maxCode)]
  | "ascii" => some [(0, 0x7F)]
  | "assigned" => some assigned
  | "cn" | "unassigned" => some unassigned
  | "c" | "other" => some (Category.union ["cc", "cf", "co"] ++ unassigned)
  | name =>
    match categoryGroups.find? (·.1.contains name) with
    | some group => some (Category.union group.2)
    | none => NamedRanges.find? name Category.all

def script? (name : String) : Option Charset := NamedRanges.find? name Script.all

/-- The characters of a class, if there is a class of this name. -/
def PropertyQuery.characters? : PropertyQuery → Option Charset
  | named name =>
    let name := looseName name
    ((NamedRanges.find? name BinaryProperty.all).or (category? name)).or (script? name)
  | valued property value =>
    match looseName property with
    | "gc" | "generalcategory" => category? (looseName value)
    | "sc" | "script" => script? (looseName value)
    | _ => none

end Guildhall.Pattern
