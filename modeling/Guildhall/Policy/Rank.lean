import Guildhall.Text.Blank
import Guildhall.Text.Casing

/-!
Ranks of members, from the least to the most privileged.
-/

set_option autoImplicit false

namespace Guildhall

inductive Rank where
  | user | member | admin | owner
  deriving Repr, DecidableEq, Inhabited

namespace Rank

def level : Rank → Nat
  | user => 0
  | member => 1
  | admin => 2
  | owner => 3

instance : LE Rank := ⟨fun a b ↦ a.level ≤ b.level⟩

instance : DecidableLE Rank := fun a b ↦ Nat.decLe a.level b.level

/-- Admins and owners wait for no cooldown. -/
def isPrivileged : Rank → Bool
  | admin | owner => true
  | user | member => false

theorem isPrivileged_iff (r : Rank) : r.isPrivileged = true ↔ admin ≤ r := by
  cases r <;> decide

def name : Rank → String
  | user => "user"
  | member => "member"
  | admin => "admin"
  | owner => "owner"

/-- The rank that has exactly this name. -/
def ofName? (s : String) : Option Rank :=
  [user, member, admin, owner].find? (·.name == s)

theorem ofName?_name (r : Rank) : ofName? r.name = some r := by
  cases r <;> rfl

/-- Reads a rank as members type it: blanks around the name and the case of its letters do not
matter, and `everyone` is the lowest rank. -/
def parse? (s : String) : Option Rank :=
  let name := String.ofList (Text.toAsciiLower (Text.trim s.toList))
  if name = "everyone" then some user else ofName? name

end Rank

/-- A name that is no rank. -/
structure UnknownRank where
  name : String

def UnknownRank.message (e : UnknownRank) : String :=
  s!"unknown rank `{e.name}` (expected user, member, admin or owner)"

def Rank.parse (s : String) : Except UnknownRank Rank :=
  match Rank.parse? s with
  | some rank => .ok rank
  | none => .error ⟨s⟩

end Guildhall
