import Guildhall.Policy.Rank
import Guildhall.Time.Timestamp

/-!
The rows that a guild keeps: permission rules, cooldown rules, custom commands and keywords,
each under a key of its own, and the members that rules are applied to.
-/

set_option autoImplicit false

namespace Guildhall

/-- A member, role or owner id of the platform. -/
abbrev Id := UInt64

/-- Rows that are stored under a key of their own. -/
class Keyed (V : Type) where
  key : V → String

/-- Who may run an action: members from a rank upwards, and those who hold a role. -/
structure PermissionRule where
  action : String
  rank : Rank
  role : Option Id := none
  deriving Repr, DecidableEq, Inhabited

namespace PermissionRule

instance : Keyed PermissionRule := ⟨action⟩

/-- The rule for an action that nothing is configured for. -/
def unrestricted (action : String) : PermissionRule := { action, rank := .user }

/-- The rule while the permission store cannot be read. -/
def failClosed (action : String) : PermissionRule := { action, rank := .owner }

end PermissionRule

/-- How long an action rests after it ran. -/
structure CooldownRule where
  action : String
  duration : Duration
  last : Option Timestamp := none
  deriving Repr, DecidableEq, Inhabited

namespace CooldownRule

instance : Keyed CooldownRule := ⟨action⟩

/-- A rule of no duration is kept and does nothing. -/
def isEnforced (r : CooldownRule) : Bool := !r.duration.isZero

end CooldownRule

/-- A command that members wrote: its template is expanded when it is run. -/
structure CustomCommand where
  name : String
  template : String
  owner : Id
  deriving Repr, DecidableEq, Inhabited

instance : Keyed CustomCommand := ⟨CustomCommand.name⟩

/-- A template that ordinary messages fire when they match the pattern. -/
structure Keyword where
  name : String
  pattern : String
  template : String
  owner : Id
  deriving Repr, DecidableEq, Inhabited

instance : Keyed Keyword := ⟨Keyword.name⟩

/-- The member that a message comes from. -/
structure Invoker where
  id : Id
  name : String
  roles : List Id := []
  deriving Repr, DecidableEq, Inhabited

end Guildhall
