import Guildhall.Command.Builtin
import Guildhall.Policy.Rule

/-!
The configuration of a bot: what commands start with, who its members are, the events that guilds
start with, the set-up of built-in commands and the permission rules of new guilds.
-/

set_option autoImplicit false

namespace Guildhall

structure Config where
  /-- The text that commands start with. -/
  mark : String := "!"
  owner : Option Id := none
  admins : List Id := []
  members : List Id := []
  /-- The names of members; mentions resolve against these. -/
  names : Table Id String := ∅
  /-- The roles that members hold. -/
  roles : Table Id (List Id) := ∅
  events : Table String (List String) := ∅
  commands : Option (List CommandSpec) := none
  /-- The permission rules that a guild starts with. -/
  defaultPermissions : List PermissionRule := []
  deriving Repr, DecidableEq

namespace Config

instance : Inhabited Config := ⟨{}⟩

/-- Ranks members by the lists of ids, the highest rank first. -/
def rankOf (c : Config) (invoker : Invoker) : Rank :=
  if c.owner = some invoker.id then .owner
  else if invoker.id ∈ c.admins then .admin
  else if invoker.id ∈ c.members then .member
  else .user

def name? (c : Config) (id : Id) : Option String := c.names.get? id

/-- The member of an id, under their configured name where there is one. -/
def invoker (c : Config) (id : Id) (fallbackName : String) : Invoker :=
  { id, name := (c.name? id).getD fallbackName, roles := (c.roles.get? id).getD [] }

/-- The built-in commands as configured. -/
def registry (c : Config) : Registry Builtin := Builtin.registry (c.commands.getD [])

end Config

end Guildhall
