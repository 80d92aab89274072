import Guildhall.Command.Spec
import Guildhall.Table

/-!
Registered commands, by id and by trigger. Registering an id again takes back its former triggers
and whatever it was switched to; a trigger belongs to the id that was last registered with it.
-/

set_option autoImplicit false

namespace Guildhall

/-- A registered command and its set-up. -/
structure RegistryEntry (C : Type) where
  spec : CommandSpec
  command : C
  deriving Repr, DecidableEq

/-- The entries by id, the ids by normal form of a trigger, and the ids that were switched on or
off since they were registered. -/
structure Registry (C : Type) where
  byId : Table String (RegistryEntry C) := ∅
  byTrigger : Table String String := ∅
  overrides : Table String Bool := ∅

namespace Registry

variable {C : Type}

instance : EmptyCollection (Registry C) := ⟨{}⟩

instance : Inhabited (Registry C) := ⟨∅⟩

/-- The entry of an id. -/
def entry? (r : Registry C) (id : String) : Option (RegistryEntry C) := r.byId.get? id

/-- The entry that a token calls. -/
def entryOfTrigger? (r : Registry C) (token : String) : Option (RegistryEntry C) :=
  (r.byTrigger.get? (triggerKey token)).bind r.entry?

/-- The entries in the order of their ids. -/
def entries (r : Registry C) : List (String × RegistryEntry C) := r.byId.entries

/-- Registers a command under the id and the triggers of its set-up. -/
def register (r : Registry C) (spec : CommandSpec) (command : C) : Registry C where
  byId := r.byId.insert spec.id { spec, command }
  byTrigger := spec.triggers.foldl (fun t trigger ↦ t.insert (triggerKey trigger) spec.id)
    (r.byTrigger.filter fun _ id ↦ id ≠ spec.id)
  overrides := r.overrides.erase spec.id

/-- Switches a command on or off, whatever its set-up says. -/
def setOverride (r : Registry C) (id : String) (enabled : Bool) : Registry C :=
  { r with overrides := r.overrides.insert id enabled }

/-- Leaves it to the set-up again whether a command is on. -/
def clearOverride (r : Registry C) (id : String) : Registry C :=
  { r with overrides := r.overrides.erase id }

def isEnabled (r : Registry C) (id : String) : Bool :=
  (r.overrides.get? id).getD ((r.entry? id).any (·.spec.enabled))

end Registry

end Guildhall
