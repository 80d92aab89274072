import Guildhall.Table
import Guildhall.Text.Blank
import Guildhall.Text.Casing

/-!
Events that members sign up for. Names are compared trimmed and lower-cased.
-/

set_option autoImplicit false

namespace Guildhall

/-- The members of each event, in the order in which they joined, under the event's name. -/
structure Events where
  members : Table String (List String) := ∅
  deriving Repr, DecidableEq

namespace Events

instance : Inhabited Events := ⟨{}⟩

/-- The name under which an event is kept. -/
def normalName (event : String) : String :=
  String.ofList (Text.toLower (Text.trim event.toList))

/-- The events of a seed. Of names that are kept under one name, the last in order wins. -/
def ofSeed (seed : Table String (List String)) : Events :=
  ⟨.ofList (seed.entries.map fun e ↦ (normalName e.1, e.2))⟩

def members? (e : Events) (event : String) : Option (List String) :=
  e.members.get? (normalName event)

def names (e : Events) : List String := e.members.keys

/-- Adds a member; answers whether they were not one before. -/
def join (e : Events) (event member : String) : Bool × Events :=
  let present := (e.members? event).getD []
  if present.contains member then (false, ⟨e.members.insert (normalName event) present⟩)
  else (true, ⟨e.members.insert (normalName event) (present ++ [member])⟩)

/-- Takes a member out; answers whether they were one before. -/
def leave (e : Events) (event member : String) : Bool × Events :=
  match e.members? event with
  | none => (false, e)
  | some present =>
    (present.contains member, ⟨e.members.insert (normalName event) (present.filter (· != member))⟩)

end Events

end Guildhall
