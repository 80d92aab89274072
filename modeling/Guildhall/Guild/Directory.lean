import Guildhall.Guild.Scope

/-!
The directory of open guilds. A guild is opened the first time it is asked for and stays open
until it is torn down; one that cannot be opened and fully read is tried anew the next time.
-/

set_option autoImplicit false

namespace Guildhall

/-- Why a guild could not be opened. -/
inductive OpenError where
  | store (fault : StoreFault)
  | preload (error : CacheError)
  deriving Repr, DecidableEq

def OpenError.message : OpenError → String
  | store fault => fault.message
  | preload error => error.message

/-- The scopes of the guilds that are open, the number of scopes that were opened so far, and the
events that every scope starts with. -/
structure Directory (γ : Type) where
  scopes : Table String (Scope γ) := ∅
  opened : Nat := 0
  events : Events := {}

namespace Directory

variable {γ ω α : Type}

/-- The scope of a guild, which is opened if it is not open. -/
def scope (b : Backend γ ω) (guild : String) (d : Directory γ) (w : ω) :
    Except OpenError (Scope γ) × Directory γ × ω :=
  match d.scopes.get? guild with
  | some sc => (.ok sc, d, w)
  | none =>
    match b.openGuild guild w with
    | (.error fault, w) => (.error (.store fault), d, w)
    | (.ok stored, w) =>
      let fresh : Scope γ := { id := guild, serial := d.opened, stored, events := d.events }
      match fresh.preload b.stores w with
      | (.error e, _, w) => (.error (.preload e), d, w)
      | (.ok (), sc, w) =>
        (.ok sc, { d with scopes := d.scopes.insert guild sc, opened := d.opened + 1 }, w)

/-- Runs an operation on the scope of a guild. -/
def within (b : Backend γ ω) (guild : String) (run : Scope γ → ω → α × Scope γ × ω)
    (d : Directory γ) (w : ω) : Except OpenError α × Directory γ × ω :=
  match d.scope b guild w with
  | (.error e, d, w) => (.error e, d, w)
  | (.ok sc, d, w) =>
    let (a, sc, w) := run sc w
    (.ok a, { d with scopes := d.scopes.insert guild sc }, w)

/-- Closes a guild and forgets all that was kept of it; answers whether it was open. -/
def teardown (guild : String) (d : Directory γ) : Bool × Directory γ :=
  (d.scopes.contains guild, { d with scopes := d.scopes.erase guild })

end Directory

end Guildhall
