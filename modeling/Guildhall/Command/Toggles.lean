import Guildhall.Command.Builtin
import Guildhall.Command.Subcommand

/-!
The command that switches built-in commands on and off. It cannot be switched off itself, which
would leave no way to switch anything back on.
-/

set_option autoImplicit false

namespace Guildhall

open Text

/-- How a command is switched. -/
inductive Toggle where
  | enable | disable | reset
  deriving Repr, DecidableEq

namespace Toggle

def ofVerb? : String → Option Toggle
  | "enable" => some enable
  | "disable" => some disable
  | "reset" => some reset
  | _ => none

/-- Switches the command of an id. -/
def apply {C : Type} (t : Toggle) (id : String) (r : Registry C) : Registry C :=
  match t with
  | enable => r.setOverride id true
  | disable => r.setOverride id false
  | reset => r.clearOverride id

end Toggle

/-- What the arguments of the command ask for. -/
inductive ToggleRequest where
  | switch (toggle : Toggle) (id : String)
  | keepOn
  | list
  | usage
  deriving Repr, DecidableEq

/-- What the command answers. -/
inductive ToggleAnswer where
  | usage
  | keptOn
  | unknownId (id : String)
  | switched (id : String) (isOn : Bool)
  | listing (rows : List (String × Bool × List String))
  deriving Repr, DecidableEq

namespace ToggleRequest

def ofArgs (args : List Char) : ToggleRequest :=
  let (verb, rest) := subcommand args
  let id := String.ofList (toLower rest)
  if verb = "list" ∨ verb = "" then .list
  else
    match Toggle.ofVerb? verb with
    | none => .usage
    | some toggle =>
      if id.isEmpty then .usage
      else if toggle = .disable ∧ id = Builtin.builtins.id then .keepOn
      else .switch toggle id

variable {C : Type}

def run (request : ToggleRequest) (r : Registry C) : ToggleAnswer × Registry C :=
  match request with
  | usage => (.usage, r)
  | keepOn => (.keptOn, r)
  | list =>
    (.listing (r.entries.map fun e ↦ (e.1, r.isEnabled e.1, e.2.spec.triggers)), r)
  | switch toggle id =>
    if (r.entry? id).isNone then (.unknownId id, r)
    else
      let r := toggle.apply id r
      (.switched id (r.isEnabled id), r)

end ToggleRequest

def ToggleAnswer.text : ToggleAnswer → String
  | usage => "Usage: builtins [list | enable <id> | disable <id> | reset <id>]"
  | keptOn => "`builtins` cannot be disabled."
  | unknownId id => s!"No built-in command with id `{id}`."
  | switched id isOn => s!"`{id}` is now {state isOn}."
  | listing rows =>
    "\n".intercalate ("Built-in commands:" ::
      rows.map fun (id, isOn, triggers) ↦ s!"- {id} [{state isOn}]: " ++ ", ".intercalate triggers)
where
  state (isOn : Bool) : String := if isOn then "on" else "off"

end Guildhall
