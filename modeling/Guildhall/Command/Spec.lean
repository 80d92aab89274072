import Guildhall.Action

/-!
How a built-in command is set up: whether it is on, which tokens call it and what it replies.
-/

set_option autoImplicit false

namespace Guildhall

/-- The set-up of the command of an id. -/
structure CommandSpec where
  id : String
  enabled : Bool := true
  triggers : List String := []
  /-- The template that was configured as the command's reply. -/
  reply : Option String := none
  deriving Repr, DecidableEq, Inhabited

namespace CommandSpec

/-- Whether a trigger is among those of the spec, in any case of its ASCII letters. -/
def hasTrigger (spec : CommandSpec) (trigger : String) : Bool :=
  spec.triggers.any fun t ↦ Text.toAsciiLower t.toList == Text.toAsciiLower trigger.toList

/-- Adds those triggers that the spec does not have yet. -/
def addTriggers (spec : CommandSpec) (triggers : List String) : CommandSpec :=
  triggers.foldl
    (fun spec t ↦
      if spec.hasTrigger t then spec else { spec with triggers := spec.triggers ++ [t] })
    spec

end CommandSpec

/-- The form in which triggers and the tokens of messages are compared. -/
def triggerKey (trigger : String) : String := String.ofList (normalizeTrigger trigger.toList)

end Guildhall
