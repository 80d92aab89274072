import Guildhall.Command.Subcommand
import Guildhall.Policy.Resolver

/-!
The command that manages cooldowns. Durations are written as whole numbers of seconds, minutes or
hours; a cooldown of no duration is stored but shown as none.
-/

set_option autoImplicit false

namespace Guildhall

open Text

namespace Duration

/-- Seconds in a unit of duration. -/
def unitSeconds? : List Char → Option Nat
  | [] | ['s'] => some 1
  | ['m'] => some 60
  | ['h'] => some 3600
  | _ => none

/-- Reads a duration as members type it: digits and a unit, seconds where there is none. The
number of seconds has to be below `2 ^ 64`. -/
def parse? (s : List Char) : Option Duration := do
  let s := toAsciiLower (trim s)
  let value ← word? (s.takeWhile isAsciiDigit)
  let seconds := value.toNat * (← unitSeconds? (s.dropWhile isAsciiDigit))
  if seconds < UInt64.size then some (ofSeconds seconds) else none

/-- The whole seconds of a duration, in the largest unit that they fill. -/
def text (d : Duration) : String :=
  let seconds := d.seconds
  if 3600 ≤ seconds ∧ seconds % 3600 = 0 then s!"{seconds / 3600}h"
  else if 60 ≤ seconds ∧ seconds % 60 = 0 then s!"{seconds / 60}m"
  else s!"{seconds}s"

end Duration

/-- What the arguments of the command ask for. -/
inductive CooldownRequest where
  | set (duration : Duration) (action : String)
  | remove (action : String)
  | list
  | usage
  deriving Repr, DecidableEq

/-- What the command answers. -/
inductive CooldownAnswer where
  | usage
  | limited (action : String) (duration : Duration)
  | removed (action : String)
  | noCooldown (action : String)
  | listing (rules : List CooldownRule)
  | unsaved (error : CacheError)
  | unreadable (error : CacheError)
  deriving Repr, DecidableEq

namespace CooldownRequest

def ofArgs (args : List Char) : CooldownRequest :=
  let (verb, rest) := subcommand args
  match verb with
  | "set" =>
    let (word, action) := splitFirst rest
    match Duration.parse? word, actionArgument? action with
    | some duration, some action => .set duration action
    | _, _ => .usage
  | "remove" | "delete" => ((actionArgument? rest).map .remove).getD .usage
  | "list" | "" => .list
  | _ => .usage

variable {σ : Type}

def run (st : RuleStores σ) (request : CooldownRequest) (p : Policy) (s : σ) :
    CooldownAnswer × Policy × σ :=
  match request with
  | usage => (.usage, p, s)
  | set duration action =>
    match p.setCooldown st action duration s with
    | (.ok (), p, s) => (.limited action duration, p, s)
    | (.error e, p, s) => (.unsaved e, p, s)
  | remove action =>
    match p.removeCooldown st action s with
    | (.ok true, p, s) => (.removed action, p, s)
    | (.ok false, p, s) => (.noCooldown action, p, s)
    | (.error e, p, s) => (.unsaved e, p, s)
  | list =>
    match p.listCooldowns st s with
    | (.ok rules, p, s) => (.listing rules, p, s)
    | (.error e, p, s) => (.unreadable e, p, s)

end CooldownRequest

def CooldownAnswer.text : CooldownAnswer → String
  | usage => "Usage: cooldown set <duration> <action> | cooldown remove <action> | " ++
      "cooldown list (durations: 30, 30s, 5m, 2h)"
  | limited action duration =>
    if duration.isZero then s!"`{action}` has no cooldown."
    else s!"`{action}` can be used once every {duration.text}."
  | removed action => s!"Removed the cooldown on `{action}`."
  | noCooldown action => s!"`{action}` has no cooldown set."
  | listing rules =>
    match rules.filter (·.isEnforced) with
    | [] => "No cooldowns configured."
    | active =>
      "\n".intercalate ("Cooldowns:" ::
        active.map fun rule ↦ s!"- {rule.action}: {rule.duration.text}")
  | unsaved e => e.unsaved
  | unreadable e => s!"Could not load cooldowns: {e.message}"

end Guildhall
