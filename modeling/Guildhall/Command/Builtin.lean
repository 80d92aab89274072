import Guildhall.Command.Registry

/-!
The built-in commands: their ids, the tokens that call them unless configured otherwise, and what
the overview says of them. Where a command is configured, the triggers that it lacks are added and
all else is as configured.
-/

set_option autoImplicit false

namespace Guildhall

inductive Builtin where
  | perm | cooldown | command | keyword | event | help | ping | builtins
  deriving Repr, DecidableEq, Inhabited

namespace Builtin

/-- The built-in commands in the order in which they are set up. -/
def all : List Builtin := [perm, cooldown, command, keyword, event, help, ping, builtins]

theorem mem_all (b : Builtin) : b ∈ all := by cases b <;> decide

def id : Builtin → String
  | perm => "perm"
  | cooldown => "cooldown"
  | command => "command"
  | keyword => "keyword"
  | event => "event"
  | help => "help"
  | ping => "ping"
  | builtins => "builtins"

/-- What the overview says of a command. -/
def summary : Builtin → String
  | perm => "Set who may run an action and everything under it: perm set|role|get|remove|list"
  | cooldown =>
    "Limit how often an action can run: cooldown set|remove|list (admins are exempt)"
  | command => "Manage custom text commands: command add|replace|delete|show|list"
  | keyword => "Reply whenever a message matches a pattern: keyword add|replace|delete|list"
  | event => "Sign up for events: event join|leave|list"
  | help => "List commands, or `help templates` for placeholders"
  | ping => "Check that the bot is listening"
  | builtins => "Turn built-in commands on or off: builtins list|enable|disable|reset"

def triggers : Builtin → List String
  | perm => ["perm", "permission"]
  | cooldown => ["cooldown", "cd"]
  | command => ["command", "cmd"]
  | keyword => ["keyword", "kw"]
  | event => ["event"]
  | help => ["help", "commands"]
  | ping => ["ping"]
  | builtins => ["builtins"]

def spec (b : Builtin) : CommandSpec := { id := b.id, triggers := b.triggers }

/-- The built-in command of an id. -/
def ofId? (id : String) : Option Builtin := all.find? (·.id == id)

theorem ofId?_id (b : Builtin) : ofId? b.id = some b := by cases b <;> rfl

/-- Adds the set-ups of those built-in commands that none of `specs` is for. -/
def fillIn (specs : List CommandSpec) : List CommandSpec :=
  all.foldl (fun specs b ↦ if specs.any (·.id == b.id) then specs else specs ++ [b.spec]) specs

/-- Adds the default triggers of a command to the first set-up that is for it, or its default
set-up where there is none. -/
def merge (b : Builtin) : List CommandSpec → List CommandSpec
  | [] => [b.spec]
  | s :: specs => if s.id = b.id then s.addTriggers b.triggers :: specs else s :: merge b specs

/-- The set-ups of all built-in commands, those that are configured first. -/
def configured (specs : List CommandSpec) : List CommandSpec :=
  all.foldl (fun specs b ↦ b.merge specs) specs

/-- The registry of the built-in commands. Set-ups that are for no built-in command are left
out. -/
def registry (specs : List CommandSpec) : Registry Builtin :=
  (configured specs).foldl
    (fun r s ↦ match ofId? s.id with
      | some b => r.register s b
      | none => r)
    ∅

end Builtin

end Guildhall
