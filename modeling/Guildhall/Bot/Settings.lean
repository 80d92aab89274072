import Guildhall.Bot.Config
import Guildhall.Store.Disk
import Guildhall.Store.Document
import Guildhall.Yaml.Value

/-!
Reading a configuration file. Every setting may be left out, and so may the file. The built-in
commands can be set up under either of two names, but not under both.
-/

set_option autoImplicit false

namespace Guildhall

open Yaml Decode

/-- Why a configuration could not be read. -/
inductive ConfigError where
  | parsing
  | blankMark
  | reading (path : String)
  deriving Repr, DecidableEq

def ConfigError.message : ConfigError → String
  | parsing => "parsing YAML config"
  | blankMark => "prefix must not be empty"
  | reading path => s!"reading config file at {path}"

/-- The set-up of a command. Of its own configuration only the reply matters. -/
def CommandSpec.decode (n : Node) : Decode CommandSpec := do
  let fs ← fields ["id", "enabled", "triggers", "config"] n
  let config ← fs.getD "config" Value.decode .null
  return {
    id := ← fs.need "id" text
    enabled := ← fs.getD "enabled" truth true
    triggers := ← fs.getD "triggers"
      (fun n ↦ do (← fields ["commands"] n).getD "commands" (list text) []) []
    reply := (config.get? "reply").bind (·.text?) }

namespace Config

def decode (n : Node) : Decode Config := do
  let fs ← fields ["prefix", "owner_id", "admin_ids", "member_ids", "members", "roles", "events",
    "commands", "builtins", "default_permissions"] n
  let specs := optional (list CommandSpec.decode)
  if (fs.lookup "commands").isSome && (fs.lookup "builtins").isSome then failure
  return {
    mark := ← fs.getD "prefix" text "!"
    owner := ← fs.getD "owner_id" (optional word) none
    admins := ← fs.getD "admin_ids" (list word) []
    members := ← fs.getD "member_ids" (list word) []
    names := ← fs.getD "members" (table word text) ∅
    roles := ← fs.getD "roles" (table word (list word)) ∅
    events := ← fs.getD "events" (table text (list text)) ∅
    commands := ← fs.getD "commands" specs (← fs.getD "builtins" specs none)
    defaultPermissions := ← fs.getD "default_permissions" (list Written.decode) [] }

/-- Reads a configuration; its mark may not be blank. -/
def parse (yaml : String) : Except ConfigError Config :=
  match (Document.ofText? yaml.toList).bind (run decode) with
  | none => .error .parsing
  | some c => if c.mark.toList.all Text.isBlank then .error .blankMark else .ok c

/-- The configuration in a file, or the default one if there is no file. -/
def load (path : String) (d : Disk) : Except ConfigError Config :=
  match d.entry? path, d.read path with
  | none, _ => .ok {}
  | some _, .ok text => parse text
  | some _, .error _ => .error (.reading path)

end Config

end Guildhall
