import Guildhall.Command.Subcommand
import Guildhall.Policy.Resolver

/-!
The command that manages permission rules. A rule that only a role was asked for keeps the rank
that the action's own rule had, and asks everyone else to be an admin where there was none.
-/

set_option autoImplicit false

namespace Guildhall

open Text

/-- What a rule asks of an invoker. -/
def PermissionRule.requirement (rule : PermissionRule) : String :=
  match rule.role with
  | some role => s!"{rule.rank.name} or role {role}"
  | none => rule.rank.name

/-- What the arguments of the command ask for. -/
inductive PermissionRequest where
  | set (rank : Rank) (action : String)
  | unknownRank (word : String)
  | addRole (role : Id) (action : String)
  | get (action : String)
  | remove (action : String)
  | list
  | usage
  deriving Repr, DecidableEq

/-- What the command answers. -/
inductive PermissionAnswer where
  | usage
  | unknownRank (word : String)
  | requires (rule : PermissionRule)
  | governedBy (action : String) (rule : PermissionRule)
  | removed (action : String)
  | noRule (action : String)
  | listing (rules : List PermissionRule)
  | unsaved (error : CacheError)
  | unreadable (error : CacheError)
  deriving Repr, DecidableEq

namespace PermissionRequest

def ofArgs (args : List Char) : PermissionRequest :=
  let (verb, rest) := subcommand args
  match verb with
  | "set" =>
    let (word, action) := splitFirst rest
    match Rank.parse? (String.ofList word) with
    | none => .unknownRank (String.ofList word)
    | some rank => ((actionArgument? action).map (.set rank)).getD .usage
  | "role" =>
    let (word, action) := splitFirst rest
    match signedWord? word, actionArgument? action with
    | some role, some action => .addRole role action
    | _, _ => .usage
  | "get" => ((actionArgument? rest).map .get).getD .usage
  | "remove" | "delete" => ((actionArgument? rest).map .remove).getD .usage
  | "list" | "" => .list
  | _ => .usage

variable {σ : Type}

/-- Stores a rule and says so. -/
def store (st : RuleStores σ) (rule : PermissionRule) (p : Policy) (s : σ) :
    PermissionAnswer × Policy × σ :=
  match p.setPermission st rule s with
  | (.ok (), p, s) => (.requires rule, p, s)
  | (.error e, p, s) => (.unsaved e, p, s)

def run (st : RuleStores σ) (request : PermissionRequest) (p : Policy) (s : σ) :
    PermissionAnswer × Policy × σ :=
  match request with
  | usage => (.usage, p, s)
  | unknownRank word => (.unknownRank word, p, s)
  | set rank action => store st { action, rank } p s
  | addRole role action =>
    let (found, p, s) := p.getPermission st action s
    let rank := match found with
      | .ok (some existing) => existing.rank
      | _ => .admin
    store st { action, rank, role := some role } p s
  | get action =>
    let (rule, p, s) := p.resolvePermission st action s
    (.governedBy action rule, p, s)
  | remove action =>
    match p.removePermission st action s with
    | (.ok true, p, s) => (.removed action, p, s)
    | (.ok false, p, s) => (.noRule action, p, s)
    | (.error e, p, s) => (.unsaved e, p, s)
  | list =>
    match p.listPermissions st s with
    | (.ok rules, p, s) => (.listing rules, p, s)
    | (.error e, p, s) => (.unreadable e, p, s)

end PermissionRequest

def PermissionAnswer.text : PermissionAnswer → String
  | usage => "Usage: perm set <rank> <action> | perm role <role-id> <action> | " ++
      "perm get <action> | perm remove <action> | perm list"
  | unknownRank word => s!"Unknown rank `{word}`. Ranks: user, member, admin, owner."
  | requires rule => s!"`{rule.action}` now requires {rule.requirement}."
  | governedBy action rule =>
    if rule.action = action then s!"`{action}` requires {rule.requirement}."
    else s!"`{action}` requires {rule.requirement} (inherited from `{rule.action}`)."
  | removed action => s!"Removed the rule for `{action}`."
  | noRule action => s!"No rule is set for `{action}`."
  | listing [] => "No permission rules. Everything is open to everyone."
  | listing rules =>
    "\n".intercalate ("Permission rules:" ::
      rules.map fun rule ↦ s!"- {rule.action}: {rule.requirement}")
  | unsaved e => e.unsaved
  | unreadable e => s!"Could not load permission rules: {e.message}"

end Guildhall
