import Guildhall.Cache

/-!
Permissions and cooldowns of one guild. The rule for an action is the one at its longest
word-bounded beginning. An action without a rule is open to everyone; while the permission store
cannot be read it is closed to all but owners. Members below admin wait for the cooldown that
governs an action, and an action that has rested long enough restarts its cooldown.
-/

set_option autoImplicit false

namespace Guildhall

/-- What a guild knows of its rules. -/
structure Policy where
  permissions : Cache PermissionRule := { collection := .permissions }
  cooldowns : Cache CooldownRule := { collection := .cooldowns }

/-- The stores that hold a guild's rules. -/
structure RuleStores (σ : Type) where
  permissions : RowStore σ PermissionRule
  cooldowns : RowStore σ CooldownRule

inductive Authorization where
  | granted
  | denied (rule : PermissionRule)
  deriving Repr, DecidableEq

/-- Whether a rule lets an invoker of this rank act: by rank, or by a role that they hold. -/
def PermissionRule.grants (rule : PermissionRule) (rank : Rank) (invoker : Invoker) : Bool :=
  rule.rank ≤ rank || rule.role.any (invoker.roles.contains ·)

namespace Policy

variable {σ : Type}

/-- Runs a permission operation on the permission cache. -/
def onPermissions {α : Type} (run : Cache PermissionRule → σ → α × Cache PermissionRule × σ)
    (p : Policy) (s : σ) : α × Policy × σ :=
  let (a, permissions, s) := run p.permissions s
  (a, { p with permissions }, s)

/-- Runs a cooldown operation on the cooldown cache. -/
def onCooldowns {α : Type} (run : Cache CooldownRule → σ → α × Cache CooldownRule × σ)
    (p : Policy) (s : σ) : α × Policy × σ :=
  let (a, cooldowns, s) := run p.cooldowns s
  (a, { p with cooldowns }, s)

/-- Reads every rule. -/
def preload (st : RuleStores σ) (p : Policy) (s : σ) : Except CacheError Unit × Policy × σ :=
  match p.onPermissions (·.listAll st.permissions ·) s with
  | (.error e, p, s) => (.error e, p, s)
  | (.ok _, p, s) =>
    match p.onCooldowns (·.listAll st.cooldowns ·) s with
    | (.error e, p, s) => (.error e, p, s)
    | (.ok _, p, s) => (.ok (), p, s)

/-- The rule that governs an action. -/
def resolvePermission (st : RuleStores σ) (action : String) (p : Policy) (s : σ) :
    PermissionRule × Policy × σ :=
  match p.onPermissions (·.resolve st.permissions action ·) s with
  | (.ok (some rule), p, s) => (rule, p, s)
  | (.ok none, p, s) => (.unrestricted action, p, s)
  | (.error _, p, s) => (.failClosed action, p, s)

def authorize (st : RuleStores σ) (rank : Rank) (invoker : Invoker) (action : String)
    (p : Policy) (s : σ) : Authorization × Policy × σ :=
  let (rule, p, s) := p.resolvePermission st action s
  (if rule.grants rank invoker then .granted else .denied rule, p, s)

/-- The cooldown rule that governs an action, if it is enforced. -/
def cooldownRule (st : RuleStores σ) (action : String) (p : Policy) (s : σ) :
    Option CooldownRule × Policy × σ :=
  match p.onCooldowns (·.resolve st.cooldowns action ·) s with
  | (.ok found, p, s) => (found.filter (·.isEnforced), p, s)
  | (.error _, p, s) => (none, p, s)

/-- The time that is still to wait for an action. Where none is, a cooldown that governs the
action starts again at `now`. A store that fails counts as no cooldown. -/
def checkCooldown (st : RuleStores σ) (rank : Rank) (now : Instant) (action : String)
    (p : Policy) (s : σ) : Option Duration × Policy × σ :=
  if rank.isPrivileged then (none, p, s)
  else
    match p.cooldownRule st action s with
    | (none, p, s) => (none, p, s)
    | (some governing, p, s) =>
      match p.onCooldowns (·.get st.cooldowns governing.action ·) s with
      | (.error _, p, s) => (none, p, s)
      | (.ok found, p, s) =>
        match found.filter (·.isEnforced) with
        | none => (none, p, s)
        | some rule =>
          match rule.last.bind fun last ↦ remaining? rule.duration last.instant now with
          | some left => (some left, p, s)
          | none =>
            let restarted := { rule with last := some { instant := now } }
            let (_, p, s) := p.onCooldowns (·.replace st.cooldowns restarted ·) s
            (none, p, s)

def setPermission (st : RuleStores σ) (rule : PermissionRule) (p : Policy) (s : σ) :
    Except CacheError Unit × Policy × σ :=
  p.onPermissions (·.upsert st.permissions rule ·) s

def removePermission (st : RuleStores σ) (action : String) (p : Policy) (s : σ) :
    Except CacheError Bool × Policy × σ :=
  p.onPermissions (·.remove st.permissions action ·) s

def listPermissions (st : RuleStores σ) (p : Policy) (s : σ) :
    Except CacheError (List PermissionRule) × Policy × σ :=
  p.onPermissions (·.listAll st.permissions ·) s

/-- The rule stored for exactly this action. -/
def getPermission (st : RuleStores σ) (action : String) (p : Policy) (s : σ) :
    Except CacheError (Option PermissionRule) × Policy × σ :=
  p.onPermissions (·.get st.permissions action ·) s

/-- Sets how long an action rests. A rule that is there keeps when it last ran. -/
def setCooldown (st : RuleStores σ) (action : String) (duration : Duration) (p : Policy)
    (s : σ) : Except CacheError Unit × Policy × σ :=
  match p.onCooldowns (·.get st.cooldowns action ·) s with
  | (.error e, p, s) => (.error e, p, s)
  | (.ok found, p, s) =>
    p.onCooldowns (·.upsert st.cooldowns { action, duration, last := found.bind (·.last) } ·) s

def removeCooldown (st : RuleStores σ) (action : String) (p : Policy) (s : σ) :
    Except CacheError Bool × Policy × σ :=
  p.onCooldowns (·.remove st.cooldowns action ·) s

def listCooldowns (st : RuleStores σ) (p : Policy) (s : σ) :
    Except CacheError (List CooldownRule) × Policy × σ :=
  p.onCooldowns (·.listAll st.cooldowns ·) s

/-- The cooldown stored for exactly this action. -/
def getCooldown (st : RuleStores σ) (action : String) (p : Policy) (s : σ) :
    Except CacheError (Option CooldownRule) × Policy × σ :=
  p.onCooldowns (·.get st.cooldowns action ·) s

end Policy

end Guildhall
