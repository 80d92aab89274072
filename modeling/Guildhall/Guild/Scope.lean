import Guildhall.Guild.Events
import Guildhall.Guild.Keywords
import Guildhall.Store.Guild

/-!
The scope of a guild: all that is kept of it while it is open. Every guild has its own rules,
custom commands, keywords and events; nothing is shared between guilds but what their stores
share.
-/

set_option autoImplicit false

namespace Guildhall

/-- The custom command of a name, in lower case. One that cannot be read counts as none. -/
def Cache.findCommand {σ : Type} (st : RowStore σ CustomCommand) (name : String)
    (c : Cache CustomCommand) (s : σ) : Option CustomCommand × Cache CustomCommand × σ :=
  c.find st (String.ofList (Text.toLower name.toList)) s

/-- An open guild. The serial number tells the scopes apart that are opened for one guild in
turn; `stored` is what the guild's stores hold of it. -/
structure Scope (γ : Type) where
  id : String
  serial : Nat := 0
  stored : γ
  policy : Policy := {}
  commands : Cache CustomCommand := { collection := .commands }
  keywords : Cache Keyword := { collection := .keywords }
  events : Events := {}
  patterns : PatternCache := {}

namespace Scope

variable {γ ω α : Type}

/-- Runs an operation on the guild's rules. -/
def onPolicy (run : Policy → γ × ω → α × Policy × (γ × ω)) (sc : Scope γ) (w : ω) :
    α × Scope γ × ω :=
  let (a, policy, stored, w) := run sc.policy (sc.stored, w)
  (a, { sc with policy, stored }, w)

/-- Runs an operation on the guild's custom commands. -/
def onCommands (run : Cache CustomCommand → γ × ω → α × Cache CustomCommand × (γ × ω))
    (sc : Scope γ) (w : ω) : α × Scope γ × ω :=
  let (a, commands, stored, w) := run sc.commands (sc.stored, w)
  (a, { sc with commands, stored }, w)

/-- Runs an operation on the guild's keywords. -/
def onKeywords (run : Cache Keyword → γ × ω → α × Cache Keyword × (γ × ω))
    (sc : Scope γ) (w : ω) : α × Scope γ × ω :=
  let (a, keywords, stored, w) := run sc.keywords (sc.stored, w)
  (a, { sc with keywords, stored }, w)

/-- Runs an operation on the guild's events. -/
def onEvents (run : Events → α × Events) (sc : Scope γ) (w : ω) : α × Scope γ × ω :=
  let (a, events) := run sc.events
  (a, { sc with events }, w)

/-- How much is known of each collection. -/
def states (sc : Scope γ) : List LoadState :=
  [sc.policy.permissions.state, sc.policy.cooldowns.state, sc.commands.state, sc.keywords.state]

/-- Reads every row of the guild, so that no message has to read one and no miss is ever
remembered. -/
def preload (st : GuildStores (γ × ω)) (sc : Scope γ) (w : ω) :
    Except CacheError Unit × Scope γ × ω :=
  match sc.onPolicy (·.preload st.rules ·) w with
  | (.error e, sc, w) => (.error e, sc, w)
  | (.ok _, sc, w) =>
    match sc.onCommands (·.listAll st.commands ·) w with
    | (.error e, sc, w) => (.error e, sc, w)
    | (.ok _, sc, w) =>
      match sc.onKeywords (·.listAll st.keywords ·) w with
      | (.error e, sc, w) => (.error e, sc, w)
      | (.ok _, sc, w) => (.ok (), sc, w)

def customCommand (st : GuildStores (γ × ω)) (name : String) (sc : Scope γ) (w : ω) :
    Option CustomCommand × Scope γ × ω :=
  sc.onCommands (·.findCommand st.commands name ·) w

/-- The first keyword, by name, whose pattern matches a text. -/
def matchingKeyword (st : GuildStores (γ × ω)) (text : String) (sc : Scope γ) (w : ω) :
    Except CacheError (Option Keyword) × Scope γ × ω :=
  match sc.onKeywords (·.listAll st.keywords ·) w with
  | (.error e, sc, w) => (.error e, sc, w)
  | (.ok keywords, sc, w) =>
    let (hit, patterns) := sc.patterns.firstMatch keywords text
    (.ok hit, { sc with patterns }, w)

end Scope

end Guildhall
