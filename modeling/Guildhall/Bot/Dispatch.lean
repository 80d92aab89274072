import Guildhall.Command.Run
import Guildhall.Guild.Directory

/-!
Handling of messages. A message that starts with the bot's mark calls a command: the built-in
command or else the custom command of its first word. The invoker has to be allowed to run the
action and the action must not be resting. Every other message is checked against the guild's
keywords. Each outcome but `ignored` comes with one reply.
-/

set_option autoImplicit false

namespace Guildhall

open Text

/-- What a message asks of the bot. -/
inductive Request where
  | nothing
  | remark (text : List Char)
  | bareMark
  | command (token args : List Char)
  deriving Repr, DecidableEq

namespace Request

/-- The command token after the mark, in lower case, and what follows it. -/
def ofBody (body : List Char) : Request :=
  let body := trimStart body
  let (token, args) := match splitBlank? body with
    | some (token, args) => (token, trim args)
    | none => (body, [])
  let token := toLower token
  if token.isEmpty then .bareMark else .command token args

def ofText (mark text : List Char) : Request :=
  let text := trim text
  if text.isEmpty then .nothing
  else
    match Pattern.after? mark text with
    | some body => ofBody body
    | none => .remark text

end Request

/-- What became of a message. -/
inductive Outcome where
  | ignored
  | denied
  | coolingDown (left : Duration)
  | builtin (id : String)
  | custom (name : String)
  | keyword (name : String)
  deriving Repr, DecidableEq

/-- The command that a token calls. -/
inductive Target where
  | builtin (entry : RegistryEntry Builtin)
  | custom (found : CustomCommand)

/-- What is said to an invoker whom a rule does not let act. -/
def PermissionRule.denial (rule : PermissionRule) (action : String) : String :=
  match rule.role with
  | some role => s!"You need to be {rule.rank.name} or have role {role} to use `{action}`."
  | none => s!"You need to be {rule.rank.name} to use `{action}`."

/-- What is said of an action that is resting. -/
def cooldownNotice (action : String) (left : Duration) : String :=
  s!"`{action}` is on cooldown. Try again in {left.ceilSeconds}s."

/-- The settings of a bot: where guilds keep their rows, the text that commands start with, and
the ranks of members. -/
structure Bot (γ ω : Type) where
  backend : Backend γ ω
  mark : String
  rankOf : Invoker → Rank

/-- All that changes while a bot runs. -/
structure BotState (γ ω : Type) where
  directory : Directory γ := {}
  registry : Registry Builtin
  world : ω

namespace Bot

variable {γ ω : Type}

/-- The command that a token calls. The trigger of a built-in command that is off calls
nothing. -/
def target (bot : Bot γ ω) (token : String) (r : Registry Builtin) (sc : Scope γ) (w : ω) :
    Option Target × Scope γ × ω :=
  match r.entryOfTrigger? token with
  | some entry => (if r.isEnabled entry.spec.id then some (.builtin entry) else none, sc, w)
  | none =>
    let (found, sc, w) := sc.customCommand bot.backend.stores token w
    (found.map .custom, sc, w)

/-- Runs a command that its invoker may run. -/
def run (bot : Bot γ ω) (m : Moment) (msg : Message) (args : List Char) (t : Target)
    (r : Registry Builtin) (sc : Scope γ) (w : ω) :
    (Outcome × Option String) × Registry Builtin × Scope γ × ω :=
  match t with
  | .builtin entry =>
    let (a, r, sc, w) := entry.command.run bot.backend.stores m msg args entry.spec r sc w
    ((.builtin entry.spec.id, some (a.text bot.mark msg.invoker.name)), r, sc, w)
  | .custom found =>
    ((.custom found.name, some (sc.events.expand m msg found.template (String.ofList args))),
      r, sc, w)

/-- Calls a command, if the invoker is allowed to and the action is not resting. -/
def call (bot : Bot γ ω) (m : Moment) (msg : Message) (token args : List Char)
    (r : Registry Builtin) (sc : Scope γ) (w : ω) :
    (Outcome × Option String) × Registry Builtin × Scope γ × ω :=
  match bot.target (String.ofList token) r sc w with
  | (none, sc, w) => ((.ignored, none), r, sc, w)
  | (some t, sc, w) =>
    let action := String.ofList (actionString token args)
    let rules := bot.backend.stores.rules
    let rank := bot.rankOf msg.invoker
    match sc.onPolicy (·.authorize rules rank msg.invoker action ·) w with
    | (.denied rule, sc, w) => ((.denied, some (rule.denial action)), r, sc, w)
    | (.granted, sc, w) =>
      match sc.onPolicy (·.checkCooldown rules rank m.now action ·) w with
      | (some left, sc, w) =>
        ((.coolingDown left, some (cooldownNotice action left)), r, sc, w)
      | (none, sc, w) => bot.run m msg args t r sc w

/-- Checks a text that is no command against the keywords. Keywords that cannot be read count as
none. -/
def remark (bot : Bot γ ω) (m : Moment) (msg : Message) (text : List Char) (sc : Scope γ)
    (w : ω) : (Outcome × Option String) × Scope γ × ω :=
  let text := String.ofList text
  match sc.matchingKeyword bot.backend.stores text w with
  | (.ok (some hit), sc, w) =>
    ((.keyword hit.name, some (sc.events.expand m msg hit.template text)), sc, w)
  | (.ok none, sc, w) | (.error _, sc, w) => ((.ignored, none), sc, w)

/-- What a request leads to in an open guild. -/
def respond (bot : Bot γ ω) (m : Moment) (msg : Message) (request : Request)
    (r : Registry Builtin) (sc : Scope γ) (w : ω) :
    (Outcome × Option String) × Registry Builtin × Scope γ × ω :=
  match request with
  | .nothing | .bareMark => ((.ignored, none), r, sc, w)
  | .remark text =>
    let (a, sc, w) := bot.remark m msg text sc w
    (a, r, sc, w)
  | .command token args => bot.call m msg token args r sc w

/-- Handles a message: what became of it, with the reply to post, or why its guild could not be
opened. A blank message opens no guild. -/
def handle (bot : Bot γ ω) (m : Moment) (msg : Message) (s : BotState γ ω) :
    Except OpenError (Outcome × Option Reply) × BotState γ ω :=
  match Request.ofText bot.mark.toList msg.text.toList with
  | .nothing => (.ok (.ignored, none), s)
  | request =>
    let inside (sc : Scope γ) (w : ω) :
        ((Outcome × Option String) × Registry Builtin) × Scope γ × ω :=
      let (a, r, sc, w) := bot.respond m msg request s.registry sc w
      ((a, r), sc, w)
    match s.directory.within bot.backend msg.guild inside s.world with
    | (.error e, directory, world) => (.error e, { s with directory, world })
    | (.ok ((outcome, text), registry), directory, world) =>
      (.ok (outcome, text.map fun text ↦ { channel := msg.channel, text }),
        { directory, registry, world })

end Bot

/-- Why a message or a notice failed. -/
inductive DispatchError where
  | opening (error : OpenError)
  | outboxClosed
  deriving Repr, DecidableEq

def DispatchError.message : DispatchError → String
  | opening e => e.message
  | outboxClosed => "reply channel closed"

/-- Posts the reply to a message that was handled. Where nobody listens any more, that fails; a
built-in command has run all the same. -/
def Outcome.deliver (isOpen : Bool) (outcome : Outcome) (reply : Option Reply) :
    Except DispatchError Outcome × List Reply :=
  if isOpen then (.ok outcome, reply.toList)
  else
    match outcome, reply with
    | .builtin _, _ | _, none => (.ok outcome, [])
    | _, some _ => (.error .outboxClosed, [])

/-- Posts a text that no message asked for. -/
def Reply.deliver (isOpen : Bool) (reply : Reply) : Except DispatchError Reply :=
  if isOpen then .ok reply else .error .outboxClosed

/-- Handles a message and posts the reply. -/
def Bot.process {γ ω : Type} (bot : Bot γ ω) (isOpen : Bool) (m : Moment) (msg : Message)
    (s : BotState γ ω) : (Except DispatchError Outcome × List Reply) × BotState γ ω :=
  match bot.handle m msg s with
  | (.error e, s) => ((.error (.opening e), []), s)
  | (.ok (outcome, reply), s) => (outcome.deliver isOpen reply, s)

end Guildhall
