import Guildhall.Command.Authoring
import Guildhall.Command.Cooldowns
import Guildhall.Command.Overview
import Guildhall.Command.Permissions
import Guildhall.Command.Signups
import Guildhall.Command.Toggles
import Guildhall.Guild.Message

/-!
Running a built-in command: its arguments are read as a request, the request is carried out on the
guild's scope or on the registry, and the answer is put into words. Every run gives one answer.
-/

set_option autoImplicit false

namespace Guildhall

/-- What a built-in command answers. -/
inductive Answer where
  | permissions (answer : PermissionAnswer)
  | cooldowns (answer : CooldownAnswer)
  | custom (answer : CustomAnswer)
  | keywords (answer : KeywordAnswer)
  | signups (answer : SignupAnswer)
  | help (answer : HelpAnswer)
  | toggles (answer : ToggleAnswer)
  | pong (text : String)
  deriving Repr, DecidableEq

/-- The text of an answer to the member of a name; `mark` is the text that commands start with. -/
def Answer.text (mark member : String) : Answer → String
  | permissions answer => answer.text
  | cooldowns answer => answer.text
  | custom answer => answer.text mark
  | keywords answer => answer.text
  | signups answer => answer.text member
  | help answer => answer.text mark
  | toggles answer => answer.text
  | pong text => text

namespace Builtin

variable {γ ω : Type}

/-- Runs a command with the arguments that follow it in a message. -/
def run (b : Builtin) (st : GuildStores (γ × ω)) (m : Moment) (msg : Message) (args : List Char)
    (spec : CommandSpec) (r : Registry Builtin) (sc : Scope γ) (w : ω) :
    Answer × Registry Builtin × Scope γ × ω :=
  match b with
  | perm =>
    let (a, sc, w) := sc.onPolicy ((PermissionRequest.ofArgs args).run st.rules) w
    (.permissions a, r, sc, w)
  | cooldown =>
    let (a, sc, w) := sc.onPolicy ((CooldownRequest.ofArgs args).run st.rules) w
    (.cooldowns a, r, sc, w)
  | command =>
    let isBuiltin (name : String) : Bool := (r.entryOfTrigger? name).isSome
    let (a, sc, w) := sc.onCommands
      ((CustomRequest.ofArgs args).run st.commands isBuiltin msg.invoker.id) w
    (.custom a, r, sc, w)
  | keyword =>
    let (a, sc, w) := sc.onKeywords ((KeywordRequest.ofArgs args).run st.keywords msg.invoker.id) w
    (.keywords a, r, sc, w)
  | event =>
    let (a, sc, w) := sc.onEvents ((SignupRequest.ofArgs args).run msg.invoker.name) w
    (.signups a, r, sc, w)
  | help =>
    let (a, sc, w) := sc.onCommands ((HelpRequest.ofArgs args).run st.commands r) w
    (.help a, r, sc, w)
  | ping =>
    let text := match spec.reply with
      | some template => sc.events.expand m msg template (String.ofList args)
      | none => "Pong!"
    (.pong text, r, sc, w)
  | builtins =>
    let (a, r) := (ToggleRequest.ofArgs args).run r
    (.toggles a, r, sc, w)

end Builtin

end Guildhall
