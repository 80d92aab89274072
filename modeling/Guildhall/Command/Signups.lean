import Guildhall.Command.Subcommand
import Guildhall.Guild.Events

/-!
The command by which members sign up for events. Events are named in lower case.
-/

set_option autoImplicit false

namespace Guildhall

open Text

/-- What the arguments of the command ask for. -/
inductive SignupRequest where
  | join (event : String)
  | leave (event : String)
  | members (event : String)
  | list
  | usage
  deriving Repr, DecidableEq

/-- What the command answers. -/
inductive SignupAnswer where
  | usage
  | joined (event : String)
  | wasIn (event : String)
  | left (event : String)
  | wasNotIn (event : String)
  | members (event : String) (members : List String)
  | unknownEvent (event : String)
  | events (names : List String)
  deriving Repr, DecidableEq

namespace SignupRequest

def ofArgs (args : List Char) : SignupRequest :=
  let (verb, rest) := subcommand args
  let event := String.ofList (toLower rest)
  match verb, event.isEmpty with
  | "join", false => .join event
  | "leave", false => .leave event
  | "list", false => .members event
  | "list", true | "", true => .list
  | _, _ => .usage

/-- Carries a request out for the member of a name. -/
def run (member : String) (request : SignupRequest) (e : Events) : SignupAnswer × Events :=
  match request with
  | usage => (.usage, e)
  | join event =>
    match e.join event member with
    | (true, e) => (.joined event, e)
    | (false, e) => (.wasIn event, e)
  | leave event =>
    match e.leave event member with
    | (true, e) => (.left event, e)
    | (false, e) => (.wasNotIn event, e)
  | members event =>
    match e.members? event with
    | some present => (.members event present, e)
    | none => (.unknownEvent event, e)
  | list => (.events e.names, e)

end SignupRequest

/-- The text of an answer to the member of a name. -/
def SignupAnswer.text (member : String) : SignupAnswer → String
  | usage => "Usage: event join <event> | event leave <event> | event list [event]"
  | joined event => s!"{member} joined {event}."
  | wasIn event => s!"{member} is already in {event}."
  | left event => s!"{member} left {event}."
  | wasNotIn event => s!"{member} is not in {event}."
  | members event [] => s!"Nobody has joined {event} yet."
  | members event present => event ++ ": " ++ ", ".intercalate present
  | unknownEvent event => s!"There is no event called {event}."
  | events [] => "No events yet."
  | events names => "Events: " ++ ", ".intercalate names

end Guildhall
