import Guildhall.Guild.Scope
import Guildhall.Template.Expand

/-!
Messages, the moment at which one is handled, and the expansion of templates that answer one.
-/

set_option autoImplicit false

namespace Guildhall

/-- A message of a member in a channel of a guild, with the names of the members it mentions. -/
structure Message where
  guild : String
  channel : String
  invoker : Invoker
  text : String
  mentions : List String := []
  deriving Repr, DecidableEq

/-- A message of the bot. -/
structure Reply where
  channel : String
  text : String
  deriving Repr, DecidableEq

/-- The time at which a message is handled, and the randomness that its answer may draw on. -/
structure Moment where
  now : Instant
  today : Date
  draws : Draws := {}
  deriving Repr, DecidableEq

/-- Expands a template that answers a message; `rest` is the text after the command. -/
def Events.expand (events : Events) (m : Moment) (msg : Message) (template rest : String) :
    String :=
  let ctx : TemplateContext :=
    { sender := msg.invoker.name, channel := msg.channel, message := rest,
      mentions := msg.mentions, members? := events.members?, today := m.today }
  String.ofList (Placeholder.builtin.expand ctx template.toList m.draws).1

end Guildhall
