import Guildhall.Bot.Config
import Guildhall.Guild.Message
import Guildhall.Text.Number

/-!
A console on which one person speaks as any member. Each line is a message of the current speaker;
a line that starts with a slash changes the speaker or the place instead.
-/

set_option autoImplicit false

namespace Guildhall

open Text

/-- Where the console is and as whom it speaks. -/
structure Console where
  guild : String
  channel : String := "general"
  speaker : Id
  speakerName : String
  deriving Repr, DecidableEq

/-- What the console says of a line that starts with a slash. -/
inductive ConsoleNotice where
  | speakingAs (name : String) (id : Id)
  | noMember (word : String)
  | inChannel (name : String)
  | inGuild (id : String)
  | help
  deriving Repr, DecidableEq

def ConsoleNotice.text : ConsoleNotice → String
  | speakingAs name id => s!"Speaking as {name} ({id})."
  | noMember word => s!"`{word}` is not a member id."
  | inChannel name => s!"Now in #{name}."
  | inGuild id => s!"Now in guild {id}."
  | help => "Console commands: /as <id>, /channel <name>, /guild <id>, /quit"

/-- What a line of the console is. -/
inductive ConsoleLine where
  | message (msg : Message)
  | notice (notice : ConsoleNotice)
  | quit
  | blank
  deriving Repr, DecidableEq

namespace Console

/-- Carries out the words after a slash. -/
def control (cfg : Config) (words : List String) (c : Console) : ConsoleLine × Console :=
  match words with
  | ["quit"] | ["exit"] => (.quit, c)
  | ["as", word] =>
    match signedWord? word.toList with
    | some id =>
      let speakerName := (cfg.name? id).getD s!"user{id}"
      (.notice (.speakingAs speakerName id), { c with speaker := id, speakerName })
    | none => (.notice (.noMember word), c)
  | ["channel", name] => (.notice (.inChannel name), { c with channel := name })
  | ["guild", id] => (.notice (.inGuild id), { c with guild := id })
  | _ => (.notice .help, c)

/-- The names of the members that a text mentions and that are configured. -/
def mentions (cfg : Config) (text : List Char) : List String :=
  (Mention.members text).filterMap fun digits ↦ (word? digits).bind cfg.name?

/-- The message that a text is from the current speaker. -/
def say (cfg : Config) (text : List Char) (c : Console) : Message :=
  { guild := c.guild, channel := c.channel, invoker := cfg.invoker c.speaker c.speakerName,
    text := String.ofList text, mentions := mentions cfg text }

def isLineEnd (c : Char) : Bool := c == '\r' || c == '\n'

/-- Reads one line. -/
def read (cfg : Config) (line : String) (c : Console) : ConsoleLine × Console :=
  let text := (line.toList.reverse.dropWhile isLineEnd).reverse
  if text.all isBlank then (.blank, c)
  else
    match text with
    | '/' :: rest => c.control cfg ((words rest).map String.ofList)
    | _ => (.message (c.say cfg text), c)

end Console

end Guildhall
