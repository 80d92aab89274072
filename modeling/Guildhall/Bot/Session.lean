import Guildhall.Bot.Console
import Guildhall.Bot.Dispatch
import Guildhall.Bot.LogFilter
import Guildhall.Bot.Options
import Guildhall.Bot.Settings
import Guildhall.Environment.File
import Guildhall.Store.GuildFile
import Guildhall.Text.Line

/-!
A run of the bot at a console: it starts from the environment, the command line and the files,
answers one line after the other and leaves with an exit code. A guild that cannot be opened keeps
the bot from starting; later it only costs the message that was sent to it.
-/

set_option autoImplicit false

namespace Guildhall

/-- Why the bot did not start. -/
inductive StartError where
  | logFilter
  | usage (error : UsageError)
  | config (error : ConfigError)
  | guild (id : String) (error : OpenError)
  deriving Repr, DecidableEq

namespace StartError

/-- Mistakes on the command line have an exit code of their own. -/
def exitCode : StartError → Nat
  | usage _ => 2
  | _ => 1

def message : StartError → String
  | logFilter => s!"parsing {LogFilter.envName}"
  | usage e => e.message
  | config e => e.message
  | guild id e => s!"opening guild {id}: {e.message}"

end StartError

/-- What the bot is asked for; the filter of its log is checked before anything else. -/
def Invocation.ofEnvironment (env : Environment) (args : List String) :
    Except StartError Invocation :=
  if LogFilter.isWellFormed (env.value LogFilter.envName) then
    (ofArguments env args).mapError .usage
  else .error .logFilter

/-- A bot that keeps guilds in the files of a directory, with a console in front of it. -/
structure Session where
  config : Config
  directory : String
  console : Console
  state : BotState GuildFile Disk

namespace Session

def bot (s : Session) : Bot GuildFile Disk where
  backend := .files .yaml s.directory s.config.defaultPermissions
  mark := s.config.mark
  rankOf := s.config.rankOf

/-- Opens the guild that the console is in. -/
def openGuild (s : Session) : Except StartError Session × Disk :=
  match s.state.directory.scope s.bot.backend s.console.guild s.state.world with
  | (.error e, _, world) => (.error (.guild s.console.guild e), world)
  | (.ok _, directory, world) => (.ok { s with state := { s.state with directory, world } }, world)

/-- Starts a session on the files of a disk. -/
def start (o : Options) (d : Disk) : Except StartError Session × Disk :=
  match Config.load o.config d with
  | .error e => (.error (.config e), d)
  | .ok config =>
    openGuild {
      config, directory := o.store
      console := { guild := o.guild, speaker := o.speaker, speakerName := o.speakerName }
      state := {
        directory := { events := .ofSeed config.events }, registry := config.registry,
        world := d } }

/-- Reads a line and answers it; there is no answer to a line that ends the session. -/
def read (m : Moment) (line : String) (s : Session) : Option (List Reply × Session) :=
  let (line, console) := s.console.read s.config line
  let s := { s with console }
  match line with
  | .blank => some ([], s)
  | .quit => none
  | .notice notice => some ([{ channel := console.channel, text := notice.text }], s)
  | .message msg =>
    let ((_, replies), state) := s.bot.process true m msg s.state
    some (replies, { s with state })

/-- Reads lines up to one that ends the session. -/
def readAll (m : Moment) : List String → Session → List Reply × Session
  | [], s => ([], s)
  | line :: rest, s =>
    match s.read m line with
    | none => ([], s)
    | some (replies, s) =>
      let (later, s) := readAll m rest s
      (replies ++ later, s)

end Session

/-- The line that a reply is printed as. -/
def Reply.line (r : Reply) : String := s!"[#{r.channel}] {r.text}"

/-- What a run of the bot leaves behind. -/
structure RunResult where
  exitCode : Nat := 0
  output : List String := []
  disk : Disk
  deriving Repr, DecidableEq

namespace RunResult

/-- Runs a session on a whole input. -/
def ofOptions (o : Options) (d : Disk) (m : Moment) (input : String) : RunResult :=
  match Session.start o d with
  | (.error e, disk) => { exitCode := e.exitCode, disk }
  | (.ok s, _) =>
    let (replies, s) := s.readAll m ((Text.lines input.toList).map String.ofList)
    { output := replies.map (·.line), disk := s.state.world }

/-- Runs the bot on a whole input. -/
def ofArguments (env : Environment) (args : List String) (d : Disk) (m : Moment)
    (input : String) : RunResult :=
  match Invocation.ofEnvironment (env.supplyFile d) args with
  | .error e => { exitCode := e.exitCode, disk := d }
  | .ok .version => { output := [versionText], disk := d }
  | .ok .help => { output := [helpText], disk := d }
  | .ok (.start o) => ofOptions o d m input

end RunResult

end Guildhall
