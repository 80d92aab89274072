import Guildhall.Environment.Basic
import Guildhall.Policy.Rule
import Guildhall.Text.Number

/-!
The command line. Every setting has a value by default, a variable of the environment that
overrides it and an option that overrides both. Options are read in order: the first mistake, or
the first request for the version or for help, decides. Variables are looked at only when all
options were read.
-/

set_option autoImplicit false

namespace Guildhall

/-- Where the bot finds its files, and where the console starts and as whom. -/
structure Options where
  config : String := "./config.yaml"
  store : String := "./bot-store"
  guild : String := "console"
  speaker : Id := 1
  speakerName : String := "operator"
  deriving Repr, DecidableEq

/-- What the command line can set. -/
inductive Setting where
  | config | store | guild | userId | userName
  deriving Repr, DecidableEq

/-- Why a command line was refused. -/
inductive UsageError where
  | unexpected (argument : String)
  | missingValue (setting : Setting)
  | repeated (setting : Setting)
  | invalid (setting : Setting) (value : String)
  deriving Repr, DecidableEq

namespace Setting

def all : List Setting := [config, store, guild, userId, userName]

/-- The option that gives a setting. -/
def option : Setting → String
  | config => "--config"
  | store => "--store"
  | guild => "--guild"
  | userId => "--user-id"
  | userName => "--user-name"

/-- The variable of the environment that gives a setting. -/
def envName : Setting → String
  | config => "BOT_CONFIG"
  | store => "BOT_STORE"
  | guild => "BOT_GUILD"
  | userId => "BOT_USER_ID"
  | userName => "BOT_USER_NAME"

/-- What a setting is for. -/
def help : Setting → String
  | config => "YAML config: prefix, ranks, members, events and command specs"
  | store => "Directory holding one YAML store per guild"
  | guild => "Guild the console starts in"
  | userId => "Member id the console speaks as"
  | userName => "Display name used when the member id has no configured name"

/-- Puts a value into the options: a path may not be empty, and an id has to be one. -/
def put? (s : Setting) (value : String) (o : Options) : Option Options :=
  match s with
  | config => if value.isEmpty then none else some { o with config := value }
  | store => if value.isEmpty then none else some { o with store := value }
  | guild => some { o with guild := value }
  | userId => (Text.signedWord? value.toList).map fun speaker ↦ { o with speaker }
  | userName => some { o with speakerName := value }

end Setting

def UsageError.message : UsageError → String
  | unexpected argument => s!"unexpected argument '{argument}' found"
  | missingValue s => s!"a value is required for '{s.option}' but none was supplied"
  | repeated s => s!"the argument '{s.option}' cannot be used multiple times"
  | invalid s value => s!"invalid value '{value}' for '{s.option}'"

/-- What a command line asks for. -/
inductive Invocation where
  | start (options : Options)
  | version
  | help
  deriving Repr, DecidableEq

/-- An argument that is not the value of an option. -/
inductive Argument where
  | option (setting : Setting) (value : Option String)
  | version
  | help
  | endOfOptions
  | unexpected
  deriving Repr, DecidableEq

namespace Argument

/-- The name of a long option and the value after an equals sign. -/
def splitValue (s : String) : String × Option String :=
  match s.toList.dropWhile (· != '=') with
  | [] => (s, none)
  | _ :: value => (String.ofList (s.toList.takeWhile (· != '=')), some (String.ofList value))

def ofText (s : String) : Argument :=
  match s.toList with
  | ['-', '-'] => .endOfOptions
  | '-' :: '-' :: _ =>
    let (name, value) := splitValue s
    match Setting.all.find? (·.option == name), name, value with
    | some setting, _, _ => .option setting value
    | none, "--version", none => .version
    | none, "--help", none => .help
    | none, _, _ => .unexpected
  | '-' :: 'V' :: _ => .version
  | '-' :: 'h' :: _ => .help
  | _ => .unexpected

/-- Whether an argument can be the value of the option before it: a lone dash can. -/
def isValue (s : String) : Bool := s == "-" || !s.startsWith "-"

end Argument

/-- The options so far and the settings that they were given for. -/
structure Given where
  options : Options := {}
  settings : List Setting := []
  deriving Repr, DecidableEq

namespace Given

/-- Takes over a setting; each may be given once. -/
def put (s : Setting) (value : String) (g : Given) : Except UsageError Given :=
  match s.put? value g.options with
  | none => .error (.invalid s value)
  | some options =>
    if s ∈ g.settings then .error (.repeated s)
    else .ok { options, settings := s :: g.settings }

/-- Takes over the variables of the settings that were not given. -/
def complete (env : Environment) (g : Given) : Except UsageError Options :=
  Setting.all.foldlM
    (fun o s ↦
      match env.get? s.envName with
      | none => .ok o
      | some value =>
        if s ∈ g.settings then .ok o
        else match s.put? value o with
          | some o => .ok o
          | none => .error (.invalid s value))
    g.options

/-- Reads the rest of a command line. -/
def read (env : Environment) : List String → Given → Except UsageError Invocation
  | [], g => (g.complete env).map .start
  | arg :: rest, g =>
    match Argument.ofText arg, rest with
    | .version, _ => .ok .version
    | .help, _ => .ok .help
    | .unexpected, _ => .error (.unexpected arg)
    | .endOfOptions, [] => (g.complete env).map .start
    | .endOfOptions, next :: _ => .error (.unexpected next)
    | .option s (some value), rest => do read env rest (← g.put s value)
    | .option s none, [] => .error (.missingValue s)
    | .option s none, value :: rest =>
      if Argument.isValue value then do read env rest (← g.put s value)
      else .error (.missingValue s)

end Given

/-- Reads a command line. -/
def Invocation.ofArguments (env : Environment) (args : List String) :
    Except UsageError Invocation :=
  Given.read env args {}

/-- The name and the version of the bot. -/
def versionText : String := "guild-bot 0.1.0"

/-- What the options are for. -/
def helpText : String :=
  "Chat command bot with prefix-scoped permissions, cooldowns and templated custom commands\n\n" ++
    "Usage: guild-bot [OPTIONS]\n\nOptions:\n" ++
    String.join (Setting.all.map fun s ↦
      s!"      {s.option} <VALUE>\n          {s.help} [env: {s.envName}]\n") ++
    "  -h, --help\n          Print help\n  -V, --version\n          Print version"

end Guildhall
