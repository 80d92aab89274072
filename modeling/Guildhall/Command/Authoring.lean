import Guildhall.Command.Subcommand
import Guildhall.Guild.Scope
import Guildhall.Text.Line

/-!
The commands by which members write custom commands and keywords. Names are kept in lower case. A
custom command may not have the name of a trigger of a built-in command; a keyword has to have a
pattern that compiles.
-/

set_option autoImplicit false

namespace Guildhall

open Text

/-- Whether a row is written under a new name or over one that is there. -/
inductive WriteMode where
  | create | overwrite
  deriving Repr, DecidableEq

namespace WriteMode

/-- The mode that a subcommand stands for. -/
def ofVerb? : String → Option WriteMode
  | "add" | "create" => some create
  | "replace" | "edit" => some overwrite
  | _ => none

variable {σ V : Type}

/-- Writes a row unless its name is taken, or unless it is not; answers whether it was written. -/
def write [Keyed V] (mode : WriteMode) (st : RowStore σ V) (row : V) (c : Cache V) (s : σ) :
    Except CacheError Bool × Cache V × σ :=
  match mode with
  | create => c.insertNew st row s
  | overwrite => c.replace st row s

end WriteMode

/-- A line of a listing: at most so much of a template, on one line. -/
def templateLine (template : String) : String := String.ofList (sanitizeLine template.toList 60)

/-- What the arguments of `command` ask for. -/
inductive CustomRequest where
  | write (mode : WriteMode) (name template : String)
  | delete (name : String)
  | display (name : String)
  | list
  | usage
  deriving Repr, DecidableEq

/-- What `command` answers. -/
inductive CustomAnswer where
  | usage
  | isBuiltin (name : String)
  | written (mode : WriteMode) (name : String)
  | refused (mode : WriteMode) (name : String)
  | deleted (name : String)
  | absent (name : String)
  | shown (command : CustomCommand)
  | listing (rows : List CustomCommand)
  | unsaved (error : CacheError)
  | unreadable (error : CacheError)
  deriving Repr, DecidableEq

namespace CustomRequest

def ofArgs (args : List Char) : CustomRequest :=
  let (verb, rest) := subcommand args
  let (name, template) := triggerArgument rest
  match WriteMode.ofVerb? verb, verb with
  | some mode, _ =>
    if name.isEmpty || template.isEmpty then .usage else .write mode name (String.ofList template)
  | none, "delete" | none, "remove" => if name.isEmpty then .usage else .delete name
  | none, "show" => if name.isEmpty then .usage else .display name
  | none, "list" | none, "" => .list
  | none, _ => .usage

variable {σ : Type}

/-- Carries a request out for the member of an id. `isBuiltin` holds of the names that call a
built-in command. -/
def run (st : RowStore σ CustomCommand) (isBuiltin : String → Bool) (owner : Id)
    (request : CustomRequest) (c : Cache CustomCommand) (s : σ) :
    CustomAnswer × Cache CustomCommand × σ :=
  match request with
  | usage => (.usage, c, s)
  | write mode name template =>
    if isBuiltin name then (.isBuiltin name, c, s)
    else
      match mode.write st { name, template, owner } c s with
      | (.ok true, c, s) => (.written mode name, c, s)
      | (.ok false, c, s) => (.refused mode name, c, s)
      | (.error e, c, s) => (.unsaved e, c, s)
  | delete name =>
    match c.remove st name s with
    | (.ok true, c, s) => (.deleted name, c, s)
    | (.ok false, c, s) => (.absent name, c, s)
    | (.error e, c, s) => (.unsaved e, c, s)
  | display name =>
    match c.findCommand st name s with
    | (some found, c, s) => (.shown found, c, s)
    | (none, c, s) => (.absent name, c, s)
  | list =>
    match c.listAll st s with
    | (.ok rows, c, s) => (.listing rows, c, s)
    | (.error e, c, s) => (.unreadable e, c, s)

end CustomRequest

/-- The text of an answer; `mark` is the text that commands start with. -/
def CustomAnswer.text (mark : String) : CustomAnswer → String
  | usage => "Usage: command add <name> <template> | command replace <name> <template> | " ++
      "command delete <name> | command show <name> | command list"
  | isBuiltin name => s!"`{name}` is a built-in command."
  | written .create name => s!"Added `{mark}{name}`."
  | written .overwrite name => s!"Updated `{mark}{name}`."
  | refused .create name =>
    s!"`{mark}{name}` already exists. Use `command replace` to change it."
  | refused .overwrite name =>
    s!"There is no `{mark}{name}`. Use `command add` to create it."
  | deleted name => s!"Deleted `{mark}{name}`."
  | absent name => s!"There is no `{mark}{name}`."
  | shown found => s!"`{mark}{found.name}` (by {found.owner}): {found.template}"
  | listing [] => "No custom commands yet."
  | listing rows =>
    "\n".intercalate ("Custom commands:" ::
      rows.map fun row ↦ s!"- {mark}{row.name}: {templateLine row.template}")
  | unsaved e => e.unsaved
  | unreadable e => s!"Could not load custom commands: {e.message}"

/-- What the arguments of `keyword` ask for. -/
inductive KeywordRequest where
  | write (mode : WriteMode) (name pattern template : String)
  | delete (name : String)
  | list
  | usage
  deriving Repr, DecidableEq

/-- What `keyword` answers. -/
inductive KeywordAnswer where
  | usage
  | unusable (pattern : String)
  | written (mode : WriteMode) (name : String)
  | refused (mode : WriteMode) (name : String)
  | deleted (name : String)
  | absent (name : String)
  | listing (rows : List Keyword)
  | unsaved (error : CacheError)
  | unreadable (error : CacheError)
  deriving Repr, DecidableEq

namespace KeywordRequest

def ofArgs (args : List Char) : KeywordRequest :=
  let (verb, rest) := subcommand args
  let (name, rest) := nameArgument rest
  let (pattern, template) := splitFirst rest
  match WriteMode.ofVerb? verb, verb with
  | some mode, _ =>
    if name.isEmpty || pattern.isEmpty || template.isEmpty then .usage
    else .write mode name (String.ofList pattern) (String.ofList template)
  | none, "delete" | none, "remove" => if name.isEmpty then .usage else .delete name
  | none, "list" | none, "" => .list
  | none, _ => .usage

variable {σ : Type}

/-- Carries a request out for the member of an id. -/
def run (st : RowStore σ Keyword) (owner : Id) (request : KeywordRequest) (c : Cache Keyword)
    (s : σ) : KeywordAnswer × Cache Keyword × σ :=
  match request with
  | usage => (.usage, c, s)
  | write mode name pattern template =>
    if (Keyword.compile? pattern).isNone then (.unusable pattern, c, s)
    else
      match mode.write st { name, pattern, template, owner } c s with
      | (.ok true, c, s) => (.written mode name, c, s)
      | (.ok false, c, s) => (.refused mode name, c, s)
      | (.error e, c, s) => (.unsaved e, c, s)
  | delete name =>
    match c.remove st name s with
    | (.ok true, c, s) => (.deleted name, c, s)
    | (.ok false, c, s) => (.absent name, c, s)
    | (.error e, c, s) => (.unsaved e, c, s)
  | list =>
    match c.listAll st s with
    | (.ok rows, c, s) => (.listing rows, c, s)
    | (.error e, c, s) => (.unreadable e, c, s)

end KeywordRequest

def KeywordAnswer.text : KeywordAnswer → String
  | usage => "Usage: keyword add <name> <pattern> <template> | " ++
      "keyword replace <name> <pattern> <template> | keyword delete <name> | keyword list"
  | unusable pattern => s!"`{pattern}` cannot be used as a pattern."
  | written .create name => s!"Added keyword `{name}`."
  | written .overwrite name => s!"Updated keyword `{name}`."
  | refused .create name => s!"Keyword `{name}` already exists."
  | refused .overwrite name | absent name => s!"There is no keyword `{name}`."
  | deleted name => s!"Deleted keyword `{name}`."
  | listing [] => "No keywords yet."
  | listing rows =>
    "\n".intercalate ("Keywords:" ::
      rows.map fun row ↦ s!"- {row.name} /{row.pattern}/: {templateLine row.template}")
  | unsaved e => e.unsaved
  | unreadable e => s!"Could not load keywords: {e.message}"

end Guildhall
