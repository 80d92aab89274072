import Guildhall.Command.Builtin
import Guildhall.Command.Subcommand
import Guildhall.Template.Expand

/-!
The command that lists commands and placeholders. A built-in command is listed under its first
trigger while it is on; custom commands that cannot be read are left out.
-/

set_option autoImplicit false

namespace Guildhall

open Text

/-- What the arguments of the command ask about. -/
inductive HelpRequest where
  | overview
  | placeholders
  | topic (token : String)
  deriving Repr, DecidableEq

/-- What the command answers. -/
inductive HelpAnswer where
  /-- The token and the command of each line, and the names of the custom commands. -/
  | overview (lines : List (String × Builtin)) (custom : List String)
  | placeholders
  | topic (token : String) (subject : Builtin)
  | unknownTopic (token : String)
  deriving Repr, DecidableEq

namespace HelpRequest

def ofArgs (args : List Char) : HelpRequest :=
  match (subcommand args).1 with
  | "" => .overview
  | "templates" | "template" | "placeholders" => .placeholders
  | token => .topic token

/-- The token that a registered command is listed under. -/
def shownTrigger (id : String) (triggers : List String) : String :=
  String.ofList ((triggers.headD id).toList.dropWhile (· == '!'))

/-- The token and the command of each registered command that is on. -/
def overviewLines (r : Registry Builtin) : List (String × Builtin) :=
  (r.entries.filter fun e ↦ r.isEnabled e.1).map fun e ↦
    (shownTrigger e.1 e.2.spec.triggers, e.2.command)

variable {σ : Type}

def run (st : RowStore σ CustomCommand) (r : Registry Builtin) (request : HelpRequest)
    (c : Cache CustomCommand) (s : σ) : HelpAnswer × Cache CustomCommand × σ :=
  match request with
  | overview =>
    match c.listAll st s with
    | (.ok rows, c, s) => (.overview (overviewLines r) (rows.map (·.name)), c, s)
    | (.error _, c, s) => (.overview (overviewLines r) [], c, s)
  | placeholders => (.placeholders, c, s)
  | topic token =>
    match r.entryOfTrigger? token with
    | some e => (.topic token e.command, c, s)
    | none => (.unknownTopic token, c, s)

end HelpRequest

/-- The text of an answer; `mark` is the text that commands start with. -/
def HelpAnswer.text (mark : String) : HelpAnswer → String
  | overview lines custom =>
    "\n".intercalate (["Commands:"] ++
      lines.map (fun (token, subject) ↦ s!"- {mark}{token}: {subject.summary}") ++
      (if custom.isEmpty then []
        else ["Custom: " ++ ", ".intercalate (custom.map (mark ++ ·))]) ++
      [s!"Try `{mark}help templates` for template placeholders."])
  | placeholders =>
    "\n".intercalate ("Template placeholders (escape braces with \\):" ::
      Placeholder.builtin.map fun d ↦ s!"- {d.usage}: {d.help}")
  | topic token subject => s!"{mark}{token}: {subject.summary}"
  | unknownTopic token => s!"No built-in command `{mark}{token}`."

end Guildhall
