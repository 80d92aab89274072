import Guildhall.Bot.Session
import Std.Time.DateTime

/-!
The program: it takes the files that a session needs over from the file system, answers the lines
of the standard input one by one and writes changed files back after each.
-/

set_option autoImplicit false

namespace Guildhall

/-- Takes what is at a path over from the file system, with all on the way to it. A file that is
no text counts as one that cannot be read. -/
def Disk.fetch (d : Disk) (path : String) : IO Disk := do
  let here ← IO.currentDir
  let mut entries := d.entries
  for p in Disk.ancestors (Disk.normal path) do
    if ← (here / p).isDir then
      entries := entries.insert p .directory
    else if ← (here / p).pathExists then
      let text? ← (some <$> IO.FS.readFile (here / p)) <|> pure none
      entries := entries.insert p (match text? with | some text => .file text | none => .directory)
    else
      entries := entries.erase p
  return { d with entries }

/-- Writes the entries to the file system that were not there before. -/
def Disk.save (d old : Disk) : IO Unit := do
  let here ← IO.currentDir
  for (p, e) in d.entries.entries do
    if old.entries.get? p ≠ some e then
      match e with
      | .directory => IO.FS.createDirAll (here / p)
      | .file text =>
        IO.FS.writeFile (here / GuildFile.temporary p) text
        IO.FS.rename (here / GuildFile.temporary p) (here / p)

/-- The text of the variable file in the working directory, or else in the nearest one above. -/
def Environment.fetchText : IO String := do
  let here ← IO.currentDir
  for directory in (Disk.ancestors here.toString).reverse do
    let path := Disk.join directory fileName
    if let some text := (← Disk.fetch {} path).text? path then
      return text
  return ""

/-- The environment, as far as it matters, and what the variable file adds to it. -/
def Environment.fetch : IO Environment := do
  let text ← fetchText
  let names := LogFilter.envName :: Setting.all.map (·.envName) ++
    (readEntries text).flatMap (·.names)
  let pairs ← names.filterMapM fun name ↦ do return (← IO.getEnv name).map (name, ·)
  let env : Environment := .ofList pairs
  return env.supplyText text

/-- The present moment, with randomness of its own. -/
def Moment.fetch : IO Moment := do
  let time ← Std.Time.Timestamp.now
  let seconds := time.val.second.val
  let bytes ← IO.getRandomBytes 8
  return {
    now := .ofParts seconds time.val.nano.val.toNat
    today := .ofDayNumber (seconds.fdiv Timestamp.secondsPerDay)
    draws := { seed := bytes.toList.foldl (fun n b ↦ n * 256 + b.toUInt64) 0 } }

namespace Session

/-- Takes over the file of the guild that the console is in. -/
def fetchGuild (s : Session) : IO Session := do
  let world ← s.state.world.fetch (GuildFile.pathFor s.directory s.console.guild)
  return { s with state := { s.state with world } }

/-- Answers lines until the input or the session ends. -/
partial def converse (s : Session) : IO Unit := do
  let line ← (← IO.getStdin).getLine
  if line.isEmpty then return
  let s ← s.fetchGuild
  match s.read (← Moment.fetch) line with
  | none => return
  | some (replies, next) =>
    next.state.world.save s.state.world
    for reply in replies do
      IO.println reply.line
    converse next

end Session

/-- Runs a session with the given options. -/
def Options.run (o : Options) : IO (Except StartError Unit) := do
  let d ← Disk.fetch {} o.config
  let d ← d.fetch (GuildFile.pathFor o.store o.guild)
  match Session.start o d with
  | (.error e, _) => return .error e
  | (.ok s, world) =>
    world.save d
    s.converse
    return .ok ()

/-- Does what the command line asks for. -/
def Invocation.run : Invocation → IO (Except StartError Unit)
  | version => do
    IO.println versionText
    return .ok ()
  | help => do
    IO.println helpText
    return .ok ()
  | start o => o.run

end Guildhall

open Guildhall in
def main (args : List String) : IO UInt32 := do
  let outcome ← match Invocation.ofEnvironment (← Environment.fetch) args with
    | .ok invocation => invocation.run
    | .error e => pure (.error e)
  match outcome with
  | .ok () => return 0
  | .error e =>
    IO.eprintln s!"Error: {e.message}"
    return UInt32.ofNat e.exitCode
