import Guildhall.Store.Disk
import Guildhall.Store.Document

/-!
One file per guild. A guild that has no file yet starts with the default permission rules. A
change is written to a temporary file that then takes the place of the guild's file; the rows in
memory change only after that.
-/

set_option autoImplicit false

namespace Guildhall

/-- A guild's file and the rows that it holds. -/
structure GuildFile where
  path : String
  rows : GuildTables

namespace GuildFile

/-- The characters of a guild's id that its file's name keeps. -/
def keepsChar (c : Char) : Bool := c.isAlphanum || c == '-' || c == '_'

/-- The name of a guild's file, without the extension. -/
def stem (guild : String) : String :=
  String.ofList (guild.toList.map fun c ↦ if keepsChar c then c else '_')

def pathFor (directory guild : String) : String := Disk.join directory (stem guild ++ ".yaml")

/-- The temporary file of a guild's file. A name that is nothing but an extension gets another. -/
def temporary (path : String) : String :=
  if (Disk.names path).getLast? = some ".yaml" then path ++ ".yaml.tmp" else path ++ ".tmp"

/-- Writes rows to the file of a path. -/
def save (fmt : RowFormat) (path : String) (rows : GuildTables) (d : Disk) :
    Except StoreFault Unit × Disk :=
  match fmt.encode? rows with
  | none => (.error .serializing, d)
  | some text =>
    match d.write? (temporary path) text with
    | none => (.error (.writing (temporary path)), d)
    | some d =>
      match d.rename? (temporary path) path with
      | none => (.error (.replacing path), d)
      | some d => (.ok (), d)

/-- The rows that a guild without a file starts with. -/
def seeded (seed : List PermissionRule) : GuildTables :=
  { GuildTables.empty with permissions := Table.ofRows seed }

/-- Opens a guild's file in a directory. -/
def openIn (fmt : RowFormat) (directory : String) (seed : List PermissionRule) (guild : String)
    (d : Disk) : Except StoreFault GuildFile × Disk :=
  let path := pathFor directory guild
  match d.createDirectory? directory with
  | none => (.error (.creatingDirectory directory), d)
  | some d =>
    match d.read path with
    | .ok text =>
      match fmt.decode? text with
      | some rows => (.ok { path, rows }, d)
      | none => (.error (.parsing path), d)
    | .error .unreadable => (.error (.reading path), d)
    | .error .absent =>
      match save fmt path (seeded seed) d with
      | (.ok (), d) => (.ok { path, rows := seeded seed }, d)
      | (.error e, d) => (.error e, d)

/-- Writes changed rows and then keeps them. -/
def change {α : Type} (fmt : RowFormat) (f : GuildFile) (answer : α) (rows : GuildTables)
    (d : Disk) : Except StoreFault α × GuildFile × Disk :=
  match save fmt f.path rows d with
  | (.ok (), d) => (.ok answer, { f with rows }, d)
  | (.error e, d) => (.error e, f, d)

/-- The store of one collection of the file. -/
def store {V : Type} [Keyed V] (fmt : RowFormat) (view : GuildTables → Rows V)
    (put : GuildTables → Rows V → GuildTables) : RowStore (GuildFile × Disk) V where
  loadAll s := (.ok (view s.1.rows).values, s)
  loadOne key s := (.ok ((view s.1.rows).get? key), s)
  upsert row s :=
    s.1.change fmt true (put s.1.rows ((view s.1.rows).insert (Keyed.key row) row)) s.2
  delete key s :=
    s.1.change fmt ((view s.1.rows).contains key)
      (put s.1.rows ((view s.1.rows).erase key)) s.2

end GuildFile

/-- Guilds that keep their rows in files of one directory. -/
def Backend.files (fmt : RowFormat) (directory : String) (seed : List PermissionRule) :
    Backend GuildFile Disk where
  openGuild guild d := GuildFile.openIn fmt directory seed guild d
  stores := {
    permissions := GuildFile.store fmt (·.permissions) fun r permissions ↦ { r with permissions }
    cooldowns := GuildFile.store fmt (·.cooldowns) fun r cooldowns ↦ { r with cooldowns }
    commands := GuildFile.store fmt (·.commands) fun r commands ↦ { r with commands }
    keywords := GuildFile.store fmt (·.keywords) fun r keywords ↦ { r with keywords } }

end Guildhall
