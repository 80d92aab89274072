import Guildhall.Table

/-!
A directory tree: the files below one directory, by their paths. Paths are texts with slashes
between the names; the empty path is the directory itself. A name has 255 bytes at most.
-/

set_option autoImplicit false

namespace Guildhall

inductive DiskEntry where
  | file (text : String)
  | directory
  deriving Repr, DecidableEq

/-- The entries by path. -/
structure Disk where
  entries : Table String DiskEntry := ∅
  deriving Repr, DecidableEq

namespace Disk

instance : Inhabited Disk := ⟨{}⟩

def names (path : String) : List String := (path.toList.splitOn '/').map String.ofList

/-- Adds a name to those of a path: a point stands for the path, two points for the one above. -/
def addName (path : List String) (name : String) : List String :=
  match name with
  | "" => if path.isEmpty then [""] else path
  | "." => path
  | ".." => if path.getLast?.all fun n ↦ n == ".." || n == "" then path ++ [".."] else path.dropLast
  | name => path ++ [name]

/-- The path without points and doubled slashes. -/
def normal (path : String) : String :=
  if path.isEmpty then "" else "/".intercalate ((names path).foldl addName [])

/-- The path of a name within a directory. -/
def join (directory name : String) : String :=
  if directory.isEmpty || directory.endsWith "/" then directory ++ name
  else directory ++ "/" ++ name

/-- The directory that a normal path lies in. -/
def parent (path : String) : String := "/".intercalate (names path).dropLast

def hasValidNames (path : String) : Bool := (names path).all (·.utf8ByteSize ≤ 255)

/-- What is at a path; a path with a slash at its end leads to directories only. -/
def entry? (d : Disk) (path : String) : Option DiskEntry :=
  let found := if normal path = "" then some .directory else d.entries.get? (normal path)
  found.filter fun e ↦ e == .directory || !path.endsWith "/"

def isDirectory (d : Disk) (path : String) : Bool := d.entry? path == some .directory

/-- The paths of the directories on the way to a normal path, and that path. -/
def ancestors (path : String) : List String :=
  ((names path).foldl
    (fun acc n ↦ acc ++ [match acc.getLast? with | some p => p ++ "/" ++ n | none => n])
    ([] : List String)).filter (· ≠ "")

/-- Why a file could not be read. -/
inductive ReadFault where
  | absent
  | unreadable
  deriving Repr, DecidableEq

def isFile (d : Disk) (path : String) : Bool := (d.entry? path).any (· != .directory)

/-- The text of a file. A file is absent where its path leads through directories only. -/
def read (d : Disk) (path : String) : Except ReadFault String :=
  match d.entry? path with
  | some (.file text) => .ok text
  | some .directory => .error .unreadable
  | none =>
    if hasValidNames path && !(ancestors (normal path)).any d.isFile then .error .absent
    else .error .unreadable

/-- The text of a file, if it can be read. -/
def text? (d : Disk) (path : String) : Option String := (d.read path).toOption

/-- Creates a directory and those it lies in, unless a file is in the way. -/
def createDirectory? (d : Disk) (path : String) : Option Disk :=
  if hasValidNames path then
    (ancestors (normal path)).foldlM
      (fun d p ↦ match d.entry? p with
        | some .directory => some d
        | some (.file _) => none
        | none => some { d with entries := d.entries.insert p .directory })
      d
  else none

/-- Writes a file in a directory that exists. -/
def write? (d : Disk) (path text : String) : Option Disk :=
  let path := normal path
  if hasValidNames path && d.isDirectory (parent path) && !d.isDirectory path then
    some { d with entries := d.entries.insert path (.file text) }
  else none

/-- Puts a file in the place of another, or of none. -/
def rename? (d : Disk) (source target : String) : Option Disk :=
  match d.entry? source with
  | some (.file text) =>
    (d.write? target text).map fun d ↦ { d with entries := d.entries.erase (normal source) }
  | _ => none

/-- Removes an entry with all that is in it. -/
def remove (d : Disk) (path : String) : Disk :=
  let path := normal path
  { d with entries := d.entries.filter fun p _ ↦ p ≠ path && !p.startsWith (path ++ "/") }

/-- The names in a directory, in order. -/
def list (d : Disk) (path : String) : List String :=
  let path := normal path
  d.entries.keys.filterMap fun p ↦ if parent p = path then (names p).getLast? else none

end Disk

end Guildhall
