import Guildhall.Store.Guild
import Guildhall.Yaml.Decode
import Guildhall.Yaml.Printer

/-!
The written form of a guild's rows: a mapping from each collection to its rows by key. A role is
left out where there is none; of a row that is read, only the role and the time of the last
activation may be missing. A time is written in the form of RFC 3339, and not every time can be.
-/

set_option autoImplicit false

namespace Guildhall

open Yaml Decode

/-- Rows that can be written as a record and read from one. -/
class Written (V : Type) extends Keyed V where
  tree? : V → Option Tree
  decode : Node → Decode V

def natTree (n : Nat) : Tree := .bare (toString n)

def idTree (id : Id) : Tree := natTree id.toNat

instance : Written PermissionRule where
  tree? r := some (.mapping ([("action", .text r.action), ("required_rank", .text r.rank.name)] ++
    r.role.toList.map fun role ↦ ("required_role_id", idTree role)))
  decode n := do
    let fs ← fields ["action", "required_rank", "required_role_id"] n
    return {
      action := ← fs.need "action" text
      rank := ← fs.need "required_rank" fun n ↦ do ofOption (Rank.ofName? (← variant n))
      role := ← fs.getD "required_role_id" (optional word) none }

/-- Reads a duration: seconds, and nanoseconds that may make up whole seconds. -/
def Duration.decode (n : Node) : Decode Duration := do
  let fs ← fields ["secs", "nanos"] n
  if fs.all fun f ↦ f.1 == "secs" || f.1 == "nanos" then
    let seconds ← fs.need "secs" (natural UInt64.size)
    let d := Duration.ofParts seconds (← fs.need "nanos" (natural UInt32.size))
    if d.seconds < UInt64.size then pure d else failure
  else failure

def Timestamp.decode (n : Node) : Decode Timestamp := do
  ofOption (Timestamp.parse? (← untypedText n).toList)

instance : Written CooldownRule where
  tree? r := do
    let last ← match r.last with
      | some t => t.format?.map .text
      | none => some (.bare "null")
    some (.mapping [("action", .text r.action),
      ("duration", .mapping [("secs", natTree r.duration.seconds),
        ("nanos", natTree r.duration.subsecond)]),
      ("last_activation", last)])
  decode n := do
    let fs ← fields ["action", "duration", "last_activation"] n
    return {
      action := ← fs.need "action" text
      duration := ← fs.need "duration" Duration.decode
      last := ← fs.getD "last_activation" (optional Timestamp.decode) none }

instance : Written CustomCommand where
  tree? r := some (.mapping [("name", .text r.name), ("template", .text r.template),
    ("owner_id", idTree r.owner)])
  decode n := do
    let fs ← fields ["name", "template", "owner_id"] n
    return {
      name := ← fs.need "name" text
      template := ← fs.need "template" text
      owner := ← fs.need "owner_id" word }

instance : Written Keyword where
  tree? r := some (.mapping [("name", .text r.name), ("pattern", .text r.pattern),
    ("template", .text r.template), ("owner_id", idTree r.owner)])
  decode n := do
    let fs ← fields ["name", "pattern", "template", "owner_id"] n
    return {
      name := ← fs.need "name" text
      pattern := ← fs.need "pattern" text
      template := ← fs.need "template" text
      owner := ← fs.need "owner_id" word }

/-- A format that a guild's rows are kept in: not all rows can be written, and not every text
holds rows. -/
structure RowFormat where
  encode? : GuildTables → Option String
  decode? : String → Option GuildTables

namespace RowFormat

/-- The rows of a collection, by key. -/
def rowsTree? {V : Type} [Written V] (rows : Rows V) : Option Tree :=
  (rows.entries.mapM fun e ↦ (Written.tree? e.2).map (e.1, ·)).map .mapping

def encodeYaml? (rows : GuildTables) : Option String := do
  return Tree.print [
    ("permissions", ← rowsTree? rows.permissions),
    ("cooldowns", ← rowsTree? rows.cooldowns),
    ("commands", ← rowsTree? rows.commands),
    ("keywords", ← rowsTree? rows.keywords)]

def decodeTables (n : Node) : Decode GuildTables := do
  let fs ← fields (Collection.all.map (·.name)) n
  return {
    permissions := ← fs.getD "permissions" (table text Written.decode) ∅
    cooldowns := ← fs.getD "cooldowns" (table text Written.decode) ∅
    commands := ← fs.getD "commands" (table text Written.decode) ∅
    keywords := ← fs.getD "keywords" (table text Written.decode) ∅ }

def yaml : RowFormat where
  encode? := encodeYaml?
  decode? s := (Document.ofText? s.toList).bind (run decodeTables)

end RowFormat

end Guildhall
