import Guildhall.Proofs.GuildFile
import Guildhall.Proofs.Table

/-!
The rows that a guild's file keeps. The collections of a guild are told apart by name
(`GuildRows.of`), so that what holds of every collection is said once. What a guild's file keeps is
no more than the text in it holds (`GuildFile.kept_of_held`), and a guild is opened with the rows of
its file, or with the default rules if it has none (`GuildFile.rows_of_openIn`).
-/

set_option autoImplicit false

namespace Guildhall

/-! ### The collections of a guild -/

/-- The rows of a collection. -/
def Collection.Row : Collection → Type
  | permissions => PermissionRule
  | cooldowns => CooldownRule
  | commands => CustomCommand
  | keywords => Keyword

instance keyedRow : (c : Collection) → Keyed c.Row
  | .permissions => inferInstanceAs (Keyed PermissionRule)
  | .cooldowns => inferInstanceAs (Keyed CooldownRule)
  | .commands => inferInstanceAs (Keyed CustomCommand)
  | .keywords => inferInstanceAs (Keyed Keyword)

/-- What a guild has for a collection. -/
def GuildRows.of {F : Type → Type} (g : GuildRows F) : (c : Collection) → F c.Row
  | .permissions => g.permissions
  | .cooldowns => g.cooldowns
  | .commands => g.commands
  | .keywords => g.keywords

/-- A guild's rows with those of one collection replaced. -/
def GuildRows.put {F : Type → Type} (g : GuildRows F) : (c : Collection) → F c.Row → GuildRows F
  | .permissions, permissions => { g with permissions }
  | .cooldowns, cooldowns => { g with cooldowns }
  | .commands, commands => { g with commands }
  | .keywords, keywords => { g with keywords }

namespace GuildRows

variable {F : Type → Type} (g : GuildRows F) (c : Collection)

@[simp] theorem of_put_self (rows : F c.Row) : (g.put c rows).of c = rows := by
  cases c <;> rfl

theorem of_put_of_ne {c' : Collection} (hne : c' ≠ c) (rows : F c.Row) :
    (g.put c rows).of c' = g.of c' := by
  cases c <;> cases c' <;> first | rfl | exact absurd rfl hne

@[simp] theorem put_of : g.put c (g.of c) = g := by
  cases c <;> rfl

end GuildRows

/-- The store of a collection of a guild in a file. -/
theorem Backend.files_stores_of (fmt : RowFormat) (directory : String)
    (seed : List PermissionRule) (c : Collection) :
    (Backend.files fmt directory seed).stores.of c =
      GuildFile.store fmt (·.of c) fun rows rows' ↦ rows.put c rows' := by
  cases c <;> rfl

namespace GuildFile

/-! ### What is kept -/

/-- What a guild's file keeps: there is no file, or one that holds no rows or cannot be read, or
one that holds rows. -/
inductive Kept where
  | nothing
  | unusable
  | rows (rows : GuildTables)

namespace Kept

/-- The rows that a guild is opened with. -/
def opened? (seed : List PermissionRule) : Kept → Option GuildTables
  | nothing => some (seeded seed)
  | unusable => none
  | rows t => some t

end Kept

/-- What a guild's file keeps on a disk. -/
def kept (fmt : RowFormat) (directory guild : String) (d : Disk) : Kept :=
  match d.read (pathFor directory guild) with
  | .ok text =>
    match fmt.decode? text with
    | some rows => .rows rows
    | none => .unusable
  | .error .unreadable => .unusable
  | .error .absent => .nothing

variable {fmt : RowFormat} {directory guild : String} {d d' : Disk}

theorem kept_of_absent (hread : d.read (pathFor directory guild) = .error .absent) :
    kept fmt directory guild d = .nothing := by
  rw [kept, hread]

theorem kept_of_read {text : String} (hread : d.read (pathFor directory guild) = .ok text)
    {rows : GuildTables} (hdecode : fmt.decode? text = some rows) :
    kept fmt directory guild d = .rows rows := by
  simp only [kept, hread, hdecode]

/-- The text that holds the rows that are kept. -/
theorem read_of_kept {rows : GuildTables} (hkept : kept fmt directory guild d = .rows rows) :
    ∃ text, d.read (pathFor directory guild) = .ok text ∧ fmt.decode? text = some rows := by
  rw [kept] at hkept
  split at hkept
  · rename_i text hread
    refine ⟨text, hread, ?_⟩
    split at hkept
    · rw [← Kept.rows.inj hkept]
      assumption
    · cases hkept
  · cases hkept
  · cases hkept

/-- What is kept depends on the entry at the name of the guild's file and on whether a file is in
the way to its directory. -/
theorem kept_congr
    (hheld : d'.held directory (fileName guild) = d.held directory (fileName guild))
    (hblocked : d'.blocks directory = d.blocks directory) :
    kept fmt directory guild d' = kept fmt directory guild d := by
  have hread : d'.read (pathFor directory guild) = d.read (pathFor directory guild) := by
    rw [pathFor, ← fileName, Disk.read_join directory d (isOrdinary_fileName guild),
      Disk.read_join directory d' (isOrdinary_fileName guild), hheld, hblocked]
  rw [kept, kept, hread]

/-- A text in the guild's file that holds rows is what is kept. -/
theorem kept_of_held {text : String} {rows : GuildTables}
    (hheld : d.held directory (fileName guild) = some (.file text))
    (hdecode : fmt.decode? text = some rows) : kept fmt directory guild d = .rows rows := by
  rw [kept, pathFor, ← fileName, Disk.read_join directory d (isOrdinary_fileName guild), hheld]
  simp only [hdecode]

/-- Creating the directory leaves what is kept. -/
theorem kept_createDirectory? (hcreate : d.createDirectory? directory = some d') :
    kept fmt directory guild d' = kept fmt directory guild d := by
  have hspec := Disk.createDirectory?_spec directory d
  rw [hcreate] at hspec
  obtain ⟨hfree, -, hblocked, hothers⟩ := hspec
  have hbefore : d.blocks directory = false := by simpa using (Bool.and_eq_true_iff.mp hfree).2
  refine kept_congr ?_ (hblocked.trans hbefore.symm)
  exact hothers _ fun hway ↦ not_isOwn_of_mem_ancestors hway (Or.inl rfl)

/-- A guild is opened with the rows that are kept. -/
theorem rows_of_openIn {seed : List PermissionRule} {f : GuildFile}
    (hopen : openIn fmt directory seed guild d = (.ok f, d')) :
    (kept fmt directory guild d).opened? seed = some f.rows := by
  rw [openIn_eq] at hopen
  rcases hcreate : d.createDirectory? directory with _ | d₁
  · simp [hcreate] at hopen
  · rw [← kept_createDirectory? hcreate]
    simp only [hcreate, openThere] at hopen
    split at hopen
    · rename_i text hread
      split at hopen
      · rename_i rows hdecode
        rw [kept_of_read hread hdecode, ← Except.ok.inj (Prod.mk.inj hopen).1, Kept.opened?]
      · cases hopen
    · cases hopen
    · rename_i hread
      split at hopen
      · rw [kept_of_absent hread, ← Except.ok.inj (Prod.mk.inj hopen).1, Kept.opened?]
      · cases hopen

end GuildFile

end Guildhall
