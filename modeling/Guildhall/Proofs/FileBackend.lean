import Guildhall.Proofs.Disk
import Guildhall.Proofs.Guild
import Guildhall.Store.GuildFile

/-!
Guilds in files. What a disk is told to do leaves every text in its files of one kind, if the texts
that it is given are (`Disk.Keeps.write?`, `Disk.Keeps.rename?`, `Disk.Keeps.createDirectory?`). A
change of a collection changes that collection alone, and only where it was saved. So guilds in
files are as lawful as guilds in memory, if the format keeps every row under its key
(`Backend.lawful_files`).
-/

set_option autoImplicit false

namespace Guildhall

/-! ### Texts on a disk -/

/-- Whether each file of a disk has a text of some kind. -/
def Disk.Keeps (kind : String → Prop) (d : Disk) : Prop :=
  ∀ path text, d.entries.get? path = some (.file text) → kind text

namespace Disk.Keeps

variable {kind : String → Prop} {d d' : Disk}

theorem entry? (hd : d.Keeps kind) {path text : String}
    (hentry : d.entry? path = some (.file text)) : kind text := by
  rw [Disk.entry?, Option.filter_eq_some_iff] at hentry
  obtain ⟨hfound, -⟩ := hentry
  split_ifs at hfound
  · cases hfound
  · exact hd _ _ hfound

theorem read (hd : d.Keeps kind) {path text : String} (hread : d.read path = .ok text) :
    kind text := by
  rw [Disk.read] at hread
  split at hread
  · rename_i found hfound
    obtain rfl := Except.ok.inj hread
    exact hd.entry? hfound
  · cases hread
  · split_ifs at hread

theorem insert (hd : d.Keeps kind) {path : String} {entry : DiskEntry}
    (hentry : ∀ text, entry = .file text → kind text) :
    Keeps kind { d with entries := d.entries.insert path entry } := by
  intro other text hget
  rw [Table.get?_insert] at hget
  split_ifs at hget
  · exact hentry text (Option.some.inj hget)
  · exact hd other text hget

theorem write? (hd : d.Keeps kind) {path text : String} (htext : kind text)
    (hwrite : d.write? path text = some d') : d'.Keeps kind := by
  simp only [Disk.write?] at hwrite
  split_ifs at hwrite
  obtain rfl := Option.some.inj hwrite
  refine hd.insert fun written hwritten ↦ ?_
  obtain rfl := DiskEntry.file.inj hwritten
  exact htext

theorem rename? (hd : d.Keeps kind) {source target : String}
    (hrename : d.rename? source target = some d') : d'.Keeps kind := by
  rw [Disk.rename?] at hrename
  split at hrename
  · rename_i text hsource
    obtain ⟨d₁, hwrite, rfl⟩ := Option.map_eq_some_iff.mp hrename
    have hwritten := hd.write? (hd.entry? hsource) hwrite
    intro path text' hget
    rw [Table.get?_erase] at hget
    split_ifs at hget
    exact hwritten path text' hget
  · cases hrename

theorem step? (hd : d.Keeps kind) {path : String} (hstep : d.step? path = some d') :
    d'.Keeps kind := by
  rw [Disk.step?] at hstep
  split at hstep
  · obtain rfl := Option.some.inj hstep
    exact hd
  · cases hstep
  · obtain rfl := Option.some.inj hstep
    exact hd.insert fun _ hfile ↦ by cases hfile

theorem foldlM_step? {paths : List String} (hd : d.Keeps kind)
    (hsteps : paths.foldlM Disk.step? d = some d') : d'.Keeps kind := by
  induction paths generalizing d with
  | nil =>
    obtain rfl := Option.some.inj hsteps
    exact hd
  | cons path paths ih =>
    rw [List.foldlM_cons] at hsteps
    obtain ⟨d₁, hfirst, hrest⟩ := Option.bind_eq_some_iff.mp hsteps
    exact ih (hd.step? hfirst) hrest

theorem createDirectory? (hd : d.Keeps kind) {path : String}
    (hcreate : d.createDirectory? path = some d') : d'.Keeps kind := by
  have hsteps : d.createDirectory? path = if hasValidNames path then
      (ancestors (normal path)).foldlM Disk.step? d else none := rfl
  rw [hsteps] at hcreate
  split_ifs at hcreate
  exact hd.foldlM_step? hcreate

end Disk.Keeps

namespace GuildFile

/-! ### Guilds in files -/

/-- The rows of a guild that is kept in a file, on a disk whose files have texts of some kind. -/
def view (kind : String → Prop) : GuildView GuildFile Disk where
  rows f := f.rows
  sound f := f.rows.IsKeyed
  tidy d := d.Keeps kind

variable {V : Type} [Keyed V] {fmt : RowFormat} {kind : String → Prop}
  (hkind : ∀ rows text, rows.IsKeyed → fmt.encode? rows = some text → kind text)
include hkind

theorem keeps_save (path : String) {rows : GuildTables} (hrows : rows.IsKeyed) {d : Disk}
    (hd : d.Keeps kind) : (save fmt path rows d).2.Keeps kind := by
  unfold save
  cases hencode : fmt.encode? rows with
  | none => exact hd
  | some text =>
    dsimp only
    cases hwrite : d.write? (temporary path) text with
    | none => exact hd
    | some d₁ =>
      have hwritten := hd.write? (hkind rows text hrows hencode) hwrite
      dsimp only
      cases hrename : d₁.rename? (temporary path) path with
      | none => exact hwritten
      | some d₂ => exact hwritten.rename? hrename

/-- The store of a collection changes that collection alone, and only where it was saved. -/
theorem lawful_store (get : GuildTables → Rows V) (put : GuildTables → Rows V → GuildTables)
    (hget : ∀ rows t, get (put rows t) = t) (hput : ∀ rows t t', put (put rows t) t' = put rows t')
    (hkeyed : ∀ rows t, (put rows t).IsKeyed → t.IsKeyed)
    (hkeep : ∀ rows t t', (put rows t).IsKeyed → t'.IsKeyed → (put rows t').IsKeyed)
    (rows : GuildTables) :
    (store fmt get put).Lawful fun s t ↦ (view kind).holds s (put rows t) where
  loadAll := by
    rintro s t ⟨hsound, htidy, hrows⟩
    have hrows' : s.1.rows = put rows t := hrows
    refine ⟨?_, hsound, htidy, hrows⟩
    rw [hrows', hget]
  loadOne := by
    rintro key s t ⟨hsound, htidy, hrows⟩
    have hrows' : s.1.rows = put rows t := hrows
    refine ⟨?_, hsound, htidy, hrows⟩
    rw [hrows', hget]
  upsert := by
    rintro row s t ⟨hsound, htidy, hrows⟩
    have hrows' : s.1.rows = put rows t := hrows
    have hold : (put rows t).IsKeyed := hrows' ▸ hsound
    have hnew := hkeep rows t _ hold ((hkeyed rows t hold).insert row)
    have hsaved := keeps_save hkind s.1.path hnew htidy
    simp only [store, change, hrows', hget, hput]
    rcases hsave : save fmt s.1.path (put rows (t.insert (Keyed.key row) row)) s.2 with
      ⟨e | ⟨⟩, d⟩
    · rw [hsave] at hsaved
      exact ⟨hsound, hsaved, hrows⟩
    · rw [hsave] at hsaved
      exact ⟨hnew, hsaved, rfl⟩
  delete := by
    rintro key s t ⟨hsound, htidy, hrows⟩
    have hrows' : s.1.rows = put rows t := hrows
    have hold : (put rows t).IsKeyed := hrows' ▸ hsound
    have hnew := hkeep rows t _ hold ((hkeyed rows t hold).erase key)
    have hsaved := keeps_save hkind s.1.path hnew htidy
    simp only [store, change, hrows', hget, hput]
    rcases hsave : save fmt s.1.path (put rows (t.erase key)) s.2 with ⟨e | ⟨⟩, d⟩
    · rw [hsave] at hsaved
      exact ⟨hsound, hsaved, hrows⟩
    · rw [hsave] at hsaved
      exact ⟨rfl, hnew, hsaved, rfl⟩

theorem lawful_stores (directory : String) (seed : List PermissionRule) :
    GuildStores.Lawful (Backend.files fmt directory seed).stores (view kind).holds where
  permissions := lawful_store hkind (·.permissions) (fun r permissions ↦ { r with permissions })
    (fun _ _ ↦ rfl) (fun _ _ _ ↦ rfl) (fun _ _ h ↦ h.permissions)
    fun _ _ _ h permissions ↦ { h with permissions }
  cooldowns := lawful_store hkind (·.cooldowns) (fun r cooldowns ↦ { r with cooldowns })
    (fun _ _ ↦ rfl) (fun _ _ _ ↦ rfl) (fun _ _ h ↦ h.cooldowns)
    fun _ _ _ h cooldowns ↦ { h with cooldowns }
  commands := lawful_store hkind (·.commands) (fun r commands ↦ { r with commands })
    (fun _ _ ↦ rfl) (fun _ _ _ ↦ rfl) (fun _ _ h ↦ h.commands)
    fun _ _ _ h commands ↦ { h with commands }
  keywords := lawful_store hkind (·.keywords) (fun r keywords ↦ { r with keywords })
    (fun _ _ ↦ rfl) (fun _ _ _ ↦ rfl) (fun _ _ h ↦ h.keywords)
    fun _ _ _ h keywords ↦ { h with keywords }

end GuildFile

/-! ### Guilds that can be opened -/

namespace RowFormat

/-- Whether the rows that a text holds, if any, stand under their own keys. -/
def HoldsKeyed (fmt : RowFormat) (text : String) : Prop :=
  ∀ rows, fmt.decode? text = some rows → rows.IsKeyed

/-- Whether no row comes under the key of another by being written and read again. -/
def KeepsKeys (fmt : RowFormat) : Prop :=
  ∀ rows text, rows.IsKeyed → fmt.encode? rows = some text → fmt.HoldsKeyed text

end RowFormat

theorem GuildFile.isKeyed_seeded (seed : List PermissionRule) : (seeded seed).IsKeyed where
  permissions := Table.isKeyed_ofRows seed
  cooldowns := Table.isKeyed_empty
  commands := Table.isKeyed_empty
  keywords := Table.isKeyed_empty

/-- Guilds in files are lawful where no file holds a row under the key of another. -/
theorem Backend.lawful_files {fmt : RowFormat} (hfmt : fmt.KeepsKeys) (directory : String)
    (seed : List PermissionRule) :
    (Backend.files fmt directory seed).Lawful (GuildFile.view fmt.HoldsKeyed) where
  stores := GuildFile.lawful_stores hfmt directory seed
  opens guild d hd := by
    simp only [Backend.files, GuildFile.openIn]
    cases hcreate : d.createDirectory? directory with
    | none => exact hd
    | some d₁ =>
      have hcreated := Disk.Keeps.createDirectory? hd hcreate
      dsimp only
      rcases hread : d₁.read (GuildFile.pathFor directory guild) with (_ | _) | text
      · have hseeded := GuildFile.isKeyed_seeded seed
        have hsaved := GuildFile.keeps_save hfmt (GuildFile.pathFor directory guild)
          hseeded hcreated
        dsimp only
        rcases hsave : GuildFile.save fmt (GuildFile.pathFor directory guild)
          (GuildFile.seeded seed) d₁ with ⟨e | ⟨⟩, d₂⟩
        · rw [hsave] at hsaved
          exact hsaved
        · rw [hsave] at hsaved
          exact ⟨hsaved, hseeded, hseeded⟩
      · exact hcreated
      · have hholds : fmt.HoldsKeyed text := hcreated.read hread
        dsimp only
        cases hdecode : fmt.decode? text with
        | none => exact hcreated
        | some rows => exact ⟨hcreated, hholds rows hdecode, hholds rows hdecode⟩

end Guildhall
