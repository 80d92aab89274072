import Guildhall.Proofs.GuildDocument
import Guildhall.Proofs.WrittenRows

/-!
Guild files on a disk that fails. Whatever goes wrong while rows are saved, the guild's file holds
the new rows if they were saved, and is left alone if they were not (`GuildFile.saveUnder_spec`). So
opening a guild either gives the rows that its file keeps, or the default rules if there was no
file, and leaves them kept; or it changes nothing of the file (`GuildFile.openUnder_spec`). Where
nothing goes wrong, guilds are those in files (`Backend.filesUnder_none`).
-/

set_option autoImplicit false

namespace Guildhall

open Disk

/-! ### What can go wrong -/

/-- What goes wrong while a guild is opened or rows are saved: the directory is not created, the
file is not read, the temporary file is not written, or but for a part of it, or the temporary file
does not take the place of the guild's file. -/
inductive Mishap where
  | uncreated
  | unread
  | unwritten (part : Option String)
  | unreplaced
  deriving DecidableEq

/-- Writes a file, and answers whether it was written. -/
def Disk.writeUnder (mishap : Option Mishap) (d : Disk) (path text : String) : Bool × Disk :=
  match mishap with
  | some (.unwritten part) => (false, (part.bind (d.write? path)).getD d)
  | _ =>
    match d.write? path text with
    | some d => (true, d)
    | none => (false, d)

namespace GuildFile

/-- Writes rows to the file of a path. -/
def saveUnder (mishap : Option Mishap) (fmt : RowFormat) (path : String) (rows : GuildTables)
    (d : Disk) : Except StoreFault Unit × Disk :=
  match fmt.encode? rows with
  | none => (.error .serializing, d)
  | some text =>
    match d.writeUnder mishap (temporary path) text with
    | (false, d) => (.error (.writing (temporary path)), d)
    | (true, d) =>
      match if mishap = some .unreplaced then none else d.rename? (temporary path) path with
      | none => (.error (.replacing path), d)
      | some d => (.ok (), d)

/-- Opens a guild's file in a directory. -/
def openUnder (mishap : Option Mishap) (fmt : RowFormat) (directory : String)
    (seed : List PermissionRule) (guild : String) (d : Disk) : Except StoreFault GuildFile × Disk :=
  let path := pathFor directory guild
  match if mishap = some .uncreated then none else d.createDirectory? directory with
  | none => (.error (.creatingDirectory directory), d)
  | some d =>
    match if mishap = some .unread then .error .unreadable else d.read path with
    | .ok text =>
      match fmt.decode? text with
      | some rows => (.ok { path, rows }, d)
      | none => (.error (.parsing path), d)
    | .error .unreadable => (.error (.reading path), d)
    | .error .absent =>
      match saveUnder mishap fmt path (seeded seed) d with
      | (.ok (), d) => (.ok { path, rows := seeded seed }, d)
      | (.error e, d) => (.error e, d)

/-- Writes changed rows and then keeps them. -/
def changeUnder {α : Type} (mishap : Option Mishap) (fmt : RowFormat) (f : GuildFile) (answer : α)
    (rows : GuildTables) (d : Disk) : Except StoreFault α × GuildFile × Disk :=
  match saveUnder mishap fmt f.path rows d with
  | (.ok (), d) => (.ok answer, { f with rows }, d)
  | (.error e, d) => (.error e, f, d)

/-- The store of one collection of the file. -/
def storeUnder {V : Type} [Keyed V] (mishap : Option Mishap) (fmt : RowFormat)
    (view : GuildTables → Rows V) (put : GuildTables → Rows V → GuildTables) :
    RowStore (GuildFile × Disk) V where
  loadAll s := (.ok (view s.1.rows).values, s)
  loadOne key s := (.ok ((view s.1.rows).get? key), s)
  upsert row s :=
    s.1.changeUnder mishap fmt true
      (put s.1.rows ((view s.1.rows).insert (Keyed.key row) row)) s.2
  delete key s :=
    s.1.changeUnder mishap fmt ((view s.1.rows).contains key)
      (put s.1.rows ((view s.1.rows).erase key)) s.2

end GuildFile

/-- Guilds that keep their rows in files of one directory, where a mishap may happen. -/
def Backend.filesUnder (mishap : Option Mishap) (fmt : RowFormat) (directory : String)
    (seed : List PermissionRule) : Backend GuildFile Disk where
  openGuild guild d := GuildFile.openUnder mishap fmt directory seed guild d
  stores := {
    permissions := GuildFile.storeUnder mishap fmt (·.permissions)
      fun r permissions ↦ { r with permissions }
    cooldowns := GuildFile.storeUnder mishap fmt (·.cooldowns)
      fun r cooldowns ↦ { r with cooldowns }
    commands := GuildFile.storeUnder mishap fmt (·.commands) fun r commands ↦ { r with commands }
    keywords := GuildFile.storeUnder mishap fmt (·.keywords) fun r keywords ↦ { r with keywords } }

/-! ### Where nothing goes wrong -/

namespace GuildFile

variable {fmt : RowFormat}

theorem saveUnder_none : saveUnder none fmt = save fmt := by
  funext path rows d
  unfold saveUnder save
  cases fmt.encode? rows with
  | none => rfl
  | some text =>
    dsimp only [writeUnder]
    cases d.write? (temporary path) text <;> rfl

theorem openUnder_none : openUnder none fmt = openIn fmt := by
  funext directory seed guild d
  rw [openUnder, saveUnder_none]
  rfl

theorem changeUnder_none {α : Type} (f : GuildFile) (answer : α) :
    f.changeUnder none fmt answer = f.change fmt answer := by
  funext rows d
  rw [changeUnder, saveUnder_none]
  rfl

theorem storeUnder_none {V : Type} [Keyed V] (view : GuildTables → Rows V)
    (put : GuildTables → Rows V → GuildTables) :
    storeUnder none fmt view put = store fmt view put := by
  unfold storeUnder store
  simp only [changeUnder_none]

end GuildFile

/-- Where nothing goes wrong, guilds are those in files. -/
theorem Backend.filesUnder_none (fmt : RowFormat) (directory : String)
    (seed : List PermissionRule) :
    filesUnder none fmt directory seed = files fmt directory seed := by
  simp only [filesUnder, files, GuildFile.openUnder_none, GuildFile.storeUnder_none]

/-! ### Saving -/

namespace GuildFile

variable {fmt : RowFormat} {directory guild : String} {d : Disk}

/-- A file that is written is held, and no other entry changes, whatever goes wrong. -/
theorem writeUnder_spec {name : String} (hname : IsOrdinary name)
    (hd : d.isDirectory directory = true) (mishap : Option Mishap) (text : String) :
    let written := d.writeUnder mishap (join directory name) text
    (∀ key, key ≠ normal (join directory name) →
        written.2.entries.get? key = d.entries.get? key) ∧
      (written.1 = true → written.2.held directory name = some (.file text)) := by
  have hinsert (text : String) : ∀ d', d.write? (join directory name) text = some d' →
      (∀ key, key ≠ normal (join directory name) → d'.entries.get? key = d.entries.get? key) ∧
        d'.held directory name = some (.file text) := by
    intro d' hwrite
    rw [write?_join directory d hname hd] at hwrite
    split_ifs at hwrite
    obtain rfl := Option.some.inj hwrite
    refine ⟨fun key hkey ↦ ?_, ?_⟩
    · rw [Table.get?_insert, if_neg hkey]
    · rw [held, Table.get?_insert_self]
  unfold writeUnder
  split
  · rename_i part
    refine ⟨?_, fun hwritten ↦ by cases hwritten⟩
    cases hleft : part.bind (d.write? (join directory name)) with
    | none => exact fun _ _ ↦ rfl
    | some d' =>
      obtain ⟨part, -, hwrite⟩ := Option.bind_eq_some_iff.mp hleft
      exact (hinsert part d' hwrite).1
  · cases hwrite : d.write? (join directory name) text with
    | none => exact ⟨fun _ _ ↦ rfl, fun hwritten ↦ by cases hwritten⟩
    | some d' => exact ⟨(hinsert text d' hwrite).1, fun _ ↦ (hinsert text d' hwrite).2⟩

/-- What writes the temporary file and puts it in the place of the guild's file leaves everything
else, and either does both or leaves the guild's file. -/
theorem saveUnder_spec (fmt : RowFormat) (guild : String) (hd : d.isDirectory directory = true)
    (mishap : Option Mishap) (rows : GuildTables) :
    let saved := saveUnder mishap fmt (pathFor directory guild) rows d
    Leaves directory guild d saved.2 ∧
      match saved.1 with
      | .ok _ => ∃ text, fmt.encode? rows = some text ∧
          saved.2.held directory (fileName guild) = some (.file text)
      | .error _ =>
        saved.2.held directory (fileName guild) = d.held directory (fileName guild) := by
  have hapart : normal (join directory (fileName guild)) ≠
      normal (join directory (temporaryName guild)) := fun heq ↦
    fileName_ne_temporaryName guild guild (normal_join_inj directory (isOrdinary_fileName guild)
      (isOrdinary_temporaryName guild) heq)
  simp only [saveUnder, temporary_pathFor]
  cases hencode : fmt.encode? rows with
  | none => exact ⟨.refl directory guild d, rfl⟩
  | some text =>
    obtain ⟨hothers, hwritten⟩ :=
      writeUnder_spec (isOrdinary_temporaryName guild) hd mishap text
    dsimp only
    generalize d.writeUnder mishap (join directory (temporaryName guild)) text = written
      at hothers hwritten ⊢
    rcases written with ⟨_ | _, d₁⟩
    · exact ⟨leaves_of_own fun key hown ↦ hothers key fun heq ↦ hown (Or.inr heq), hothers _ hapart⟩
    · have hleaves : Leaves directory guild d d₁ :=
        leaves_of_own fun key hown ↦ hothers key fun heq ↦ hown (Or.inr heq)
      dsimp only
      cases hplace : (if mishap = some .unreplaced then none
          else d₁.rename? (join directory (temporaryName guild)) (pathFor directory guild)) with
      | none => exact ⟨hleaves, hothers _ hapart⟩
      | some d₂ =>
        split_ifs at hplace
        rw [pathFor, ← fileName, rename?_join directory (isOrdinary_temporaryName guild)
          (isOrdinary_fileName guild) (hleaves.there hd) (hwritten rfl)] at hplace
        split_ifs at hplace
        obtain rfl := Option.some.inj hplace
        refine ⟨hleaves.trans (leaves_of_own fun key hown ↦ ?_), text, rfl, ?_⟩
        · obtain ⟨hfile, htemporary⟩ := not_or.mp hown
          rw [Table.get?_erase, if_neg htemporary, Table.get?_insert, if_neg hfile]
        · rw [held, Table.get?_erase, if_neg hapart, Table.get?_insert_self]

/-! ### Opening -/

/-- A guild's file is opened: it has its path, in a directory that is there, and its rows are those
that are kept. -/
structure Opened (fmt : RowFormat) (directory guild : String) (f : GuildFile) (d : Disk) :
    Prop where
  path : f.path = pathFor directory guild
  there : d.isDirectory directory = true
  free : (hasValidNames directory && !d.blocks directory) = true
  kept : kept fmt directory guild d = .rows f.rows
  fits : f.rows.Fits

theorem fits_seeded (seed : List PermissionRule) : (seeded seed).Fits := nofun

theorem Opened.of_kept {d' : Disk} {f : GuildFile} (hf : f.Opened fmt directory guild d)
    (hleaves : Leaves directory guild d d')
    (hheld : d'.held directory (fileName guild) = d.held directory (fileName guild)) :
    f.Opened fmt directory guild d' where
  path := hf.path
  there := hleaves.there hf.there
  free := by rw [hleaves.blocked, hf.free]
  kept := by rw [kept_congr hheld hleaves.blocked, hf.kept]
  fits := hf.fits

theorem Opened.of_held (hthere : d.isDirectory directory = true)
    (hfree : (hasValidNames directory && !d.blocks directory) = true) (hfmt : fmt.Faithful)
    {rows : GuildTables} (hfits : rows.Fits) {text : String}
    (hencode : fmt.encode? rows = some text)
    (hheld : d.held directory (fileName guild) = some (.file text)) :
    Opened fmt directory guild { path := pathFor directory guild, rows } d where
  path := rfl
  there := hthere
  free := hfree
  kept := kept_of_held hheld (hfmt.decode?_of_encode? hfits hencode)
  fits := hfits

/-- A guild is opened with the rows that are kept, and then they are kept; or nothing of its file
changes. -/
theorem openUnder_spec (hfmt : fmt.Faithful) (directory guild : String) (d : Disk)
    (mishap : Option Mishap) (seed : List PermissionRule) :
    match openUnder mishap fmt directory seed guild d with
    | (.ok f, d') => f.Opened fmt directory guild d' ∧
        (kept fmt directory guild d).opened? seed = some f.rows
    | (.error _, d') => Leaves directory guild d d' ∧
        d'.held directory (fileName guild) = d.held directory (fileName guild) := by
  unfold openUnder
  dsimp only
  cases hcreate : (if mishap = some .uncreated then none else d.createDirectory? directory) with
  | none => exact ⟨.refl directory guild d, rfl⟩
  | some d₁ =>
    split_ifs at hcreate
    have hspec := createDirectory?_spec directory d
    rw [hcreate] at hspec
    obtain ⟨hfree, -, hblocked, hothers⟩ := hspec
    obtain ⟨hleaves, hthere⟩ := leaves_createDirectory? guild hcreate
    have hfree₁ : (hasValidNames directory && !d₁.blocks directory) = true := by
      rw [hleaves.blocked, hfree]
    have hheld : d₁.held directory (fileName guild) = d.held directory (fileName guild) :=
      hothers _ fun hway ↦ not_isOwn_of_mem_ancestors hway (Or.inl rfl)
    have hcreated : kept fmt directory guild d₁ = kept fmt directory guild d :=
      kept_createDirectory? hcreate
    rw [← hcreated]
    dsimp only
    by_cases hunread : mishap = some .unread
    · rw [if_pos hunread]
      exact ⟨hleaves, hheld⟩
    rw [if_neg hunread]
    rcases hread : d₁.read (pathFor directory guild) with (_ | _) | text
    · obtain ⟨hleaves₂, hsaved⟩ := saveUnder_spec fmt guild hthere mishap (seeded seed)
      rw [kept_of_absent hread]
      dsimp only
      generalize saveUnder mishap fmt (pathFor directory guild) (seeded seed) d₁ = saved
        at hleaves₂ hsaved ⊢
      rcases saved with ⟨e | ⟨⟩, d₂⟩
      · exact ⟨hleaves.trans hleaves₂, hsaved.trans hheld⟩
      · obtain ⟨text, hencode, hheld₂⟩ := hsaved
        refine ⟨.of_held (hleaves₂.there hthere) ?_ hfmt (fits_seeded seed) hencode hheld₂, rfl⟩
        rw [hleaves₂.blocked, hfree₁]
    · exact ⟨hleaves, hheld⟩
    · dsimp only
      cases hdecode : fmt.decode? text with
      | none => exact ⟨hleaves, hheld⟩
      | some rows =>
        have hkept := kept_of_read hread hdecode
        refine ⟨⟨rfl, hthere, hfree₁, hkept, hfmt.fits_of_decode? hdecode⟩, ?_⟩
        rw [hkept]
        rfl

/-- The default rules do not matter to a guild that has a file. -/
theorem openUnder_congr (hkept : kept fmt directory guild d ≠ .nothing) (mishap : Option Mishap)
    (seed seed' : List PermissionRule) :
    openUnder mishap fmt directory seed guild d = openUnder mishap fmt directory seed' guild d := by
  unfold openUnder
  dsimp only
  cases hcreate : (if mishap = some .uncreated then none else d.createDirectory? directory) with
  | none => rfl
  | some d₁ =>
    split_ifs at hcreate
    rw [← kept_createDirectory? hcreate] at hkept
    dsimp only
    by_cases hunread : mishap = some .unread
    · rw [if_pos hunread]
    rw [if_neg hunread]
    rcases hread : d₁.read (pathFor directory guild) with (_ | _) | text
    · exact absurd (kept_of_absent hread) hkept
    · rfl
    · rfl

/-- A guild that is open is opened again as it is. -/
theorem Opened.reopen {f : GuildFile} (hf : f.Opened fmt directory guild d)
    (seed : List PermissionRule) : (openIn fmt directory seed guild d).1 = .ok f := by
  have hspec := createDirectory?_spec directory d
  unfold openIn
  dsimp only
  cases hcreate : d.createDirectory? directory with
  | none =>
    rw [hcreate, hf.free] at hspec
    cases hspec
  | some d₁ =>
    obtain ⟨text, hread, hdecode⟩ :=
      read_of_kept ((kept_createDirectory? hcreate).trans hf.kept)
    dsimp only
    rw [hread]
    dsimp only
    rw [hdecode, ← hf.path]

/-! ### Changing rows -/

/-- Rows that were changed are kept, in memory and in the file; or neither changes. -/
theorem Opened.changeUnder {α : Type} {f : GuildFile} (hf : f.Opened fmt directory guild d)
    (hfmt : fmt.Faithful) (mishap : Option Mishap) (answer : α) {rows : GuildTables}
    (hrows : rows.Fits) :
    match f.changeUnder mishap fmt answer rows d with
    | (.ok a, f', d') => a = answer ∧ f'.rows = rows ∧ f'.Opened fmt directory guild d'
    | (.error _, f', d') => f' = f ∧ Leaves directory guild d d' ∧
        d'.held directory (fileName guild) = d.held directory (fileName guild) := by
  obtain ⟨hleaves, hsaved⟩ := saveUnder_spec fmt guild hf.there mishap rows
  rw [GuildFile.changeUnder, hf.path]
  generalize saveUnder mishap fmt (pathFor directory guild) rows d = saved at hleaves hsaved ⊢
  rcases saved with ⟨e | ⟨⟩, d₁⟩
  · exact ⟨rfl, hleaves, hsaved⟩
  · obtain ⟨text, hencode, hheld⟩ := hsaved
    refine ⟨rfl, rfl, .of_held (hleaves.there hf.there) ?_ hfmt hrows hencode hheld⟩
    rw [hleaves.blocked, hf.free]

end GuildFile

end Guildhall
