import Guildhall.Proofs.Disk
import Guildhall.Store.GuildFile

/-!
A guild's file. What is done with it depends on the entries at its own names and on whether its
directory can be reached (`GuildFile.Alike`), and changes nothing but these entries and the way to
the directory (`GuildFile.Leaves`). Files and temporary files of guilds have different names unless
the ids of the guilds are written alike (`GuildFile.not_isOwn_of_stem_ne`), so that what one guild
does to its file another does not see (`GuildFile.Leaves.alike`).
-/

set_option autoImplicit false

namespace Guildhall

open Disk

namespace GuildFile

/-! ### Names of files -/

/-- The name of a guild's file. -/
def fileName (guild : String) : String := stem guild ++ ".yaml"

/-- The name of the temporary file of a guild. -/
def temporaryName (guild : String) : String :=
  if stem guild = "" then ".yaml.yaml.tmp" else stem guild ++ ".yaml.tmp"

theorem mem_stem {guild : String} {c : Char} (hc : c ∈ (stem guild).toList) :
    keepsChar c = true := by
  rw [stem, String.toList_ofList, List.mem_map] at hc
  obtain ⟨c', -, rfl⟩ := hc
  split_ifs with hkept
  · exact hkept
  · rfl

theorem slash_notMem_stem (guild : String) : '/' ∉ (stem guild).toList := fun hslash ↦ by
  have hkept := mem_stem hslash
  revert hkept
  decide

theorem isOrdinary_fileName (guild : String) : IsOrdinary (fileName guild) := by
  refine isOrdinary_of_length ?_ ?_
  · rw [fileName, String.toList_append, List.mem_append, not_or]
    exact ⟨slash_notMem_stem guild, by decide⟩
  · rw [fileName, String.length_append]
    have hextension : ".yaml".length = 5 := rfl
    omega

theorem isOrdinary_temporaryName (guild : String) : IsOrdinary (temporaryName guild) := by
  unfold temporaryName
  split_ifs
  · exact isOrdinary_of_length (by decide) (by decide)
  · refine isOrdinary_of_length ?_ ?_
    · rw [String.toList_append, List.mem_append, not_or]
      exact ⟨slash_notMem_stem guild, by decide⟩
    · rw [String.length_append]
      have hextension : ".yaml.tmp".length = 9 := rfl
      omega

/-- No guild's file has the name of a temporary file. -/
theorem fileName_ne_temporaryName (guild other : String) :
    fileName guild ≠ temporaryName other := by
  intro heq
  have hlast := congrArg (fun name : String ↦ name.toList.getLast?) heq
  unfold fileName temporaryName at hlast
  split_ifs at hlast
  · simp at hlast
  · simp at hlast

theorem fileName_inj {guild other : String} : fileName guild = fileName other ↔
    stem guild = stem other := by
  simp [fileName, String.append_left_inj]

theorem stem_ne_extension (guild : String) : stem guild ≠ ".yaml" := by
  intro heq
  have hpoint : keepsChar '.' = true := mem_stem (by rw [heq]; decide)
  exact absurd hpoint (by decide)

/-- Guilds whose temporary files have one name have one file. -/
theorem stem_eq_of_temporaryName {guild other : String}
    (heq : temporaryName guild = temporaryName other) : stem guild = stem other := by
  have hempty : ".yaml.yaml.tmp" = ".yaml" ++ ".yaml.tmp" := rfl
  unfold temporaryName at heq
  split_ifs at heq with hguild hother hother
  · rw [hguild, hother]
  · rw [hempty, String.append_left_inj] at heq
    exact absurd heq.symm (stem_ne_extension other)
  · rw [hempty, String.append_left_inj] at heq
    exact absurd heq (stem_ne_extension guild)
  · rwa [String.append_left_inj] at heq

variable {directory : String}

theorem temporary_pathFor (directory guild : String) :
    temporary (pathFor directory guild) = join directory (temporaryName guild) := by
  have hlast : (names (pathFor directory guild)).getLast? = some (fileName guild) := by
    rw [pathFor, ← fileName, names_join directory (isOrdinary_fileName guild).slashFree,
      List.getLast?_concat]
  have hextension : (some (fileName guild) = some ".yaml") ↔ stem guild = "" := by
    rw [Option.some.injEq, fileName, String.append_eq_right_iff]
  rw [temporary, hlast, pathFor, join_append, join_append]
  by_cases hstem : stem guild = ""
  · rw [if_pos (hextension.mpr hstem), temporaryName, if_pos hstem, hstem]
    rfl
  · rw [if_neg (mt hextension.mp hstem), temporaryName, if_neg hstem, String.append_assoc]
    rfl

/-! ### Saving -/

/-- The key of a guild's file, or of its temporary file, in the tree. -/
def IsOwn (directory guild key : String) : Prop :=
  key = normal (join directory (fileName guild)) ∨
    key = normal (join directory (temporaryName guild))

theorem not_isOwn_of_mem_ancestors {guild p : String} (hp : p ∈ ancestors (normal directory)) :
    ¬ IsOwn directory guild p := by
  obtain ⟨-, -, hne⟩ := of_mem_ancestors hp
  rintro (heq | heq)
  · exact hne _ (isOrdinary_fileName guild) heq
  · exact hne _ (isOrdinary_temporaryName guild) heq

/-- Guilds with files of different names have no key in common. -/
theorem not_isOwn_of_stem_ne {guild other key : String} (hstem : stem other ≠ stem guild)
    (hkey : IsOwn directory guild key) : ¬ IsOwn directory other key := by
  have hfile {name : String} := @normal_join_inj directory name
  rcases hkey with rfl | rfl
  · rintro (heq | heq)
    · have hname := hfile (isOrdinary_fileName guild) (isOrdinary_fileName other) heq
      exact hstem (fileName_inj.mp hname).symm
    · exact fileName_ne_temporaryName _ _
        (hfile (isOrdinary_fileName guild) (isOrdinary_temporaryName other) heq)
  · rintro (heq | heq)
    · exact fileName_ne_temporaryName _ _
        (hfile (isOrdinary_temporaryName guild) (isOrdinary_fileName other) heq).symm
    · have hname := hfile (isOrdinary_temporaryName guild) (isOrdinary_temporaryName other) heq
      exact hstem (stem_eq_of_temporaryName hname).symm

variable {d d' : Disk} {guild : String}

/-- Saving writes the temporary file and puts it in the place of the guild's file. -/
theorem save_eq (fmt : RowFormat) (hd : d.isDirectory directory = true) (rows : GuildTables) :
    save fmt (pathFor directory guild) rows d =
      match fmt.encode? rows with
      | none => (.error .serializing, d)
      | some text =>
        let file := normal (join directory (fileName guild))
        let temporary := normal (join directory (temporaryName guild))
        if d.accepts directory (temporaryName guild) then
          if d.accepts directory (fileName guild) then
            (.ok (), ⟨((d.entries.insert temporary (.file text)).insert file (.file text)).erase
              temporary⟩)
          else
            (.error (.replacing (pathFor directory guild)),
              ⟨d.entries.insert temporary (.file text)⟩)
        else (.error (.writing (GuildFile.temporary (pathFor directory guild))), d) := by
  unfold save
  cases fmt.encode? rows with
  | none => rfl
  | some text =>
    rw [temporary_pathFor]
    dsimp only
    rw [write?_join directory d (isOrdinary_temporaryName guild) hd]
    by_cases htemporary : d.accepts directory (temporaryName guild) = true
    · rw [if_pos htemporary, if_pos htemporary]
      dsimp only
      generalize hwritten : (⟨d.entries.insert (normal (join directory (temporaryName guild)))
        (.file text)⟩ : Disk) = written
      have hkept : ∀ p, p ≠ normal (join directory (temporaryName guild)) →
          written.entries.get? p = d.entries.get? p := fun p hp ↦ by
        rw [← hwritten, Table.get?_insert, if_neg hp]
      have hdirectory : written.isDirectory directory = true := by
        rw [← hd]
        exact isDirectory_congr fun p hp ↦
          hkept p fun heq ↦ not_isOwn_of_mem_ancestors hp (Or.inr heq)
      have hheld : written.held directory (temporaryName guild) = some (.file text) := by
        rw [held, ← hwritten, Table.get?_insert_self]
      have haccepts : written.accepts directory (fileName guild) =
          d.accepts directory (fileName guild) := by
        rw [accepts, accepts, held, hkept _ (fun heq ↦ ?_), held]
        exact fileName_ne_temporaryName guild guild (normal_join_inj directory
          (isOrdinary_fileName guild) (isOrdinary_temporaryName guild) heq)
      have hrename := rename?_join directory (isOrdinary_temporaryName guild)
        (isOrdinary_fileName guild) hdirectory hheld
      rw [pathFor, ← fileName, hrename, haccepts, ← hwritten]
      split_ifs <;> rfl
    · rw [if_neg htemporary, if_neg htemporary]

/-! ### What a guild changes -/

/-- What a guild leaves of a tree: the directory if it was there, and everything but the guild's
own files and the way to the directory, on which no file appears or disappears. -/
structure Leaves (directory guild : String) (d d' : Disk) : Prop where
  others : ∀ key, ¬ IsOwn directory guild key → key ∉ ancestors (normal directory) →
    d'.entries.get? key = d.entries.get? key
  blocked : d'.blocks directory = d.blocks directory
  there : d.isDirectory directory = true → d'.isDirectory directory = true

theorem Leaves.refl (directory guild : String) (d : Disk) : Leaves directory guild d d :=
  ⟨fun _ _ _ ↦ rfl, rfl, id⟩

theorem Leaves.trans {d₁ d₂ d₃ : Disk} (h₁ : Leaves directory guild d₁ d₂)
    (h₂ : Leaves directory guild d₂ d₃) : Leaves directory guild d₁ d₃ where
  others key hown hway := (h₂.others key hown hway).trans (h₁.others key hown hway)
  blocked := h₂.blocked.trans h₁.blocked
  there := h₂.there ∘ h₁.there

theorem leaves_of_own (hothers : ∀ key, ¬ IsOwn directory guild key →
    d'.entries.get? key = d.entries.get? key) : Leaves directory guild d d' where
  others key hown _ := hothers key hown
  blocked := blocks_congr fun p hp ↦ hothers p (not_isOwn_of_mem_ancestors hp)
  there hd := by
    rwa [isDirectory_congr fun p hp ↦ hothers p (not_isOwn_of_mem_ancestors hp)]

/-- Two trees of which a guild sees the same. -/
structure Alike (directory guild : String) (d d' : Disk) : Prop where
  own : ∀ key, IsOwn directory guild key → d.entries.get? key = d'.entries.get? key
  blocked : d.blocks directory = d'.blocks directory

/-- What one guild does another does not see, if their files have different names. -/
theorem Leaves.alike {other : String} (hleaves : Leaves directory other d d')
    (hstem : stem other ≠ stem guild) : Alike directory guild d' d where
  own key hown := hleaves.others key (not_isOwn_of_stem_ne hstem hown)
    fun hway ↦ not_isOwn_of_mem_ancestors hway hown
  blocked := hleaves.blocked

theorem leaves_save (fmt : RowFormat) (hd : d.isDirectory directory = true) (guild : String)
    (rows : GuildTables) :
    Leaves directory guild d (save fmt (pathFor directory guild) rows d).2 := by
  refine leaves_of_own fun key hown ↦ ?_
  obtain ⟨hfile, htemporary⟩ := not_or.mp hown
  rw [save_eq fmt hd]
  cases fmt.encode? rows with
  | none => rfl
  | some text =>
    dsimp only
    split_ifs
    · simp only [Table.get?_erase, Table.get?_insert, if_neg hfile, if_neg htemporary]
    · simp only [Table.get?_insert, if_neg htemporary]
    · rfl

/-- A guild saves its rows alike in trees of which it sees the same. -/
theorem Alike.save (hsame : Alike directory guild d d') (fmt : RowFormat)
    (hd : d.isDirectory directory = true) (hd' : d'.isDirectory directory = true)
    (rows : GuildTables) :
    let r := save fmt (pathFor directory guild) rows d
    let r' := save fmt (pathFor directory guild) rows d'
    r.1 = r'.1 ∧ Alike directory guild r.2 r'.2 := by
  have hblocked := (leaves_save fmt hd guild rows).blocked.trans
    (hsame.blocked.trans (leaves_save fmt hd' guild rows).blocked.symm)
  have hfile : d.accepts directory (fileName guild) = d'.accepts directory (fileName guild) := by
    rw [accepts, accepts, held, held, hsame.own _ (Or.inl rfl)]
  have htemporary : d.accepts directory (temporaryName guild) =
      d'.accepts directory (temporaryName guild) := by
    rw [accepts, accepts, held, held, hsame.own _ (Or.inr rfl)]
  suffices hown : (GuildFile.save fmt (pathFor directory guild) rows d).1 =
      (GuildFile.save fmt (pathFor directory guild) rows d').1 ∧
      ∀ key, IsOwn directory guild key →
        (GuildFile.save fmt (pathFor directory guild) rows d).2.entries.get? key =
          (GuildFile.save fmt (pathFor directory guild) rows d').2.entries.get? key from
    ⟨hown.1, hown.2, hblocked⟩
  rw [save_eq fmt hd, save_eq fmt hd', hfile, htemporary]
  cases fmt.encode? rows with
  | none => exact ⟨rfl, hsame.own⟩
  | some text =>
    dsimp only
    split_ifs
    · refine ⟨rfl, fun key hkey ↦ ?_⟩
      simp only [Table.get?_erase, Table.get?_insert, hsame.own key hkey]
    · refine ⟨rfl, fun key hkey ↦ ?_⟩
      simp only [Table.get?_insert, hsame.own key hkey]
    · exact ⟨rfl, hsame.own⟩

/-! ### Opening -/

/-- What is read or written once the directory is there. -/
def openThere (fmt : RowFormat) (directory : String) (seed : List PermissionRule) (guild : String)
    (d : Disk) : Except StoreFault GuildFile × Disk :=
  let path := pathFor directory guild
  match d.read path with
  | .ok text =>
    match fmt.decode? text with
    | some rows => (.ok { path, rows }, d)
    | none => (.error (.parsing path), d)
  | .error .unreadable => (.error (.reading path), d)
  | .error .absent =>
    match save fmt path (seeded seed) d with
    | (.ok (), d) => (.ok { path, rows := seeded seed }, d)
    | (.error e, d) => (.error e, d)

theorem openIn_eq (fmt : RowFormat) (directory : String) (seed : List PermissionRule)
    (guild : String) (d : Disk) :
    openIn fmt directory seed guild d =
      match d.createDirectory? directory with
      | none => (.error (.creatingDirectory directory), d)
      | some d => openThere fmt directory seed guild d := rfl

theorem leaves_openThere (fmt : RowFormat) (seed : List PermissionRule) (guild : String)
    (hd : d.isDirectory directory = true) :
    Leaves directory guild d (openThere fmt directory seed guild d).2 := by
  have hsave := leaves_save fmt hd guild (seeded seed)
  simp only [openThere]
  rcases d.read (pathFor directory guild) with fault | text
  · cases fault with
    | unreadable => exact .refl directory guild d
    | absent =>
      dsimp only
      rcases hresult : save fmt (pathFor directory guild) (seeded seed) d with ⟨e | ⟨⟩, d₁⟩
      · rwa [hresult] at hsave
      · rwa [hresult] at hsave
  · dsimp only
    cases fmt.decode? text <;> exact .refl directory guild d

/-- Creating the directory changes nothing but the way to it. -/
theorem leaves_createDirectory? {d₁ : Disk} (guild : String)
    (hcreate : d.createDirectory? directory = some d₁) :
    Leaves directory guild d d₁ ∧ d₁.isDirectory directory = true := by
  have hspec := createDirectory?_spec directory d
  rw [hcreate] at hspec
  obtain ⟨hfree, hthere, hblocked, hothers⟩ := hspec
  have hbefore : d.blocks directory = false := by simpa using (Bool.and_eq_true_iff.mp hfree).2
  exact ⟨⟨fun key _ hway ↦ hothers key hway, hblocked.trans hbefore.symm, fun _ ↦ hthere⟩, hthere⟩

theorem leaves_openIn (fmt : RowFormat) (directory : String) (seed : List PermissionRule)
    (guild : String) (d : Disk) :
    Leaves directory guild d (openIn fmt directory seed guild d).2 := by
  rw [openIn_eq]
  rcases hcreate : d.createDirectory? directory with _ | d₁
  · exact .refl directory guild d
  · obtain ⟨hleaves, hthere⟩ := leaves_createDirectory? guild hcreate
    exact hleaves.trans (leaves_openThere fmt seed guild hthere)

/-- A guild that is opened has the path of its file, in a directory that is there. -/
theorem path_of_openIn {fmt : RowFormat} {seed : List PermissionRule} {f : GuildFile}
    (hopen : (openIn fmt directory seed guild d).1 = .ok f) :
    f.path = pathFor directory guild ∧
      (openIn fmt directory seed guild d).2.isDirectory directory = true := by
  rw [openIn_eq] at hopen ⊢
  rcases hcreate : d.createDirectory? directory with _ | d₁
  · simp [hcreate] at hopen
  · obtain ⟨-, hthere⟩ := leaves_createDirectory? guild hcreate
    refine ⟨?_, (leaves_openThere fmt seed guild hthere).there hthere⟩
    simp only [hcreate, openThere] at hopen
    split at hopen
    · split at hopen
      · rw [← Except.ok.inj hopen]
      · cases hopen
    · cases hopen
    · split at hopen
      · rw [← Except.ok.inj hopen]
      · cases hopen

theorem Alike.openThere (hsame : Alike directory guild d d') (fmt : RowFormat)
    (seed : List PermissionRule) (hd : d.isDirectory directory = true)
    (hd' : d'.isDirectory directory = true) :
    let r := openThere fmt directory seed guild d
    let r' := openThere fmt directory seed guild d'
    r.1 = r'.1 ∧ Alike directory guild r.2 r'.2 := by
  have hread : d.read (pathFor directory guild) = d'.read (pathFor directory guild) := by
    rw [pathFor, ← fileName, read_join directory d (isOrdinary_fileName guild),
      read_join directory d' (isOrdinary_fileName guild), held, held, hsame.own _ (Or.inl rfl),
      hsame.blocked]
  have hsave := hsame.save fmt hd hd' (seeded seed)
  simp only [GuildFile.openThere, hread]
  rcases d'.read (pathFor directory guild) with fault | text
  · cases fault with
    | unreadable => exact ⟨rfl, hsame⟩
    | absent =>
      dsimp only
      rcases hfirst : GuildFile.save fmt (pathFor directory guild) (seeded seed) d with ⟨answer, d₁⟩
      rcases hsecond : GuildFile.save fmt (pathFor directory guild) (seeded seed) d' with
        ⟨answer', d₁'⟩
      rw [hfirst, hsecond] at hsave
      obtain ⟨rfl, hsame₁⟩ := hsave
      rcases answer with e | ⟨⟩
      · exact ⟨rfl, hsame₁⟩
      · exact ⟨rfl, hsame₁⟩
  · dsimp only
    cases fmt.decode? text with
    | none => exact ⟨rfl, hsame⟩
    | some rows => exact ⟨rfl, hsame⟩

/-- A guild is opened alike in trees of which it sees the same. -/
theorem Alike.openIn (hsame : Alike directory guild d d') (fmt : RowFormat)
    (seed : List PermissionRule) :
    let r := openIn fmt directory seed guild d
    let r' := openIn fmt directory seed guild d'
    r.1 = r'.1 ∧ Alike directory guild r.2 r'.2 := by
  have hspec := createDirectory?_spec directory d
  have hspec' := createDirectory?_spec directory d'
  rw [hsame.blocked] at hspec
  simp only [openIn_eq]
  rcases hfirst : d.createDirectory? directory with _ | d₁
  · rw [hfirst] at hspec
    rcases hsecond : d'.createDirectory? directory with _ | d₁'
    · exact ⟨rfl, hsame⟩
    · rw [hsecond] at hspec'
      exact absurd (hspec.symm.trans hspec'.1) (by decide)
  · rw [hfirst] at hspec
    rcases hsecond : d'.createDirectory? directory with _ | d₁'
    · rw [hsecond] at hspec'
      exact absurd (hspec'.symm.trans hspec.1) (by decide)
    · rw [hsecond] at hspec'
      obtain ⟨-, hthere, hblocked, hothers⟩ := hspec
      obtain ⟨-, hthere', hblocked', hothers'⟩ := hspec'
      have hsame₁ : Alike directory guild d₁ d₁' := by
        refine ⟨fun key hown ↦ ?_, hblocked.trans hblocked'.symm⟩
        have hway : key ∉ ancestors (normal directory) := fun hway ↦
          not_isOwn_of_mem_ancestors hway hown
        rw [hothers key hway, hothers' key hway, hsame.own key hown]
      exact hsame₁.openThere fmt seed hthere hthere'

/-! ### Changing rows -/

theorem leaves_change {α : Type} (fmt : RowFormat) {f : GuildFile}
    (hpath : f.path = pathFor directory guild) (hd : d.isDirectory directory = true) (answer : α)
    (rows : GuildTables) :
    let r := f.change fmt answer rows d
    r.2.1.path = f.path ∧ Leaves directory guild d r.2.2 := by
  have hsave := leaves_save fmt hd guild rows
  simp only [change, hpath]
  rcases hresult : save fmt (pathFor directory guild) rows d with ⟨e | ⟨⟩, d₁⟩
  · rw [hresult] at hsave
    exact ⟨hpath, hsave⟩
  · rw [hresult] at hsave
    exact ⟨rfl, hsave⟩

theorem Alike.change {α : Type} (hsame : Alike directory guild d d') (fmt : RowFormat)
    {f : GuildFile} (hpath : f.path = pathFor directory guild)
    (hd : d.isDirectory directory = true) (hd' : d'.isDirectory directory = true) (answer : α)
    (rows : GuildTables) :
    let r := f.change fmt answer rows d
    let r' := f.change fmt answer rows d'
    r.1 = r'.1 ∧ r.2.1 = r'.2.1 ∧ Alike directory guild r.2.2 r'.2.2 := by
  have hsave := hsame.save fmt hd hd' rows
  simp only [GuildFile.change, hpath]
  rcases hfirst : GuildFile.save fmt (pathFor directory guild) rows d with ⟨a, d₁⟩
  rcases hsecond : GuildFile.save fmt (pathFor directory guild) rows d' with ⟨a', d₁'⟩
  rw [hfirst, hsecond] at hsave
  obtain ⟨rfl, hsame₁⟩ := hsave
  rcases a with e | ⟨⟩
  · exact ⟨rfl, rfl, hsame₁⟩
  · exact ⟨rfl, rfl, hsame₁⟩

end GuildFile

end Guildhall
