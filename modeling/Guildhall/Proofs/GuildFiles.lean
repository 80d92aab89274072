import Guildhall.Proofs.GuildFile

/-!
Guilds that keep their rows in files of one directory. A history opens guilds, opens them again and
calls their stores, in any order. A guild is answered alike wherever it sees the same
(`Shelf.Alike.run`), and it does not see what is done with guilds whose ids are written otherwise
(`Shelf.Alike.of_run`), so that it is answered as if nothing of that had happened
(`Backend.guild_files_do_not_collide`). Guilds whose ids are written alike have one file
(`Backend.guild_files_collide`).
-/

set_option autoImplicit false

namespace Guildhall

/-! ### Calls of opened guilds -/

/-- A call of a store. -/
inductive RowCall (V : Type) where
  | loadAll
  | loadOne (key : String)
  | upsert (row : V)
  | delete (key : String)

inductive RowAnswer (V : Type) where
  | rows (rows : List V)
  | row (row : Option V)
  | done (answer : Bool)
  deriving DecidableEq

/-- A call of one of the stores of a guild. -/
inductive CollectionCall where
  | permissions (call : RowCall PermissionRule)
  | cooldowns (call : RowCall CooldownRule)
  | commands (call : RowCall CustomCommand)
  | keywords (call : RowCall Keyword)

inductive CollectionAnswer where
  | permissions (answer : RowAnswer PermissionRule)
  | cooldowns (answer : RowAnswer CooldownRule)
  | commands (answer : RowAnswer CustomCommand)
  | keywords (answer : RowAnswer Keyword)
  deriving DecidableEq

/-- What is done with a guild: it is opened, again if it is open, or one of its stores is called. -/
inductive GuildCall where
  | reopen
  | rows (call : CollectionCall)

inductive GuildAnswer where
  | opened
  | rows (answer : CollectionAnswer)
  deriving DecidableEq

/-- The guilds that were opened, with what they share. -/
structure Shelf (γ ω : Type) where
  opened : Table String γ := ∅
  world : ω

section Calls

variable {σ V γ ω : Type}

def RowCall.run (st : RowStore σ V) (call : RowCall V) (s : σ) :
    Except StoreFault (RowAnswer V) × σ :=
  match call with
  | loadAll => let (a, s) := st.loadAll s; (a.map .rows, s)
  | loadOne key => let (a, s) := st.loadOne key s; (a.map .row, s)
  | upsert row => let (a, s) := st.upsert row s; (a.map .done, s)
  | delete key => let (a, s) := st.delete key s; (a.map .done, s)

def CollectionCall.run (st : GuildStores σ) (call : CollectionCall) (s : σ) :
    Except StoreFault CollectionAnswer × σ :=
  match call with
  | permissions call => let (a, s) := call.run st.permissions s; (a.map .permissions, s)
  | cooldowns call => let (a, s) := call.run st.cooldowns s; (a.map .cooldowns, s)
  | commands call => let (a, s) := call.run st.commands s; (a.map .commands, s)
  | keywords call => let (a, s) := call.run st.keywords s; (a.map .keywords, s)

/-- The answer to what is done with a guild; none where the guild would have to be open. A guild
that cannot be opened again stays open as it was. -/
def GuildCall.run (b : Backend γ ω) (guild : String) (call : GuildCall) (s : Shelf γ ω) :
    Option (Except StoreFault GuildAnswer) × Shelf γ ω :=
  match call with
  | reopen =>
    match b.openGuild guild s.world with
    | (.ok stored, world) => (some (.ok .opened), { opened := s.opened.insert guild stored, world })
    | (.error e, world) => (some (.error e), { s with world })
  | rows call =>
    match s.opened.get? guild with
    | none => (none, s)
    | some stored =>
      let (a, stored, world) := call.run b.stores (stored, s.world)
      (some (a.map .rows), { opened := s.opened.insert guild stored, world })

/-- The answers to what is done with one guild in a history. -/
def Backend.answersTo (b : Backend γ ω) (guild : String) :
    List (String × GuildCall) → Shelf γ ω → List (Option (Except StoreFault GuildAnswer))
  | [], _ => []
  | (other, call) :: history, s =>
    (if other = guild then [(call.run b other s).1] else []) ++
      b.answersTo guild history (call.run b other s).2

end Calls

namespace GuildFile

/-- An operation on a guild's file that leaves everything as it is, or changes the rows. -/
def ReadsOrChanges {α : Type} (fmt : RowFormat) (f : GuildFile)
    (op : GuildFile × Disk → Except StoreFault α × GuildFile × Disk) : Prop :=
  (∃ answer, ∀ d, op (f, d) = (answer, f, d)) ∨
    ∃ answer rows, ∀ d, op (f, d) = f.change fmt answer rows d

theorem ReadsOrChanges.map {α β : Type} {fmt : RowFormat} {f : GuildFile}
    {op : GuildFile × Disk → Except StoreFault α × GuildFile × Disk}
    (hop : ReadsOrChanges fmt f op) (g : α → β) :
    ReadsOrChanges fmt f fun s ↦ let (a, s) := op s; (a.map g, s) := by
  rcases hop with ⟨answer, hreads⟩ | ⟨answer, rows, hchanges⟩
  · exact Or.inl ⟨answer.map g, fun d ↦ by simp only [hreads]⟩
  · refine Or.inr ⟨g answer, rows, fun d ↦ ?_⟩
    simp only [hchanges, change]
    rcases save fmt f.path rows d with ⟨e | ⟨⟩, d₁⟩ <;> rfl

theorem readsOrChanges_store {V : Type} [Keyed V] (fmt : RowFormat) (view : GuildTables → Rows V)
    (put : GuildTables → Rows V → GuildTables) (call : RowCall V) (f : GuildFile) :
    ReadsOrChanges fmt f (call.run (store fmt view put)) := by
  cases call with
  | loadAll => exact Or.inl ⟨.ok (.rows (view f.rows).values), fun d ↦ rfl⟩
  | loadOne key => exact Or.inl ⟨.ok (.row ((view f.rows).get? key)), fun d ↦ rfl⟩
  | upsert row =>
    have hupsert : ReadsOrChanges fmt f ((store fmt view put).upsert row) :=
      Or.inr ⟨true, put f.rows ((view f.rows).insert (Keyed.key row) row), fun d ↦ rfl⟩
    exact hupsert.map _
  | delete key =>
    have hdelete : ReadsOrChanges fmt f ((store fmt view put).delete key) :=
      Or.inr ⟨(view f.rows).contains key, put f.rows ((view f.rows).erase key), fun d ↦ rfl⟩
    exact hdelete.map _

theorem readsOrChanges_collectionCall (fmt : RowFormat) (directory : String)
    (seed : List PermissionRule) (call : CollectionCall) (f : GuildFile) :
    ReadsOrChanges fmt f (call.run (Backend.files fmt directory seed).stores) := by
  cases call with
  | permissions call =>
    have hstore := readsOrChanges_store fmt (·.permissions)
      (fun r permissions ↦ { r with permissions }) call f
    exact hstore.map CollectionAnswer.permissions
  | cooldowns call =>
    have hstore := readsOrChanges_store fmt (·.cooldowns)
      (fun r cooldowns ↦ { r with cooldowns }) call f
    exact hstore.map CollectionAnswer.cooldowns
  | commands call =>
    have hstore := readsOrChanges_store fmt (·.commands) (fun r commands ↦ { r with commands })
      call f
    exact hstore.map CollectionAnswer.commands
  | keywords call =>
    have hstore := readsOrChanges_store fmt (·.keywords) (fun r keywords ↦ { r with keywords })
      call f
    exact hstore.map CollectionAnswer.keywords

end GuildFile

namespace Shelf

variable {fmt : RowFormat} {directory guild other : String} {seed : List PermissionRule}
  {s s' : Shelf GuildFile Disk}

/-- Every open guild has the path of its file, in a directory that is there. -/
def Sound (directory : String) (s : Shelf GuildFile Disk) : Prop :=
  ∀ guild f, s.opened.get? guild = some f →
    f.path = GuildFile.pathFor directory guild ∧ s.world.isDirectory directory = true

/-- Two shelves of which a guild sees the same. -/
structure Alike (directory guild : String) (s s' : Shelf GuildFile Disk) : Prop where
  world : GuildFile.Alike directory guild s.world s'.world
  opened : s.opened.get? guild = s'.opened.get? guild

/-- What is done with a guild leaves every open guild with the path of its file, and the others
open as they were. -/
theorem Sound.run (hs : s.Sound directory) (fmt : RowFormat) (seed : List PermissionRule)
    (guild : String) (call : GuildCall) :
    let after := (call.run (.files fmt directory seed) guild s).2
    after.Sound directory ∧ GuildFile.Leaves directory guild s.world after.world ∧
      ∀ other, other ≠ guild → after.opened.get? other = s.opened.get? other := by
  have hothers (f : GuildFile) (other : String) (hother : other ≠ guild) :
      (s.opened.insert guild f).get? other = s.opened.get? other := by
    rw [Table.get?_insert, if_neg hother]
  have hinsert {f : GuildFile} {d : Disk} (hpath : f.path = GuildFile.pathFor directory guild)
      (hthere : d.isDirectory directory = true) :
      Sound directory ⟨s.opened.insert guild f, d⟩ := by
    intro other f' hopen
    by_cases hother : other = guild
    · subst hother
      rw [Table.get?_insert_self] at hopen
      obtain rfl := Option.some.inj hopen
      exact ⟨hpath, hthere⟩
    · rw [hothers f other hother] at hopen
      exact ⟨(hs other f' hopen).1, hthere⟩
  cases call with
  | reopen =>
    have hleaves := GuildFile.leaves_openIn fmt directory seed guild s.world
    simp only [GuildCall.run, Backend.files]
    rcases hopen : GuildFile.openIn fmt directory seed guild s.world with ⟨e | f, d⟩
    · rw [hopen] at hleaves
      refine ⟨fun other f hf ↦ ?_, hleaves, fun _ _ ↦ rfl⟩
      obtain ⟨hpath, hthere⟩ := hs other f hf
      exact ⟨hpath, hleaves.there hthere⟩
    · have hok : (GuildFile.openIn fmt directory seed guild s.world).1 = .ok f := by rw [hopen]
      obtain ⟨hpath, hthere⟩ := GuildFile.path_of_openIn hok
      rw [hopen] at hleaves hthere
      exact ⟨hinsert hpath hthere, hleaves, hothers f⟩
  | rows call =>
    simp only [GuildCall.run]
    rcases hopen : s.opened.get? guild with _ | f
    · exact ⟨hs, .refl directory guild s.world, fun _ _ ↦ rfl⟩
    obtain ⟨hpath, hthere⟩ := hs guild f hopen
    dsimp only
    rcases GuildFile.readsOrChanges_collectionCall fmt directory seed call f with
      ⟨answer, hreads⟩ | ⟨answer, rows, hchanges⟩
    · rw [hreads]
      exact ⟨hinsert hpath hthere, .refl directory guild s.world, hothers f⟩
    · rw [hchanges]
      have hchange := GuildFile.leaves_change fmt hpath hthere answer rows
      rcases hresult : f.change fmt answer rows s.world with ⟨a, f', d⟩
      rw [hresult] at hchange
      obtain ⟨hpath', hleaves⟩ := hchange
      exact ⟨hinsert (hpath'.trans hpath) (hleaves.there hthere), hleaves, hothers f'⟩

/-- What is done with a guild is answered alike on shelves of which the guild sees the same, and
leaves them so. -/
theorem Alike.run (hsame : s.Alike directory guild s') (hs : s.Sound directory)
    (hs' : s'.Sound directory) (fmt : RowFormat) (seed : List PermissionRule) (call : GuildCall) :
    let r := call.run (.files fmt directory seed) guild s
    let r' := call.run (.files fmt directory seed) guild s'
    r.1 = r'.1 ∧ r.2.Alike directory guild r'.2 := by
  have hinsert (f : GuildFile) {d d' : Disk} (hd : GuildFile.Alike directory guild d d') :
      Alike directory guild ⟨s.opened.insert guild f, d⟩ ⟨s'.opened.insert guild f, d'⟩ :=
    ⟨hd, by rw [Table.get?_insert_self, Table.get?_insert_self]⟩
  cases call with
  | reopen =>
    have hopens := hsame.world.openIn fmt seed
    simp only [GuildCall.run, Backend.files]
    rcases hfirst : GuildFile.openIn fmt directory seed guild s.world with ⟨answer, d⟩
    rcases hsecond : GuildFile.openIn fmt directory seed guild s'.world with ⟨answer', d'⟩
    rw [hfirst, hsecond] at hopens
    obtain ⟨rfl, hd⟩ := hopens
    rcases answer with e | f
    · exact ⟨rfl, hd, hsame.opened⟩
    · exact ⟨rfl, hinsert f hd⟩
  | rows call =>
    have hopened := hsame.opened
    simp only [GuildCall.run]
    rcases hopen : s.opened.get? guild with _ | f
    · rw [hopen] at hopened
      rw [← hopened]
      exact ⟨rfl, hsame⟩
    rw [hopen] at hopened
    rw [← hopened]
    obtain ⟨hpath, hthere⟩ := hs guild f hopen
    have hthere' := (hs' guild f hopened.symm).2
    dsimp only
    rcases GuildFile.readsOrChanges_collectionCall fmt directory seed call f with
      ⟨answer, hreads⟩ | ⟨answer, rows, hchanges⟩
    · rw [hreads, hreads]
      exact ⟨rfl, hinsert f hsame.world⟩
    · rw [hchanges, hchanges]
      have hchange := hsame.world.change fmt hpath hthere hthere' answer rows
      rcases hfirst : f.change fmt answer rows s.world with ⟨a, f₁, d⟩
      rcases hsecond : f.change fmt answer rows s'.world with ⟨a', f₁', d'⟩
      rw [hfirst, hsecond] at hchange
      obtain ⟨rfl, rfl, hd⟩ := hchange
      exact ⟨rfl, hinsert f₁ hd⟩

/-- What is done with a guild another does not see, if their files have different names. -/
theorem Alike.of_run (hsame : s.Alike directory guild s') (hs : s.Sound directory)
    (fmt : RowFormat) (seed : List PermissionRule) (call : GuildCall)
    (hstem : GuildFile.stem other ≠ GuildFile.stem guild) :
    (call.run (.files fmt directory seed) other s).2.Alike directory guild s' := by
  obtain ⟨-, hleaves, hothers⟩ := hs.run fmt seed other call
  have hguild : guild ≠ other := fun heq ↦ hstem (by rw [heq])
  have hworld := hleaves.alike hstem
  refine ⟨⟨fun key hown ↦ ?_, ?_⟩, (hothers guild hguild).trans hsame.opened⟩
  · exact (hworld.own key hown).trans (hsame.world.own key hown)
  · exact hworld.blocked.trans hsame.world.blocked

end Shelf

namespace Backend

/-- Guild files do not collide, if they have different names. -/
theorem answersTo_files_eq_filter (fmt : RowFormat) (directory : String)
    (seed : List PermissionRule) {guild : String} {history : List (String × GuildCall)}
    (hstems : ∀ e ∈ history, e.1 ≠ guild → GuildFile.stem e.1 ≠ GuildFile.stem guild)
    {s s' : Shelf GuildFile Disk} (hsame : s.Alike directory guild s') (hs : s.Sound directory)
    (hs' : s'.Sound directory) :
    (files fmt directory seed).answersTo guild history s =
      (files fmt directory seed).answersTo guild (history.filter (·.1 == guild)) s' := by
  induction history generalizing s s' with
  | nil => rfl
  | cons e history ih =>
    obtain ⟨other, call⟩ := e
    obtain ⟨hstem, hstems⟩ := List.forall_mem_cons.mp hstems
    by_cases hother : other = guild
    · subst hother
      obtain ⟨hanswer, hafter⟩ := hsame.run hs hs' fmt seed call
      have hrest := ih hstems hafter (hs.run fmt seed other call).1 (hs'.run fmt seed other call).1
      simp only [answersTo, if_true, List.filter_cons, BEq.rfl, hanswer, hrest]
    · have hafter := hsame.of_run hs fmt seed call (hstem hother)
      have hrest := ih hstems hafter (hs.run fmt seed other call).1 hs'
      simp only [answersTo, if_neg hother, List.nil_append, hrest, List.filter_cons,
        beq_eq_false_iff_ne.mpr hother, Bool.false_eq_true, if_false]

/-- Two guilds have one file exactly if their ids are written alike, and nothing of what is done
with guilds whose ids are written otherwise is seen by a guild: it is answered as if nothing of it
had happened. -/
theorem guild_files_do_not_collide (fmt : RowFormat) (directory : String)
    (seed : List PermissionRule) (guild : String) :
    (∀ other, GuildFile.pathFor directory other = GuildFile.pathFor directory guild ↔
        GuildFile.stem other = GuildFile.stem guild) ∧
      ∀ (history : List (String × GuildCall)) (d : Disk),
        (∀ e ∈ history, e.1 ≠ guild → GuildFile.stem e.1 ≠ GuildFile.stem guild) →
          (files fmt directory seed).answersTo guild history { world := d } =
            (files fmt directory seed).answersTo guild (history.filter (·.1 == guild))
              { world := d } := by
  refine ⟨fun other ↦ ⟨fun hpath ↦ ?_, fun hstem ↦ ?_⟩, fun history d hstems ↦ ?_⟩
  · exact GuildFile.fileName_inj.mp (Disk.normal_join_inj directory
      (GuildFile.isOrdinary_fileName other) (GuildFile.isOrdinary_fileName guild)
      (congrArg Disk.normal hpath))
  · rw [GuildFile.pathFor, GuildFile.pathFor, hstem]
  · have hsound : Shelf.Sound directory { world := d } := fun g f hf ↦ by simp at hf
    exact answersTo_files_eq_filter fmt directory seed hstems
      ⟨⟨fun _ _ ↦ rfl, rfl⟩, rfl⟩ hsound hsound

/-- A custom command that is stored in one guild, and the commands of another guild. -/
def storedElsewhere (guild other : String) : List (String × GuildCall) :=
  [(other, .reopen),
    (other, .rows (.commands (.upsert { name := "hug", template := "hello", owner := 7 }))),
    (guild, .reopen), (guild, .rows (.commands .loadAll))]

theorem guild_files_do_not_collide_hall :
    (files .yaml "store" []).answersTo "hall" (storedElsewhere "hall" "gate") { world := {} } =
      [some (.ok .opened), some (.ok (.rows (.commands (.rows []))))] := by
  have hstems : ∀ e ∈ storedElsewhere "hall" "gate", e.1 ≠ "hall" →
      GuildFile.stem e.1 ≠ GuildFile.stem "hall" := by
    decide
  rw [(guild_files_do_not_collide .yaml "store" [] "hall").2 _ _ hstems]
  decide +kernel

/-- A guild whose id is written like that of another has its rows. -/
theorem guild_files_collide :
    let history := storedElsewhere "a_b" "a b"
    (files .yaml "store" []).answersTo "a_b" history { world := {} } =
        [some (.ok .opened), some (.ok (.rows (.commands (.rows
          [{ name := "hug", template := "hello", owner := 7 }]))))] ∧
      (files .yaml "store" []).answersTo "a_b" (history.filter (·.1 == "a_b")) { world := {} } =
        [some (.ok .opened), some (.ok (.rows (.commands (.rows []))))] := by
  decide +kernel

end Backend

end Guildhall
