import Guildhall.Proofs.GuildFiles
import Guildhall.Proofs.Mishap

/-!
Rows that last. A guild is opened, its stores are called, and it is opened again, in any order and
whatever goes wrong on the disk. What it has then is what it was first opened with, and over that,
under every key of every collection, what was last written without a fault
(`Shelf.Persisted.runUnder`): in memory, in the guild's file, and after it is opened again
(`Backend.guild_is_persisted`).
-/

set_option autoImplicit false

namespace Guildhall

/-! ### What calls do -/

namespace RowCall

variable {V : Type} [Keyed V]

/-- The rows that a call leaves of those of its collection. -/
def effect : RowCall V → Rows V → Rows V
  | loadAll, rows | loadOne _, rows => rows
  | upsert row, rows => rows.insert (Keyed.key row) row
  | delete key, rows => rows.erase key

/-- The answer to a call of a collection that has these rows. -/
def answerOn : RowCall V → Rows V → RowAnswer V
  | loadAll, rows => .rows rows.values
  | loadOne key, rows => .row (rows.get? key)
  | upsert _, _ => .done true
  | delete key, rows => .done (rows.contains key)

/-- What a call leaves under a key, if it writes there: a row, or none. -/
def written? (key : String) : RowCall V → Option (Option V)
  | loadAll | loadOne _ => none
  | upsert row => if key = Keyed.key row then some (some row) else none
  | delete key' => if key = key' then some none else none

theorem get?_effect (call : RowCall V) (rows : Rows V) (key : String) :
    (call.effect rows).get? key = (call.written? key).getD (rows.get? key) := by
  cases call with
  | loadAll => rfl
  | loadOne => rfl
  | upsert row =>
    simp only [effect, written?, Table.get?_insert]
    split_ifs <;> rfl
  | delete key' =>
    simp only [effect, written?, Table.get?_erase]
    split_ifs <;> rfl

/-- A call of a store either reads the rows or tries to change them. -/
theorem run_storeUnder (mishap : Option Mishap) (fmt : RowFormat) (view : GuildTables → Rows V)
    (put : GuildTables → Rows V → GuildTables) (call : RowCall V) (f : GuildFile) (d : Disk) :
    let answered := call.run (GuildFile.storeUnder mishap fmt view put) (f, d)
    (call.effect (view f.rows) = view f.rows ∧
        answered = (.ok (call.answerOn (view f.rows)), f, d)) ∨
      answered = f.changeUnder mishap fmt (call.answerOn (view f.rows))
        (put f.rows (call.effect (view f.rows))) d := by
  cases call with
  | loadAll => exact Or.inl ⟨rfl, rfl⟩
  | loadOne => exact Or.inl ⟨rfl, rfl⟩
  | upsert row =>
    right
    simp only [run, GuildFile.storeUnder, GuildFile.changeUnder, effect, answerOn]
    rcases GuildFile.saveUnder mishap fmt f.path _ d with ⟨e | ⟨⟩, d'⟩ <;> rfl
  | delete key =>
    right
    simp only [run, GuildFile.storeUnder, GuildFile.changeUnder, effect, answerOn]
    rcases GuildFile.saveUnder mishap fmt f.path _ d with ⟨e | ⟨⟩, d'⟩ <;> rfl

end RowCall

theorem Backend.filesUnder_stores_of (mishap : Option Mishap) (fmt : RowFormat) (directory : String)
    (seed : List PermissionRule) (c : Collection) :
    (filesUnder mishap fmt directory seed).stores.of c =
      GuildFile.storeUnder mishap fmt (·.of c) fun rows rows' ↦ rows.put c rows' := by
  cases c <;> rfl

/-- The answer of a collection. -/
def CollectionAnswer.of : (c : Collection) → RowAnswer c.Row → CollectionAnswer
  | .permissions => permissions
  | .cooldowns => cooldowns
  | .commands => commands
  | .keywords => keywords

namespace CollectionCall

def collection : CollectionCall → Collection
  | permissions _ => .permissions
  | cooldowns _ => .cooldowns
  | commands _ => .commands
  | keywords _ => .keywords

def rowCall : (call : CollectionCall) → RowCall call.collection.Row
  | permissions call => call
  | cooldowns call => call
  | commands call => call
  | keywords call => call

theorem run_eq {σ : Type} (st : GuildStores σ) (call : CollectionCall) (s : σ) :
    call.run st s =
      let answered := call.rowCall.run (st.of call.collection) s
      (answered.1.map (.of call.collection), answered.2) := by
  cases call <;> rfl

/-- The rows that a call leaves of a guild. -/
def effect (call : CollectionCall) (rows : GuildTables) : GuildTables :=
  rows.put call.collection (call.rowCall.effect (rows.of call.collection))

/-- The answer to a call of a guild that has these rows. -/
def answerOn (call : CollectionCall) (rows : GuildTables) : CollectionAnswer :=
  .of call.collection (call.rowCall.answerOn (rows.of call.collection))

/-- What a call leaves under a key of a collection, if it writes there. -/
def written? : (c : Collection) → String → CollectionCall → Option (Option c.Row)
  | .permissions, key, permissions call => call.written? key
  | .cooldowns, key, cooldowns call => call.written? key
  | .commands, key, commands call => call.written? key
  | .keywords, key, keywords call => call.written? key
  | _, _, _ => none

theorem get?_effect (call : CollectionCall) (rows : GuildTables) (c : Collection) (key : String) :
    ((call.effect rows).of c).get? key = (call.written? c key).getD ((rows.of c).get? key) := by
  cases call <;> cases c <;> first | rfl | exact RowCall.get?_effect _ _ key

/-- Whether the duration of a cooldown rule that a call writes fits 64 bits of seconds. -/
def Fits : CollectionCall → Prop
  | cooldowns (.upsert rule) => rule.duration.Fits
  | _ => True

theorem fits_effect {call : CollectionCall} (hcall : call.Fits) {rows : GuildTables}
    (hrows : rows.Fits) : (call.effect rows).Fits := by
  cases call with
  | permissions => exact hrows
  | commands => exact hrows
  | keywords => exact hrows
  | cooldowns call =>
    intro e he
    cases call with
    | loadAll => exact hrows e he
    | loadOne => exact hrows e he
    | upsert rule =>
      rcases Table.mem_insertEntry he with rfl | hold
      · exact hcall
      · exact hrows e hold
    | delete key => exact hrows e (List.mem_filter.mp he).1

/-- A call of an opened guild is answered as its rows are, and leaves it open with what it leaves
of them; or it fails and nothing changes of the guild and its file. -/
theorem run_filesUnder {fmt : RowFormat} (hfmt : fmt.Faithful) {directory guild : String}
    {f : GuildFile} {d : Disk} (hf : f.Opened fmt directory guild d) {call : CollectionCall}
    (hcall : call.Fits) (mishap : Option Mishap) (seed : List PermissionRule) :
    match call.run (Backend.filesUnder mishap fmt directory seed).stores (f, d) with
    | (.ok answer, f', d') => answer = call.answerOn f.rows ∧ f'.rows = call.effect f.rows ∧
        f'.Opened fmt directory guild d'
    | (.error _, f', d') => f' = f ∧ GuildFile.Leaves directory guild d d' ∧
        d'.held directory (GuildFile.fileName guild) =
          d.held directory (GuildFile.fileName guild) := by
  rw [run_eq, Backend.filesUnder_stores_of]
  rcases RowCall.run_storeUnder mishap fmt (·.of call.collection)
    (fun rows rows' ↦ rows.put call.collection rows') call.rowCall f d with
    ⟨hreads, hanswered⟩ | hanswered
  · rw [hanswered]
    refine ⟨rfl, ?_, hf⟩
    rw [effect, hreads, GuildRows.put_of]
  · have hchange := hf.changeUnder hfmt mishap (call.rowCall.answerOn (f.rows.of call.collection))
      (fits_effect hcall hf.fits)
    have heffect : f.rows.put call.collection
        (call.rowCall.effect (f.rows.of call.collection)) = call.effect f.rows := rfl
    rw [hanswered, heffect]
    generalize f.changeUnder mishap fmt (call.rowCall.answerOn (f.rows.of call.collection))
      (call.effect f.rows) d = changed at hchange ⊢
    rcases changed with ⟨e | answer, f', d'⟩
    · exact hchange
    · obtain ⟨rfl, hrows, hf'⟩ := hchange
      exact ⟨rfl, hrows, hf'⟩

end CollectionCall

/-! ### What was written last -/

/-- What was done with a guild, and what it was answered. -/
abbrev GuildRecord := GuildCall × Option (Except StoreFault GuildAnswer)

/-- What was left under a key of a collection, if it was written there without a fault. -/
def GuildRecord.written? (c : Collection) (key : String) : GuildRecord → Option (Option c.Row)
  | (.rows call, some (.ok _)) => call.written? c key
  | _ => none

/-- What was left by the last of those who wrote under a key of a collection without a fault. -/
def lastWritten? (c : Collection) (key : String) (records : List GuildRecord) :
    Option (Option c.Row) :=
  records.reverse.findSome? (GuildRecord.written? c key)

theorem lastWritten?_concat (c : Collection) (key : String) (records : List GuildRecord)
    (r : GuildRecord) :
    lastWritten? c key (records ++ [r]) = (r.written? c key).or (lastWritten? c key records) := by
  rw [lastWritten?, List.reverse_concat, List.findSome?_cons, lastWritten?]
  cases r.written? c key <;> rfl

/-- Rows are those that a guild was first opened with, but that under every key of every collection
there is what was written last without a fault. -/
def GuildRows.Replay (first : GuildTables) (records : List GuildRecord) (rows : GuildTables) :
    Prop :=
  ∀ c key, (rows.of c).get? key = (lastWritten? c key records).getD ((first.of c).get? key)

namespace GuildRows.Replay

variable {first rows rows' : GuildTables} {records : List GuildRecord}

theorem of_none (hnone : ∀ c key, lastWritten? c key records = none) :
    first.Replay records first := fun c key ↦ by
  rw [hnone, Option.getD_none]

theorem concat (hrows : first.Replay records rows) {r : GuildRecord}
    (hr : ∀ c key, (rows'.of c).get? key = (r.written? c key).getD ((rows.of c).get? key)) :
    first.Replay (records ++ [r]) rows' := fun c key ↦ by
  rw [hr, hrows, lastWritten?_concat]
  cases r.written? c key <;> rfl

end GuildRows.Replay

/-! ### Histories of a guild -/

/-- Whether what is done with a guild writes no duration that does not fit 64 bits of seconds. -/
def GuildCall.Fits : GuildCall → Prop
  | reopen => True
  | rows call => call.Fits

/-- What is done with one guild, one thing after the other, with what goes wrong in the meantime. -/
def Backend.runUnder (fmt : RowFormat) (directory : String) (seed : List PermissionRule)
    (guild : String) : List (Option Mishap × GuildCall) → Shelf GuildFile Disk →
      List GuildRecord × Shelf GuildFile Disk
  | [], s => ([], s)
  | (mishap, call) :: history, s =>
    let answered := call.run (.filesUnder mishap fmt directory seed) guild s
    let rest := runUnder fmt directory seed guild history answered.2
    ((call, answered.1) :: rest.1, rest.2)

/-- What a guild has after it was used: nothing while it was not opened, and its file keeps what it
kept; or the rows that it was first opened with, with what was written since. -/
structure Shelf.Persisted (fmt : RowFormat) (directory guild : String) (d : Disk)
    (seed : List PermissionRule) (records : List GuildRecord) (s : Shelf GuildFile Disk) :
    Prop where
  closed : s.opened.get? guild = none →
    GuildFile.kept fmt directory guild s.world = GuildFile.kept fmt directory guild d ∧
      ∀ c key, lastWritten? c key records = none
  opened : ∀ f, s.opened.get? guild = some f → f.Opened fmt directory guild s.world ∧
    ∃ first, (GuildFile.kept fmt directory guild d).opened? seed = some first ∧
      first.Replay records f.rows

namespace Shelf.Persisted

variable {fmt : RowFormat} {directory guild : String} {d : Disk} {seed : List PermissionRule}
  {records : List GuildRecord} {s : Shelf GuildFile Disk}

theorem start (fmt : RowFormat) (directory guild : String) (d : Disk)
    (seed : List PermissionRule) : Persisted fmt directory guild d seed [] { world := d } where
  closed _ := ⟨rfl, fun _ _ ↦ rfl⟩
  opened f hf := by cases hf

/-- A record that wrote nothing, where what is open and what is kept did not change. -/
theorem of_same (hs : s.Persisted fmt directory guild d seed records) {r : GuildRecord}
    (hr : ∀ c key, r.written? c key = none) {s' : Shelf GuildFile Disk}
    (hopened : s'.opened.get? guild = s.opened.get? guild)
    (hleaves : GuildFile.Leaves directory guild s.world s'.world)
    (hheld : s'.world.held directory (GuildFile.fileName guild) =
      s.world.held directory (GuildFile.fileName guild)) :
    s'.Persisted fmt directory guild d seed (records ++ [r]) where
  closed hclosed := by
    obtain ⟨hkept, hnone⟩ := hs.closed (hopened ▸ hclosed)
    refine ⟨(GuildFile.kept_congr hheld hleaves.blocked).trans hkept, fun c key ↦ ?_⟩
    rw [lastWritten?_concat, hr, hnone]
    rfl
  opened f hf := by
    obtain ⟨hopen, first, hfirst, hreplay⟩ := hs.opened f (hopened ▸ hf)
    refine ⟨hopen.of_kept hleaves hheld, first, hfirst, hreplay.concat fun c key ↦ ?_⟩
    rw [hr, Option.getD_none]

/-- A guild that is opened, with the rows that its file keeps. -/
theorem of_opened (hs : s.Persisted fmt directory guild d seed records) {f : GuildFile} {d' : Disk}
    (hf : f.Opened fmt directory guild d')
    (hrows : (GuildFile.kept fmt directory guild s.world).opened? seed = some f.rows)
    {r : GuildRecord} (hr : ∀ c key, r.written? c key = none) :
    Persisted fmt directory guild d seed (records ++ [r])
      { opened := s.opened.insert guild f, world := d' } where
  closed hclosed := by
    rw [Table.get?_insert_self] at hclosed
    cases hclosed
  opened f' hf' := by
    rw [Table.get?_insert_self] at hf'
    obtain rfl := Option.some.inj hf'
    refine ⟨hf, ?_⟩
    cases hbefore : s.opened.get? guild with
    | none =>
      obtain ⟨hkept, hnone⟩ := hs.closed hbefore
      rw [hkept] at hrows
      refine ⟨f.rows, hrows, (GuildRows.Replay.of_none hnone).concat fun c key ↦ ?_⟩
      rw [hr, Option.getD_none]
    | some f₀ =>
      obtain ⟨hopen, first, hfirst, hreplay⟩ := hs.opened f₀ hbefore
      rw [hopen.kept] at hrows
      refine ⟨first, hfirst, hreplay.concat fun c key ↦ ?_⟩
      rw [hr, Option.getD_none, Option.some.inj hrows]

/-- A call of an open guild is answered as its rows are, and leaves it open with what it leaves of
them; or it fails and nothing changes of the guild and its file. -/
theorem run_rows (hs : s.Persisted fmt directory guild d seed records) (hfmt : fmt.Faithful)
    {f : GuildFile} (hopen : s.opened.get? guild = some f) {call : CollectionCall}
    (hcall : call.Fits) (mishap : Option Mishap) :
    let answered := (GuildCall.rows call).run (.filesUnder mishap fmt directory seed) guild s
    ∃ f', answered.2.opened.get? guild = some f' ∧
      ((answered.1 = some (.ok (.rows (call.answerOn f.rows))) ∧ f'.rows = call.effect f.rows ∧
          f'.Opened fmt directory guild answered.2.world) ∨
        ((∃ e, answered.1 = some (.error e)) ∧ f' = f ∧
          GuildFile.Leaves directory guild s.world answered.2.world ∧
          answered.2.world.held directory (GuildFile.fileName guild) =
            s.world.held directory (GuildFile.fileName guild))) := by
  obtain ⟨hf, -⟩ := hs.opened f hopen
  have hanswered := CollectionCall.run_filesUnder hfmt hf hcall mishap seed
  simp only [GuildCall.run, hopen]
  generalize call.run (Backend.filesUnder mishap fmt directory seed).stores (f, s.world) =
    answered at hanswered ⊢
  rcases answered with ⟨e | answer, f', d'⟩
  · obtain ⟨rfl, hleaves, hheld⟩ := hanswered
    refine ⟨f', ?_, Or.inr ⟨⟨e, rfl⟩, rfl, hleaves, hheld⟩⟩
    rw [Table.get?_insert_self]
  · obtain ⟨rfl, hrows, hf'⟩ := hanswered
    refine ⟨f', ?_, Or.inl ⟨rfl, hrows, hf'⟩⟩
    rw [Table.get?_insert_self]

/-- What is done with a guild leaves it with the rows that it was first opened with and what was
written since, whatever goes wrong. -/
theorem run (hs : s.Persisted fmt directory guild d seed records) (hfmt : fmt.Faithful)
    {call : GuildCall} (hcall : call.Fits) (mishap : Option Mishap) :
    let answered := call.run (.filesUnder mishap fmt directory seed) guild s
    answered.2.Persisted fmt directory guild d seed (records ++ [(call, answered.1)]) := by
  cases call with
  | reopen =>
    have hopens := GuildFile.openUnder_spec hfmt directory guild s.world mishap seed
    simp only [GuildCall.run, Backend.filesUnder]
    generalize GuildFile.openUnder mishap fmt directory seed guild s.world = opened at hopens ⊢
    rcases opened with ⟨e | f, d'⟩
    · obtain ⟨hleaves, hheld⟩ := hopens
      exact hs.of_same (fun _ _ ↦ rfl) rfl hleaves hheld
    · obtain ⟨hf, hrows⟩ := hopens
      exact hs.of_opened hf hrows fun _ _ ↦ rfl
  | rows call =>
    cases hopen : s.opened.get? guild with
    | none =>
      simp only [GuildCall.run, hopen]
      exact hs.of_same (fun _ _ ↦ rfl) rfl (.refl directory guild s.world) rfl
    | some f =>
      obtain ⟨-, first, hfirst, hreplay⟩ := hs.opened f hopen
      obtain ⟨f', hopened, ⟨hok, hrows, hf'⟩ | ⟨⟨e, herror⟩, rfl, hleaves, hheld⟩⟩ :=
        hs.run_rows hfmt hopen hcall mishap
      · refine ⟨fun hclosed ↦ ?_, fun g hg ↦ ?_⟩
        · rw [hopened] at hclosed
          cases hclosed
        · obtain rfl := Option.some.inj (hopened.symm.trans hg)
          refine ⟨hf', first, hfirst, hreplay.concat fun c key ↦ ?_⟩
          rw [hrows, hok]
          exact CollectionCall.get?_effect call f.rows c key
      · refine hs.of_same (fun c key ↦ ?_) (hopened.trans hopen.symm) hleaves hheld
        rw [herror]
        rfl

/-- A guild has what it was first opened with and what was written since, after every history. -/
theorem runUnder (hs : s.Persisted fmt directory guild d seed records) (hfmt : fmt.Faithful)
    {history : List (Option Mishap × GuildCall)} (hhistory : ∀ e ∈ history, e.2.Fits) :
    let after := Backend.runUnder fmt directory seed guild history s
    after.2.Persisted fmt directory guild d seed (records ++ after.1) := by
  induction history generalizing records s with
  | nil =>
    simp only [Backend.runUnder, List.append_nil]
    exact hs
  | cons e history ih =>
    obtain ⟨hfirst, hrest⟩ := List.forall_mem_cons.mp hhistory
    have hafter := ih (hs.run hfmt hfirst e.1) hrest
    simp only [List.append_assoc, List.singleton_append] at hafter
    exact hafter

theorem kept_ne_nothing (hs : s.Persisted fmt directory guild d seed records)
    (hkept : GuildFile.kept fmt directory guild d ≠ .nothing) :
    GuildFile.kept fmt directory guild s.world ≠ .nothing := by
  cases hopen : s.opened.get? guild with
  | none => rwa [(hs.closed hopen).1]
  | some f =>
    rw [(hs.opened f hopen).1.kept]
    nofun

/-- The default rules do not matter to a guild that had a file when it was first opened. -/
theorem runUnder_congr (hs : s.Persisted fmt directory guild d seed records) (hfmt : fmt.Faithful)
    (hkept : GuildFile.kept fmt directory guild d ≠ .nothing)
    {history : List (Option Mishap × GuildCall)} (hhistory : ∀ e ∈ history, e.2.Fits)
    (seed' : List PermissionRule) :
    Backend.runUnder fmt directory seed' guild history s =
      Backend.runUnder fmt directory seed guild history s := by
  induction history generalizing records s with
  | nil => rfl
  | cons e history ih =>
    obtain ⟨hfirst, hrest⟩ := List.forall_mem_cons.mp hhistory
    have hstep : e.2.run (.filesUnder e.1 fmt directory seed') guild s =
        e.2.run (.filesUnder e.1 fmt directory seed) guild s := by
      cases e.2 with
      | rows => rfl
      | reopen =>
        simp only [GuildCall.run, Backend.filesUnder,
          GuildFile.openUnder_congr (hs.kept_ne_nothing hkept) e.1 seed' seed]
    simp only [Backend.runUnder, hstep, ih (hs.run hfmt hfirst e.1) hrest]

/-- What fails changes nothing of the guild and its file. -/
theorem run_error (hs : s.Persisted fmt directory guild d seed records) (hfmt : fmt.Faithful)
    {call : GuildCall} (hcall : call.Fits) (mishap : Option Mishap) {e : StoreFault}
    (herror : (call.run (.filesUnder mishap fmt directory seed) guild s).1 = some (.error e)) :
    let after := (call.run (.filesUnder mishap fmt directory seed) guild s).2
    after.opened.get? guild = s.opened.get? guild ∧
      after.world.held directory (GuildFile.fileName guild) =
        s.world.held directory (GuildFile.fileName guild) := by
  cases call with
  | reopen =>
    have hopens := GuildFile.openUnder_spec hfmt directory guild s.world mishap seed
    simp only [GuildCall.run, Backend.filesUnder] at herror ⊢
    generalize GuildFile.openUnder mishap fmt directory seed guild s.world = opened
      at hopens herror ⊢
    rcases opened with ⟨e | f, d'⟩
    · exact ⟨rfl, hopens.2⟩
    · cases herror
  | rows call =>
    cases hopen : s.opened.get? guild with
    | none =>
      simp only [GuildCall.run, hopen] at herror
      cases herror
    | some f =>
      obtain ⟨f', hf', ⟨hok, -⟩ | ⟨-, rfl, -, hheld⟩⟩ := hs.run_rows hfmt hopen hcall mishap
      · rw [hok] at herror
        cases herror
      · exact ⟨hf', hheld⟩

end Shelf.Persisted

namespace Backend

/-- A guild that was opened has what it was first opened with, and under every key of every
collection what was written there last without a fault, whatever went wrong in between: its stores
list and find these rows, its file keeps them, and it is opened again with them. A call changes no
collection but its own, and is answered as these rows are, or fails; what fails leaves the guild and
its file as they were. The default rules are those of a guild that had no file when it was first
opened; where there was a file they do not matter. -/
theorem guild_is_persisted {lib : YamlLibrary} (hlib : lib.ReadsBack) (directory : String)
    (seed : List PermissionRule) (guild : String) (d : Disk)
    {history : List (Option Mishap × GuildCall)} (hfits : ∀ e ∈ history, e.2.Fits) :
    let path := GuildFile.pathFor directory guild
    let kept := GuildFile.kept lib.format directory guild
    let after := runUnder lib.format directory seed guild history { world := d }
    (∀ f, after.2.opened.get? guild = some f →
      (∃ first, (kept d).opened? seed = some first ∧ first.Replay after.1 f.rows) ∧
      kept after.2.world = .rows f.rows ∧
      (∀ mishap c, ((filesUnder mishap lib.format directory seed).stores.of c).loadAll
        (f, after.2.world) = (.ok (f.rows.of c).values, f, after.2.world)) ∧
      (∀ mishap c key, ((filesUnder mishap lib.format directory seed).stores.of c).loadOne key
        (f, after.2.world) = (.ok ((f.rows.of c).get? key), f, after.2.world)) ∧
      (let reopened := GuildCall.reopen.run (files lib.format directory seed) guild after.2;
        reopened.1 = some (.ok .opened) ∧ reopened.2.opened.get? guild = some f) ∧
      ∀ mishap (call : CollectionCall), call.Fits →
        let answered := (GuildCall.rows call).run (filesUnder mishap lib.format directory seed)
          guild after.2
        (answered.1 = some (.ok (.rows (call.answerOn f.rows))) ∨
          ∃ e, answered.1 = some (.error e)) ∧
        ∃ f', answered.2.opened.get? guild = some f' ∧
          ∀ c, c ≠ call.collection → f'.rows.of c = f.rows.of c) ∧
    (∀ mishap (call : GuildCall), call.Fits →
      let answered := call.run (filesUnder mishap lib.format directory seed) guild after.2
      ∀ e, answered.1 = some (.error e) →
        answered.2.opened.get? guild = after.2.opened.get? guild ∧
        answered.2.world.entry? path = after.2.world.entry? path) ∧
    (kept d ≠ .nothing → ∀ seed', runUnder lib.format directory seed' guild history { world := d } =
      after) := by
  intro path kept after
  have hfmt := YamlLibrary.faithful_format hlib
  have hstart := Shelf.Persisted.start lib.format directory guild d seed
  have hafter : after.2.Persisted lib.format directory guild d seed after.1 :=
    hstart.runUnder hfmt hfits
  refine ⟨fun f hf ↦ ?_, fun mishap call hcall e herror ↦ ?_, fun hkept seed' ↦ ?_⟩
  · obtain ⟨hopened, first, hfirst, hreplay⟩ := hafter.opened f hf
    refine ⟨⟨first, hfirst, hreplay⟩, hopened.kept, fun mishap c ↦ ?_, fun mishap c key ↦ ?_, ?_,
      fun mishap call hcall ↦ ?_⟩
    · rw [filesUnder_stores_of]
      rfl
    · rw [filesUnder_stores_of]
      rfl
    · have hopens := hopened.reopen seed
      simp only [GuildCall.run, files]
      generalize GuildFile.openIn lib.format directory seed guild after.2.world = opened
        at hopens ⊢
      obtain ⟨answer, d'⟩ := opened
      obtain rfl := hopens
      refine ⟨rfl, ?_⟩
      rw [Table.get?_insert, if_pos rfl]
    · obtain ⟨f', hf', ⟨hok, hrows, -⟩ | ⟨hfailed, rfl, -⟩⟩ := hafter.run_rows hfmt hf hcall mishap
      · refine ⟨Or.inl hok, f', hf', fun c hc ↦ ?_⟩
        rw [hrows, CollectionCall.effect, GuildRows.of_put_of_ne _ _ hc]
      · exact ⟨Or.inr hfailed, f', hf', fun _ _ ↦ rfl⟩
  · obtain ⟨hopened, hheld⟩ := hafter.run_error hfmt hcall mishap herror
    refine ⟨hopened, ?_⟩
    have hname := GuildFile.isOrdinary_fileName guild
    have hpath : path = Disk.join directory (GuildFile.fileName guild) := rfl
    rw [hpath, Disk.entry?_join _ _ hname, Disk.entry?_join _ _ hname, hheld]
  · exact hstart.runUnder_congr hfmt hkept hfits seed'

/-- A new guild is opened, its only rule is deleted in the second attempt, and it is opened again;
a command is not written for want of space. -/
def troubledCalls : List (Option Mishap × GuildCall) := [
  (none, .reopen),
  (some .unreplaced, .rows (.permissions (.delete "perm"))),
  (none, .rows (.permissions (.delete "perm"))),
  (some (.unwritten (some "")),
    .rows (.commands (.upsert { name := "hug", template := "hello", owner := 7 }))),
  (none, .reopen)]

theorem guild_is_persisted_hall :
    let seed : List PermissionRule := [{ action := "perm", rank := .admin }]
    let fmt := YamlLibrary.checked.format
    let after := runUnder fmt "store" seed "hall" troubledCalls { world := {} }
    ∃ f, after.2.opened.get? "hall" = some f ∧ (GuildFile.seeded seed).Replay after.1 f.rows ∧
      GuildFile.kept fmt "store" "hall" after.2.world = .rows f.rows ∧
      f.rows.permissions.get? "perm" = none ∧ f.rows.commands.get? "hug" = none := by
  intro seed fmt after
  have hfits : ∀ e ∈ troubledCalls, e.2.Fits := by
    simp [troubledCalls, GuildCall.Fits, CollectionCall.Fits]
  have hrun : (after.2.opened.get? "hall").map (fun f ↦ (f.rows.permissions.get? "perm",
      f.rows.commands.get? "hug")) = some (none, none) := by
    decide +kernel
  obtain ⟨f, hf, hrows⟩ := Option.map_eq_some_iff.mp hrun
  obtain ⟨hpermissions, hcommands⟩ := Prod.mk.inj hrows
  obtain ⟨⟨first, hfirst, hreplay⟩, hkept, -⟩ := (guild_is_persisted
    YamlLibrary.readsBack_checked "store" seed "hall" {} hfits).1 f hf
  have hnothing : GuildFile.kept fmt "store" "hall" {} = .nothing :=
    GuildFile.kept_of_absent (by decide +kernel)
  obtain rfl : GuildFile.seeded seed = first := by
    rw [hnothing] at hfirst
    exact Option.some.inj hfirst
  exact ⟨f, hf, hreplay, hkept, hpermissions, hcommands⟩

end Backend

end Guildhall
