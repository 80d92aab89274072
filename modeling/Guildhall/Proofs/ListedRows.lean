import Guildhall.Proofs.FileBackend
import Guildhall.Proofs.GuildDocument
import Guildhall.Proofs.GuildFiles

/-!
Taking away a row that is listed. A guild's file holds its rows under keys that are written beside
them, and opening it does not compare the two. A listed row can be taken away under the key that
it shows exactly if no row of that key stands under another (`GuildFile.removes_iff`,
`Backend.listed_row_is_removed_iff`).
-/

set_option autoImplicit false

namespace Guildhall

variable {V : Type}

/-- A row is listed after its key was erased exactly if it stands under another key. -/
theorem Table.mem_values_erase_iff {t : Table String V} {key : String} {row : V} :
    row ∈ (t.erase key).values ↔ ∃ key', key' ≠ key ∧ t.get? key' = some row := by
  rw [mem_values_iff]
  refine exists_congr fun key' ↦ ?_
  rw [get?_erase]
  by_cases hkey : key' = key
  · simp [hkey]
  · simp [hkey]

variable [Keyed V]

/-- Whether the deletion of a key answers that there was a row, and leaves no row of that key
listed. -/
def RowStore.Removes {σ : Type} (st : RowStore σ V) (key : String) (s : σ) : Prop :=
  (st.delete key s).1 = .ok true ∧
    ∀ rows, (st.loadAll (st.delete key s).2).1 = .ok rows → ∀ row ∈ rows, Keyed.key row ≠ key

/-- Whether every row of a key stands under it. -/
def Table.Files (t : Table String V) (key : String) : Prop :=
  ∀ key' row, t.get? key' = some row → Keyed.key row = key → key' = key

/-- In a table of rows under their own keys every key is that of its row. -/
theorem Table.IsKeyed.files {t : Table String V} (ht : t.IsKeyed) (key : String) :
    t.Files key := by
  intro key' row hrow hkey
  exact (ht key' row hrow).symm.trans hkey

namespace GuildFile

/-- What an operation that was answered without a fault leaves. -/
theorem change_eq_ok {α : Type} {fmt : RowFormat} {f f' : GuildFile} {answer answer' : α}
    {rows : GuildTables} {d d' : Disk} (hok : f.change fmt answer rows d = (.ok answer', f', d')) :
    answer' = answer ∧ f' = { f with rows } := by
  unfold change at hok
  rcases hsave : save fmt f.path rows d with ⟨e | ⟨⟩, d₁⟩
  · rw [hsave] at hok
    cases hok
  · rw [hsave] at hok
    cases hok
    exact ⟨rfl, rfl⟩

/-- A listed row of an open guild can be taken away under its key exactly if every row of that key
stands under it. -/
theorem removes_iff {fmt : RowFormat} {get : GuildTables → Rows V}
    {put : GuildTables → Rows V → GuildTables} (hget : ∀ rows t, get (put rows t) = t)
    {s : GuildFile × Disk} {row : V} (hlisted : row ∈ (get s.1.rows).values) {existed : Bool}
    (hwritten : ((store fmt get put).delete (Keyed.key row) s).1 = .ok existed) :
    (store fmt get put).Removes (Keyed.key row) s ↔ (get s.1.rows).Files (Keyed.key row) := by
  rcases hdelete : (store fmt get put).delete (Keyed.key row) s with ⟨answer, f, d⟩
  rw [hdelete] at hwritten
  dsimp only at hwritten
  subst hwritten
  obtain ⟨rfl, rfl⟩ := change_eq_ok hdelete
  rw [RowStore.Removes, hdelete]
  simp only [store, hget, Except.ok.injEq, forall_eq']
  constructor
  · rintro ⟨-, hgone⟩ key' other hother hkey
    by_contra hne
    exact hgone other (Table.mem_values_erase_iff.mpr ⟨key', hne, hother⟩) hkey
  · intro hfiles
    obtain ⟨key', hrow⟩ := Table.mem_values_iff.mp hlisted
    have hkey : key' = Keyed.key row := hfiles key' row hrow rfl
    refine ⟨?_, fun other hother hsame ↦ ?_⟩
    · rw [Table.contains, ← hkey, hrow, Option.isSome_some]
    · obtain ⟨other', hne, hstands⟩ := Table.mem_values_erase_iff.mp hother
      exact hne (hfiles other' other hstands hsame)

end GuildFile

namespace Backend

/-- A guild whose file is accepted is opened with the rows of its document, and a listed row of
any collection, if the deletion can be written, can be taken away under the key that it shows
exactly if every row of that key stands under it in the document. -/
theorem listed_row_is_removed_iff {fmt : RowFormat} {directory guild : String}
    {seed : List PermissionRule} {d d' : Disk} {f : GuildFile}
    (hopen : (files fmt directory seed).openGuild guild d = (.ok f, d')) :
    (GuildFile.kept fmt directory guild d).opened? seed = some f.rows ∧
      ∀ (c : Collection) (listed : List c.Row),
        (((files fmt directory seed).stores.of c).loadAll (f, d')).1 = .ok listed →
        ∀ row ∈ listed, ∀ existed : Bool,
          (((files fmt directory seed).stores.of c).delete (Keyed.key row) (f, d')).1 =
              .ok existed →
            (((files fmt directory seed).stores.of c).Removes (Keyed.key row) (f, d') ↔
              (f.rows.of c).Files (Keyed.key row)) := by
  refine ⟨GuildFile.rows_of_openIn hopen, fun c listed hlisted row hrow existed hwritten ↦ ?_⟩
  rw [files_stores_of] at hlisted hwritten ⊢
  obtain rfl := Except.ok.inj hlisted
  exact GuildFile.removes_iff (fun rows t ↦ rows.of_put_self c t) hrow hwritten

/-- A disk with a text in the file of guild `a`. -/
def withFile (text : String) : Disk :=
  ⟨.ofList [("store", .directory), ("store/a.yaml", .file text)]⟩

theorem listed_row_is_removed_iff_hug :
    let text := "commands:\n  hug:\n    name: hug\n    template: hello\n    owner_id: 7\n"
    ∃ f d', (files .yaml "store" []).openGuild "a" (withFile text) = (.ok f, d') ∧
      ((files .yaml "store" []).stores.of .commands).Removes "hug" (f, d') := by
  intro text
  let hug : CustomCommand := { name := "hug", template := "hello", owner := 7 }
  have hrun : let opened := (files .yaml "store" []).openGuild "a" (withFile text)
      opened.1.map (fun f ↦ (f.rows.commands,
        ((files .yaml "store" []).stores.commands.delete "hug" (f, opened.2)).1)) =
        .ok (Table.ofRows [hug], .ok true) := by
    decide +kernel
  rcases hopen : (files .yaml "store" []).openGuild "a" (withFile text) with ⟨e | f, d'⟩
  · rw [hopen] at hrun
    cases hrun
  · rw [hopen] at hrun
    obtain ⟨hrows, hdeleted⟩ := Prod.mk.inj (Except.ok.inj hrun)
    refine ⟨f, d', rfl, ?_⟩
    have hkeyed : f.rows.commands.IsKeyed := hrows ▸ Table.isKeyed_ofRows [hug]
    have hlisted : hug ∈ f.rows.commands.values := by
      rw [hrows]
      decide
    exact ((listed_row_is_removed_iff hopen).2 .commands _ rfl hug hlisted true hdeleted).mpr
      (hkeyed.files "hug")

/-- A command that stands under the key of another is listed, and cannot be taken away under the
name that it shows. -/
theorem misfiled_row_stays_listed :
    let text := "commands:\n  hug:\n    name: wave\n    template: hello\n    owner_id: 7\n"
    let wave : CustomCommand := { name := "wave", template := "hello", owner := 7 }
    (files .yaml "store" []).answersTo "a"
        [("a", .reopen), ("a", .rows (.commands .loadAll)),
          ("a", .rows (.commands (.delete "wave"))), ("a", .rows (.commands .loadAll))]
        { world := withFile text } =
      [some (.ok .opened), some (.ok (.rows (.commands (.rows [wave])))),
        some (.ok (.rows (.commands (.done false)))),
        some (.ok (.rows (.commands (.rows [wave]))))] := by
  decide +kernel

end Backend

end Guildhall
