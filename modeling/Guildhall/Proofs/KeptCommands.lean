import Guildhall.Proofs.Answers
import Guildhall.Proofs.LoadedGuilds

/-!
Custom commands that stay. A full cache keeps a row under its key through every call but those that
replace or delete it (`Cache.Keeps.upsert`, `Cache.Keeps.remove`), so that a custom command stays
as it was written through every request that is not answered with that it was replaced or deleted
(`CustomRequest.keeps_run`). Nothing else that is done in a guild touches it (`Builtin.binds_run`).
-/

set_option autoImplicit false

namespace Guildhall

open Text

variable {σ γ ω V : Type}

/-! ### Rows that a full cache keeps -/

namespace Cache

/-- A full cache knows whether there is a row. -/
theorem get_of_full (st : RowStore σ V) {c : Cache V} (hfull : c.state = .full) (key : String)
    (s : σ) : c.get st key s = (.ok (c.lookup key).join, c, s) := by
  obtain ⟨row, hlookup⟩ := Option.isSome_iff_exists.mp (Mirrors.lookup_isSome_of_full hfull key)
  rw [get, hlookup]
  rfl

theorem find_of_full (st : RowStore σ V) {c : Cache V} (hfull : c.state = .full) (key : String)
    (s : σ) : c.find st key s = ((c.lookup key).join, c, s) := by
  rw [find, get_of_full st hfull]

theorem listAll_of_full [Keyed V] (st : RowStore σ V) {c : Cache V} (hfull : c.state = .full)
    (s : σ) : c.listAll st s = (.ok c.presentRows, c, s) := by
  rw [listAll, if_pos hfull]

variable [Keyed V] {st : RowStore σ V} {holds : σ → Table String V → Prop}

/-- A full cache that has a row in the slot of its key, over a store that has a row under the key,
be it this one or another. -/
structure Keeps (holds : σ → Table String V → Prop) (c : Cache V) (s : σ) (row : V) : Prop where
  ordered : c.slots.Ordered
  full : c.state = .full
  slot : c.slots.get? (Keyed.key row).toList = some (some row)
  stored : ∃ t, holds s t ∧ t.contains (Keyed.key row) = true

namespace Keeps

variable {c : Cache V} {s : σ} {row : V}

theorem lookup (hc : c.Keeps holds s row) : c.lookup (Keyed.key row) = some (some row) := by
  rw [Cache.lookup, hc.slot]

/-- A row that was written is kept. -/
theorem of_upsert (row : V) (hst : st.Lawful holds) (hordered : c.slots.Ordered)
    (hfull : c.state = .full) {t : Table String V} (hs : holds s t)
    (hupsert : (c.upsert st row s).1 = .ok ()) :
    (c.upsert st row s).2.1.Keeps holds (c.upsert st row s).2.2 row := by
  have hcall := hst.upsert row hs
  unfold Cache.upsert at hupsert ⊢
  generalize st.upsert row s = written at hcall hupsert ⊢
  rcases written with ⟨fault | _ | _, s'⟩
  · cases hupsert
  · cases hupsert
  · refine ⟨Trie.ordered_insert hordered _ _, ?_, ?_, _, hcall, ?_⟩
    · simp [hfull]
    · rw [Trie.get?_insert hordered, if_pos rfl]
    · rw [Table.contains, Table.get?_insert_self, Option.isSome_some]

/-- A row stays where a row of another key is written, or where a write fails. -/
theorem upsert (hst : st.Lawful holds) (hc : c.Keeps holds s row) (other : V)
    (hother : Keyed.key other ≠ Keyed.key row ∨ (c.upsert st other s).1 ≠ .ok ()) :
    (c.upsert st other s).2.1.Keeps holds (c.upsert st other s).2.2 row := by
  obtain ⟨t, hs, hcontains⟩ := hc.stored
  have hcall := hst.upsert other hs
  unfold Cache.upsert at hother ⊢
  generalize st.upsert other s = written at hcall hother ⊢
  rcases written with ⟨fault | _ | _, s'⟩
  · exact ⟨hc.ordered, hc.full, hc.slot, t, hcall, hcontains⟩
  · exact ⟨hc.ordered, hc.full, hc.slot, t, hcall, hcontains⟩
  · have hne : Keyed.key row ≠ Keyed.key other := Ne.symm (hother.resolve_right (· rfl))
    refine ⟨Trie.ordered_insert hc.ordered _ _, ?_, ?_, _, hcall, ?_⟩
    · simp [hc.full]
    · rw [Trie.get?_insert hc.ordered, if_neg (hne ∘ String.toList_inj.mp)]
      exact hc.slot
    · rwa [Table.contains, Table.get?_insert, if_neg hne]

/-- A row stays unless it is deleted, and its deletion is answered as such. -/
theorem remove (hst : st.Lawful holds) (hc : c.Keeps holds s row) (key : String)
    (hkey : key ≠ Keyed.key row ∨ (c.remove st key s).1 ≠ .ok true) :
    (c.remove st key s).2.1.Keeps holds (c.remove st key s).2.2 row := by
  obtain ⟨t, hs, hcontains⟩ := hc.stored
  have hcall := hst.delete key hs
  unfold Cache.remove at hkey ⊢
  generalize st.delete key s = deleted at hcall hkey ⊢
  rcases deleted with ⟨fault | existed, s'⟩
  · exact ⟨hc.ordered, hc.full, hc.slot, t, hcall, hcontains⟩
  · obtain ⟨rfl, hs'⟩ := hcall
    -- The store has a row under the key, so that it would have answered so.
    have hne : Keyed.key row ≠ key := by
      rintro rfl
      rcases hkey with hkey | hkey
      · exact hkey rfl
      · exact hkey (congrArg Except.ok hcontains)
    simp only [if_pos hc.full]
    refine ⟨Trie.ordered_erase hc.ordered _, hc.full, ?_, _, hs', ?_⟩
    · rw [Trie.get?_erase hc.ordered, if_neg (hne ∘ String.toList_inj.mp)]
      exact hc.slot
    · rwa [Table.contains, Table.get?_erase, if_neg hne]

end Keeps

end Cache

/-! ### Requests -/

namespace WriteMode

variable [Keyed V] {st : RowStore σ V} {holds : σ → Table String V → Prop} {c : Cache V} {s : σ}

/-- On a full cache a row is written if its key is taken as it should be. -/
theorem write_of_full (mode : WriteMode) (st : RowStore σ V) (hfull : c.state = .full) (row : V)
    (s : σ) :
    mode.write st row c s =
      if (c.lookup (Keyed.key row)).join.isSome = mode.isTaken then
        ((c.upsert st row s).1.map fun _ ↦ true, (c.upsert st row s).2)
      else (.ok false, c, s) := by
  have hwrite : mode.write st row c s = c.upsertIf st mode.isTaken row s := by
    cases mode <;> rfl
  rw [hwrite, Cache.upsertIf, Cache.get_of_full st hfull]
  dsimp only
  split_ifs
  · rcases c.upsert st row s with ⟨e | ⟨⟩, c', s'⟩ <;> rfl
  · rfl

end WriteMode

namespace CustomRequest

variable {st : RowStore σ CustomCommand} {holds : σ → Rows CustomCommand → Prop}
  (hst : st.Lawful holds) {c : Cache CustomCommand} {s : σ} (isBuiltin : String → Bool) (owner : Id)

include hst

/-- A command stays as it was written through every request but one that is answered with that it
was replaced or deleted. -/
theorem keeps_run {row : CustomCommand} (hc : c.Keeps holds s row) (request : CustomRequest) :
    let r := request.run st isBuiltin owner c s
    r.1 ≠ .written .overwrite row.name → r.1 ≠ .deleted row.name →
      r.2.1.Keeps holds r.2.2 row := by
  cases request with
  | usage => exact fun _ _ ↦ hc
  | write mode name template =>
    simp only [run]
    split_ifs with hbuiltin
    · exact fun _ _ ↦ hc
    rw [mode.write_of_full st hc.full]
    split_ifs with htaken
    · intro hreplaced _
      have hupsert := hc.upsert hst { name, template, owner }
      rcases hresult : c.upsert st { name, template, owner } s with ⟨e | ⟨⟩, c', s'⟩
      · rw [hresult] at hupsert
        exact hupsert (Or.inr (by simp))
      · rw [hresult] at hupsert hreplaced
        refine hupsert (Or.inl fun hname ↦ ?_)
        -- The name is taken, so that the row was not written under a new name.
        obtain rfl : name = row.name := hname
        have hlookup : c.lookup row.name = some (some row) := hc.lookup
        have hmode : mode = .overwrite := by
          cases mode with
          | overwrite => rfl
          | create => simp [WriteMode.isTaken, Keyed.key, hlookup] at htaken
        exact hreplaced (by rw [hmode]; rfl)
    · exact fun _ _ ↦ hc
  | delete name =>
    simp only [run]
    intro _ hdeleted
    have hremove := hc.remove hst name
    rcases hresult : c.remove st name s with ⟨e | _ | _, c', s'⟩
    · rw [hresult] at hremove
      exact hremove (Or.inr (by simp))
    · rw [hresult] at hremove
      exact hremove (Or.inr (by simp))
    · rw [hresult] at hremove hdeleted
      exact hremove (Or.inl fun hname ↦ hdeleted (congrArg CustomAnswer.deleted hname))
  | display name =>
    simp only [run, Cache.findCommand, Cache.find_of_full st hc.full]
    cases (c.lookup (String.ofList (toLower name.toList))).join <;> exact fun _ _ ↦ hc
  | list =>
    simp only [run, Cache.listAll_of_full st hc.full]
    exact fun _ _ ↦ hc

/-- A command that is announced as written is kept as it was asked for. -/
theorem keeps_of_written (hordered : c.slots.Ordered) (hfull : c.state = .full)
    {t : Rows CustomCommand} (hs : holds s t) {request : CustomRequest} {mode : WriteMode}
    {name : String} (hanswer : (request.run st isBuiltin owner c s).1 = .written mode name) :
    ∃ template, request = .write mode name template ∧ isBuiltin name = false ∧
      (request.run st isBuiltin owner c s).2.1.Keeps holds
        (request.run st isBuiltin owner c s).2.2 { name, template, owner } := by
  cases request with
  | usage => cases hanswer
  | write mode' name' template =>
    simp only [run] at hanswer ⊢
    split_ifs at hanswer ⊢ with hbuiltin
    rw [mode'.write_of_full st hfull] at hanswer ⊢
    split_ifs at hanswer ⊢ with htaken
    have hwritten := Cache.Keeps.of_upsert { name := name', template, owner } hst hordered hfull hs
    rcases hresult : c.upsert st { name := name', template, owner } s with ⟨e | ⟨⟩, c', s'⟩
    · rw [hresult] at hanswer
      cases hanswer
    · rw [hresult] at hanswer hwritten
      cases hanswer
      exact ⟨template, rfl, by simpa using hbuiltin, hwritten rfl⟩
  | delete name' =>
    simp only [run] at hanswer
    rcases hresult : c.remove st name' s with ⟨e | _ | _, c', s'⟩ <;> rw [hresult] at hanswer <;>
      cases hanswer
  | display name' =>
    simp only [run, Cache.findCommand, Cache.find_of_full st hfull] at hanswer
    cases hfound : (c.lookup (String.ofList (toLower name'.toList))).join <;>
      rw [hfound] at hanswer <;> cases hanswer
  | list =>
    simp only [run, Cache.listAll_of_full st hfull] at hanswer
    cases hanswer

end CustomRequest

/-! ### Guilds -/

namespace Scope

/-- A guild that was read in full and that has a command under its name, in the index and, be it
this command or another of the name, in the store. -/
structure Binds (v : GuildView γ ω) (row : CustomCommand) (sc : Scope γ) : Prop
    extends Loaded v sc where
  slot : sc.commands.slots.get? row.name.toList = some (some row)
  stored : (v.rows sc.stored).commands.contains row.name = true

variable {v : GuildView γ ω} {st : GuildStores (γ × ω)} {row : CustomCommand} {sc : Scope γ} {w : ω}

theorem LeavesCommands.refl (hsound : v.sound sc.stored) (htidy : v.tidy w) :
    LeavesCommands v (sc, w) (sc, w) :=
  ⟨rfl, hsound, htidy, rfl⟩

theorem LeavesCommands.trans {a b c : Scope γ × ω} (hab : LeavesCommands v a b)
    (hbc : LeavesCommands v b c) : LeavesCommands v a c where
  index := hbc.index.trans hab.index
  stored := ⟨hbc.stored.1, hbc.stored.2.1, hbc.stored.2.2.trans hab.stored.2.2⟩

namespace Binds

theorem of_leavesCommands {a b : Scope γ × ω} (ha : a.1.Binds v row)
    (hleaves : LeavesCommands v a b) : b.1.Binds v row where
  toLoaded := ha.toLoaded.of_leavesCommands hleaves
  slot := hleaves.index ▸ ha.slot
  stored := hleaves.stored.2.2 ▸ ha.stored

/-- The commands of the guild with all other rows as they are. -/
theorem keeps (hsc : sc.Binds v row) (hw : v.tidy w) :
    sc.commands.Keeps (fun s t ↦ v.holds s { v.rows sc.stored with commands := t })
      (sc.stored, w) row :=
  ⟨hsc.ordered, hsc.full, hsc.slot, _, ⟨hsc.sound, hw, rfl⟩, hsc.stored⟩

theorem of_keeps {rows : GuildTables} {c : Cache CustomCommand} {s : γ × ω}
    (hc : c.Keeps (fun s t ↦ v.holds s { rows with commands := t }) s row) (sc : Scope γ) :
    ({ sc with commands := c, stored := s.1 } : Scope γ).Binds v row ∧ v.tidy s.2 := by
  obtain ⟨t, ⟨hsound, htidy, hrows⟩, hcontains⟩ := hc.stored
  refine ⟨⟨⟨hsound, hc.ordered, hc.full⟩, hc.slot, ?_⟩, htidy⟩
  dsimp only
  rw [hrows]
  exact hcontains

end Binds

/-- Running an operation on the commands is running it on their cache. -/
theorem onCommands_eq {α : Type}
    (op : Cache CustomCommand → γ × ω → α × Cache CustomCommand × (γ × ω)) (sc : Scope γ) (w : ω) :
    sc.onCommands op w =
      let r := op sc.commands (sc.stored, w)
      (r.1, { sc with commands := r.2.1, stored := r.2.2.1 }, r.2.2.2) := rfl

theorem customCommand_of_full (st : GuildStores (γ × ω)) (hfull : sc.commands.state = .full)
    (name : String) (w : ω) :
    sc.customCommand st name w =
      ((sc.commands.lookup (String.ofList (toLower name.toList))).join, sc, w) := by
  simp only [customCommand, onCommands_eq, Cache.findCommand, Cache.find_of_full _ hfull]

theorem leavesCommands_matchingKeyword (hst : GuildStores.Lawful st v.holds)
    (hsound : v.sound sc.stored) (hw : v.tidy w) (text : String) :
    LeavesCommands v (sc, w) (sc.matchingKeyword st text w).2 := by
  have hlist := leavesCommands_onKeywords hst .listAll hsound hw
  have hread : (sc.onKeywords (CacheCall.listAll.run st.keywords) w).2 =
      (sc.onKeywords (·.listAll st.keywords ·) w).2 := rfl
  rw [hread] at hlist
  simp only [matchingKeyword]
  rcases hfirst : sc.onKeywords (·.listAll st.keywords ·) w with ⟨e | keywords, sc₁, w₁⟩
  · rwa [hfirst] at hlist
  · rw [hfirst] at hlist
    exact ⟨hlist.index, hlist.stored⟩

theorem leavesCommands_onKeywords_of {α : Type} (hst : GuildStores.Lawful st v.holds)
    {op : Cache Keyword → γ × ω → α × Cache Keyword × (γ × ω)}
    (hop : CacheCall.MakesOne st.keywords op) (hsound : v.sound sc.stored) (hw : v.tidy w) :
    LeavesCommands v (sc, w) (sc.onKeywords op w).2 := by
  rcases hop with hnone | ⟨call, -, hone⟩
  · have hsame : (sc.onKeywords op w).2 = (sc, w) := by
      simp only [onKeywords, hnone sc.keywords (sc.stored, w)]
    rw [hsame]
    exact .refl hsound hw
  · have hsame : (sc.onKeywords op w).2 = (sc.onKeywords (call.run st.keywords) w).2 := by
      simp only [onKeywords, hone sc.keywords (sc.stored, w)]
    rw [hsame]
    exact leavesCommands_onKeywords hst call hsound hw

end Scope

/-- A built-in command keeps a custom command, unless it answers that it replaced or deleted it. -/
theorem Builtin.binds_run {v : GuildView γ ω} {st : GuildStores (γ × ω)}
    (hst : GuildStores.Lawful st v.holds) {row : CustomCommand} {sc : Scope γ} {w : ω}
    (hsc : sc.Binds v row) (hw : v.tidy w) (b : Builtin) (m : Moment) (msg : Message)
    (args : List Char) (spec : CommandSpec) (r : Registry Builtin) :
    let a := b.run st m msg args spec r sc w
    (b = command → a.1 ≠ .custom (.written .overwrite row.name) ∧
      a.1 ≠ .custom (.deleted row.name)) → a.2.2.1.Binds v row := by
  cases b with
  | perm =>
    simp only [run]
    generalize PermissionRequest.ofArgs args = request
    exact fun _ ↦ hsc.of_leavesCommands (Scope.leavesCommands_onPolicy hst
      (PermissionRequest.evolves_run st.rules request sc.policy (sc.stored, w)) hsc.sound hw)
  | cooldown =>
    simp only [run]
    generalize CooldownRequest.ofArgs args = request
    exact fun _ ↦ hsc.of_leavesCommands (Scope.leavesCommands_onPolicy hst
      (CooldownRequest.evolves_run st.rules request sc.policy (sc.stored, w)) hsc.sound hw)
  | command =>
    simp only [run]
    generalize CustomRequest.ofArgs args = request
    intro hspares
    obtain ⟨hreplaced, hdeleted⟩ := hspares trivial
    have hkeeps := CustomRequest.keeps_run (hst.commands (v.rows sc.stored))
      (fun name ↦ (r.entryOfTrigger? name).isSome) msg.invoker.id (hsc.keeps hw) request
      (fun hanswer ↦ hreplaced (congrArg Answer.custom hanswer))
      fun hanswer ↦ hdeleted (congrArg Answer.custom hanswer)
    exact (Scope.Binds.of_keeps hkeeps sc).1
  | keyword =>
    simp only [run]
    generalize KeywordRequest.ofArgs args = request
    exact fun _ ↦ hsc.of_leavesCommands (Scope.leavesCommands_onKeywords_of hst
      (KeywordRequest.makesOne_run st.keywords msg.invoker.id request) hsc.sound hw)
  | event => exact fun _ ↦ ⟨⟨hsc.sound, hsc.ordered, hsc.full⟩, hsc.slot, hsc.stored⟩
  | help =>
    simp only [run]
    generalize HelpRequest.ofArgs args = request
    intro _
    cases request with
    | overview =>
      simp only [HelpRequest.run, Scope.onCommands_eq, Cache.listAll_of_full _ hsc.full]
      exact hsc
    | placeholders => exact hsc
    | topic token =>
      simp only [HelpRequest.run, Scope.onCommands_eq]
      cases r.entryOfTrigger? token <;> exact hsc
  | ping => exact fun _ ↦ hsc
  | builtins => exact fun _ ↦ hsc

end Guildhall
