import Guildhall.Proofs.Table
import Guildhall.Store.Switched

/-!
Stores that keep their rows. `RowStore.Lawful st holds` says what the calls of a store do to the
rows that its state holds: a read changes none of them, and if it succeeds it finds them; a write
that is accepted changes the row that it is for, and one that fails or is refused changes none.
Rows in memory are lawful (`RowStore.lawful_memory`), behind switches too unless a row is served
under the key of another (`RowStore.lawful_switched`), and so is every lawful store whose calls
fail or refuse in whatever order (`RowStore.Lawful.scripted`).
-/

set_option autoImplicit false

namespace Guildhall

/-! ### Rows under their own keys -/

namespace Table

variable {V : Type} [Keyed V]

/-- Every row stands under its own key. -/
def IsKeyed (t : Table String V) : Prop := ∀ key row, t.get? key = some row → Keyed.key row = key

theorem isKeyed_empty : (∅ : Table String V).IsKeyed := fun key row hrow ↦ by simp at hrow

theorem IsKeyed.insert {t : Table String V} (ht : t.IsKeyed) (row : V) :
    (t.insert (Keyed.key row) row).IsKeyed := by
  intro key other hother
  rw [get?_insert] at hother
  split_ifs at hother with hkey
  · rw [← Option.some.inj hother, hkey]
  · exact ht key other hother

theorem IsKeyed.erase {t : Table String V} (ht : t.IsKeyed) (key : String) :
    (t.erase key).IsKeyed := by
  intro key' row hrow
  rw [get?_erase] at hrow
  split_ifs at hrow
  exact ht key' row hrow

/-- Of rows with one key the last is found. -/
theorem get?_ofRows (rows : List V) (key : String) :
    (Table.ofRows rows).get? key = rows.reverse.find? fun row ↦ Keyed.key row = key := by
  rw [Table.ofRows, get?_ofList, ← List.map_reverse, List.find?_map, Option.map_map]
  exact Option.map_id_apply

theorem isKeyed_ofRows (rows : List V) : (Table.ofRows rows).IsKeyed := by
  unfold Table.ofRows Table.ofList
  rw [List.foldl_map]
  suffices hall : ∀ t : Table String V, t.IsKeyed →
      (rows.foldl (fun t row ↦ t.insert (Keyed.key row) row) t).IsKeyed from
    hall ∅ isKeyed_empty
  induction rows with
  | nil => exact fun t ht ↦ ht
  | cons row rows ih => exact fun t ht ↦ ih _ (ht.insert row)

end Table

namespace RowStore

variable {σ V : Type} [Keyed V]

/-! ### Lawful stores -/

/-- What the calls of a store do to the rows that a state holds. -/
structure Lawful (st : RowStore σ V) (holds : σ → Table String V → Prop) : Prop where
  loadAll : ∀ {s t}, holds s t →
    match st.loadAll s with
    | (.ok rows, s') => rows.Perm t.values ∧ holds s' t
    | (.error _, s') => holds s' t
  loadOne : ∀ key {s t}, holds s t →
    match st.loadOne key s with
    | (.ok row, s') => row = t.get? key ∧ holds s' t
    | (.error _, s') => holds s' t
  upsert : ∀ row {s t}, holds s t →
    match st.upsert row s with
    | (.ok true, s') => holds s' (t.insert (Keyed.key row) row)
    | (.ok false, s') | (.error _, s') => holds s' t
  delete : ∀ key {s t}, holds s t →
    match st.delete key s with
    | (.ok existed, s') => existed = t.contains key ∧ holds s' (t.erase key)
    | (.error _, s') => holds s' t

theorem lawful_memory : (memory : RowStore (Table String V) V).Lawful (· = ·) where
  loadAll := by
    rintro s _ rfl
    exact ⟨List.Perm.refl _, rfl⟩
  loadOne := by
    rintro key s _ rfl
    exact ⟨rfl, rfl⟩
  upsert := by
    rintro row s _ rfl
    rfl
  delete := by
    rintro key s _ rfl
    exact ⟨rfl, rfl⟩

/-- Switches leave rows in memory lawful, if no row has an alias. -/
theorem lawful_switched : (switched : RowStore (Switched V × Switches) V).Lawful
    fun s t ↦ s.1.aliases = [] ∧ s.1.rows = t where
  loadAll := by
    rintro ⟨stored, switches⟩ _ ⟨haliases : stored.aliases = [], rfl⟩
    cases hfails : switches.failReads with
    | true => simpa [switched, hfails] using haliases
    | false => simp [switched, hfails, haliases]
  loadOne := by
    rintro key ⟨stored, switches⟩ _ ⟨haliases : stored.aliases = [], rfl⟩
    cases hfails : switches.failReads with
    | true => simpa [switched, hfails] using haliases
    | false => simp [switched, hfails, haliases]
  upsert := by
    rintro row ⟨stored, switches⟩ _ ⟨haliases : stored.aliases = [], rfl⟩
    cases hfails : switches.failWrites with
    | true => simpa [switched, hfails] using haliases
    | false =>
      cases hrejects : switches.rejectWrites with
      | true => simpa [switched, hfails, hrejects] using haliases
      | false => simpa [switched, hfails, hrejects] using haliases
  delete := by
    rintro key ⟨stored, switches⟩ _ ⟨haliases : stored.aliases = [], rfl⟩
    cases hfails : switches.failWrites with
    | true => simpa [switched, hfails] using haliases
    | false => simpa [switched, hfails] using haliases

/-- A lawful store stays lawful within a larger state that keeps its rows. -/
theorem Lawful.within {τ : Type} {st : RowStore σ V} {holds : σ → Table String V → Prop}
    (hst : st.Lawful holds) (view : τ → σ) (put : τ → σ → τ) {holds' : τ → Table String V → Prop}
    (hview : ∀ {s t}, holds' s t → holds (view s) t)
    (hput : ∀ {s t r t'}, holds' s t → holds r t' → holds' (put s r) t') :
    (st.within view put).Lawful holds' where
  loadAll := by
    intro s t hs
    have hcall := hst.loadAll (hview hs)
    rcases hresult : st.loadAll (view s) with ⟨_ | rows, s'⟩
    · rw [hresult] at hcall
      simpa [RowStore.within, hresult] using hput hs hcall
    · rw [hresult] at hcall
      simpa [RowStore.within, hresult] using ⟨hcall.1, hput hs hcall.2⟩
  loadOne := by
    intro key s t hs
    have hcall := hst.loadOne key (hview hs)
    rcases hresult : st.loadOne key (view s) with ⟨_ | row, s'⟩
    · rw [hresult] at hcall
      simpa [RowStore.within, hresult] using hput hs hcall
    · rw [hresult] at hcall
      simpa [RowStore.within, hresult] using ⟨hcall.1, hput hs hcall.2⟩
  upsert := by
    intro row s t hs
    have hcall := hst.upsert row (hview hs)
    rcases hresult : st.upsert row (view s) with ⟨_ | _ | _, s'⟩
    · rw [hresult] at hcall
      simpa [RowStore.within, hresult] using hput hs hcall
    · rw [hresult] at hcall
      simpa [RowStore.within, hresult] using hput hs hcall
    · rw [hresult] at hcall
      simpa [RowStore.within, hresult] using hput hs hcall
  delete := by
    intro key s t hs
    have hcall := hst.delete key (hview hs)
    rcases hresult : st.delete key (view s) with ⟨_ | existed, s'⟩
    · rw [hresult] at hcall
      simpa [RowStore.within, hresult] using hput hs hcall
    · rw [hresult] at hcall
      simpa [RowStore.within, hresult] using ⟨hcall.1, hput hs hcall.2⟩

/-! ### Stores that fail -/

/-- What becomes of one call. -/
inductive Verdict where
  | passes | fails | refuses
  deriving Repr, DecidableEq

/-- The store whose calls pass, fail or are refused as a script says, and pass when it ends. Only
an upsert can be refused. -/
def scripted (st : RowStore σ V) : RowStore (σ × List Verdict) V where
  loadAll s :=
    if s.2.head? = some .fails then (.error .unavailable, s.1, s.2.tail)
    else ((st.loadAll s.1).1, (st.loadAll s.1).2, s.2.tail)
  loadOne key s :=
    if s.2.head? = some .fails then (.error .unavailable, s.1, s.2.tail)
    else ((st.loadOne key s.1).1, (st.loadOne key s.1).2, s.2.tail)
  upsert row s :=
    if s.2.head? = some .fails then (.error .unavailable, s.1, s.2.tail)
    else if s.2.head? = some .refuses then (.ok false, s.1, s.2.tail)
    else ((st.upsert row s.1).1, (st.upsert row s.1).2, s.2.tail)
  delete key s :=
    if s.2.head? = some .fails then (.error .unavailable, s.1, s.2.tail)
    else ((st.delete key s.1).1, (st.delete key s.1).2, s.2.tail)

/-- Failures, in whatever order they come, leave a store lawful. -/
theorem Lawful.scripted {st : RowStore σ V} {holds : σ → Table String V → Prop}
    (hst : st.Lawful holds) : st.scripted.Lawful fun s t ↦ holds s.1 t where
  loadAll := by
    intro s t hs
    by_cases hfails : s.2.head? = some .fails
    · simpa [RowStore.scripted, hfails] using hs
    · have hcall := hst.loadAll hs
      rcases hresult : st.loadAll s.1 with ⟨_ | rows, s'⟩
      · simpa [RowStore.scripted, hfails, hresult] using hcall
      · simpa [RowStore.scripted, hfails, hresult] using hcall
  loadOne := by
    intro key s t hs
    by_cases hfails : s.2.head? = some .fails
    · simpa [RowStore.scripted, hfails] using hs
    · have hcall := hst.loadOne key hs
      rcases hresult : st.loadOne key s.1 with ⟨_ | row, s'⟩
      · simpa [RowStore.scripted, hfails, hresult] using hcall
      · simpa [RowStore.scripted, hfails, hresult] using hcall
  upsert := by
    intro row s t hs
    by_cases hfails : s.2.head? = some .fails
    · simpa [RowStore.scripted, hfails] using hs
    · by_cases hrefuses : s.2.head? = some .refuses
      · simpa [RowStore.scripted, hrefuses] using hs
      · have hcall := hst.upsert row hs
        rcases hresult : st.upsert row s.1 with ⟨_ | _ | _, s'⟩
        · simpa [RowStore.scripted, hfails, hrefuses, hresult] using hcall
        · simpa [RowStore.scripted, hfails, hrefuses, hresult] using hcall
        · simpa [RowStore.scripted, hfails, hrefuses, hresult] using hcall
  delete := by
    intro key s t hs
    by_cases hfails : s.2.head? = some .fails
    · simpa [RowStore.scripted, hfails] using hs
    · have hcall := hst.delete key hs
      rcases hresult : st.delete key s.1 with ⟨_ | existed, s'⟩
      · simpa [RowStore.scripted, hfails, hresult] using hcall
      · simpa [RowStore.scripted, hfails, hresult] using hcall

end RowStore

end Guildhall
