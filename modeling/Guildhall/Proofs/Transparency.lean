import Guildhall.Proofs.Cache

/-!
Transparency of caches. A call of a cache stands beside the same operation on the plain table of
rows (`CacheCall.onTable`). Over a lawful store whose rows stand under their own keys, a run of
calls in any order leaves the store with the changes of the calls that succeeded and no others,
and a call that succeeds answers what the operation on those rows answers
(`CacheCall.transparent`). One call is dealt with in `CacheCall.reflects_run` and
`CacheCall.answer_of_run`, and a run by induction in `CacheCall.reflects_runAll`.
-/

set_option autoImplicit false

namespace Guildhall

/-- A cache that mirrors the rows that its store holds, each of them under its own key. -/
structure Cache.Reflects {σ V : Type} [Keyed V] (holds : σ → Table String V → Prop) (c : Cache V)
    (s : σ) (t : Table String V) : Prop where
  mirrors : c.Mirrors t
  holds : holds s t
  keyed : t.IsKeyed

theorem Cache.Agrees.map {σ V α β : Type} {holds : σ → Table String V → Prop} {c : Cache V}
    {t t' : Table String V} {x : α} {r : Except CacheError α × Cache V × σ}
    (hagrees : c.Agrees holds t x t' r) (f : α → β) :
    c.Agrees holds t (f x) t' (r.1.map f, r.2) := by
  cases hagrees with
  | ok hmirrors hholds hfull => exact .ok hmirrors hholds hfull
  | error hmirrors hholds hfull => exact .error hmirrors hholds hfull

/-- An operation on a cache. -/
inductive CacheCall (V : Type) where
  | get (key : String)
  | resolve (query : String)
  | listAll
  | upsert (row : V)
  | insertNew (row : V)
  | replace (row : V)
  | remove (key : String)
  | invalidate
  deriving Repr, DecidableEq

/-- What an operation answers. -/
inductive CacheAnswer (V : Type) where
  | row (found : Option V)
  | rows (found : List V)
  | flag (answer : Bool)
  | done
  deriving Repr, DecidableEq

namespace CacheCall

variable {σ V : Type} [Keyed V]

/-! ### Calls on a cache and on a table -/

/-- Makes a call of a cache. -/
def run (st : RowStore σ V) (call : CacheCall V) (c : Cache V) (s : σ) :
    Except CacheError (CacheAnswer V) × Cache V × σ :=
  match call with
  | get key => let r := c.get st key s; (r.1.map .row, r.2)
  | resolve query => let r := c.resolve st query s; (r.1.map .row, r.2)
  | listAll => let r := c.listAll st s; (r.1.map .rows, r.2)
  | upsert row => let r := c.upsert st row s; (r.1.map fun _ ↦ .done, r.2)
  | insertNew row => let r := c.insertNew st row s; (r.1.map .flag, r.2)
  | replace row => let r := c.replace st row s; (r.1.map .flag, r.2)
  | remove key => let r := c.remove st key s; (r.1.map .flag, r.2)
  | invalidate => (.ok .done, c.invalidate, s)

/-- The same operation on a plain table of rows. -/
def onTable (call : CacheCall V) (t : Table String V) : CacheAnswer V × Table String V :=
  match call with
  | get key => (.row (t.get? key), t)
  | resolve query => (.row (t.governing? query), t)
  | listAll => (.rows t.values, t)
  | upsert row => (.done, t.insert (Keyed.key row) row)
  | insertNew row =>
    (.flag (!t.contains (Keyed.key row)),
      if t.contains (Keyed.key row) then t else t.insert (Keyed.key row) row)
  | replace row =>
    (.flag (t.contains (Keyed.key row)),
      if t.contains (Keyed.key row) then t.insert (Keyed.key row) row else t)
  | remove key => (.flag (t.contains key), t.erase key)
  | invalidate => (.done, t)

/-- Every call but the one that forgets everything. -/
def Keeps : CacheCall V → Prop
  | invalidate => False
  | get _ | resolve _ | listAll | upsert _ | insertNew _ | replace _ | remove _ => True

omit [Keyed V] in
theorem keeps_or_eq (call : CacheCall V) : call.Keeps ∨ call = .invalidate := by
  cases call <;> simp [Keeps]

/-- No query that begins with a space. -/
def IsClear : CacheCall V → Prop
  | resolve query => query.toList.head? ≠ some ' '
  | get _ | listAll | upsert _ | insertNew _ | replace _ | remove _ | invalidate => True

/-- The rows after a call: those of the operation on the rows if it succeeded, and the same as
before if it failed. -/
def rowsAfter (call : CacheCall V) (answer : Except CacheError (CacheAnswer V))
    (t : Table String V) : Table String V :=
  match answer with
  | .ok _ => (call.onTable t).2
  | .error _ => t

theorem isKeyed_onTable (call : CacheCall V) {t : Table String V} (ht : t.IsKeyed) :
    (call.onTable t).2.IsKeyed := by
  cases call with
  | get key => exact ht
  | resolve query => exact ht
  | listAll => exact ht
  | upsert row => exact ht.insert row
  | insertNew row =>
    simp only [onTable]
    split_ifs
    · exact ht
    · exact ht.insert row
  | replace row =>
    simp only [onTable]
    split_ifs
    · exact ht.insert row
    · exact ht
  | remove key => exact ht.erase key
  | invalidate => exact ht

/-! ### One call -/

section Call

variable {st : RowStore σ V} {holds : σ → Table String V → Prop} {c : Cache V} {s : σ}
  {t : Table String V}

/-- A call that does not forget everything agrees with the operation on the rows. -/
theorem agrees_run (hst : st.Lawful holds) (hc : c.Reflects holds s t) (call : CacheCall V)
    (hcall : call.Keeps) :
    ∃ x, c.Agrees holds t x (call.onTable t).2 (call.run st c s) ∧
      (call.IsClear → x = (call.onTable t).1) := by
  obtain ⟨hmirrors, hs, hkeyed⟩ := hc
  cases call with
  | get key => exact ⟨_, (Cache.agrees_get hst hmirrors hs key).map CacheAnswer.row, fun _ ↦ rfl⟩
  | resolve query =>
    obtain ⟨x, hagrees, hx⟩ := Cache.agrees_resolve hst hmirrors hs query
    exact ⟨.row x, hagrees.map CacheAnswer.row, fun hclear ↦ congrArg _ (hx (Or.inl hclear))⟩
  | listAll =>
    have hagrees := Cache.agrees_listAll hst hmirrors hkeyed hs
    exact ⟨_, hagrees.map CacheAnswer.rows, fun _ ↦ rfl⟩
  | upsert row =>
    have hagrees := Cache.agrees_upsert hst hmirrors hs row
    exact ⟨.done, hagrees.map fun _ ↦ CacheAnswer.done, fun _ ↦ rfl⟩
  | insertNew row =>
    exact ⟨_, (Cache.agrees_insertNew hst hmirrors hs row).map CacheAnswer.flag, fun _ ↦ rfl⟩
  | replace row =>
    exact ⟨_, (Cache.agrees_replace hst hmirrors hs row).map CacheAnswer.flag, fun _ ↦ rfl⟩
  | remove key =>
    exact ⟨_, (Cache.agrees_remove hst hmirrors hs key).map CacheAnswer.flag, fun _ ↦ rfl⟩
  | invalidate => exact hcall.elim

/-- After a call the cache reflects the rows that the call left. -/
theorem reflects_run (hst : st.Lawful holds) (hc : c.Reflects holds s t) (call : CacheCall V) :
    (call.run st c s).2.1.Reflects holds (call.run st c s).2.2
      (call.rowsAfter (call.run st c s).1 t) := by
  rcases call.keeps_or_eq with hcall | rfl
  · obtain ⟨x, hagrees, -⟩ := agrees_run hst hc call hcall
    generalize call.run st c s = r at hagrees
    cases hagrees with
    | ok hmirrors hs => exact ⟨hmirrors, hs, isKeyed_onTable call hc.keyed⟩
    | error hmirrors hs => exact ⟨hmirrors, hs, hc.keyed⟩
  · exact ⟨Cache.mirrors_invalidate c t, hc.holds, hc.keyed⟩

/-- A call that succeeds answers what the operation on the rows answers. -/
theorem answer_of_run (hst : st.Lawful holds) (hc : c.Reflects holds s t) (call : CacheCall V)
    (hclear : call.IsClear) {answer : CacheAnswer V}
    (hanswer : (call.run st c s).1 = .ok answer) : answer = (call.onTable t).1 := by
  rcases call.keeps_or_eq with hcall | rfl
  · obtain ⟨x, hagrees, hx⟩ := agrees_run hst hc call hcall
    rw [← hx hclear]
    generalize call.run st c s = r at hagrees hanswer
    cases hagrees with
    | ok => exact (Except.ok.inj hanswer).symm
    | error => exact absurd hanswer (by simp)
  · exact (Except.ok.inj hanswer).symm

/-- A full cache stays full unless it is told to forget. -/
theorem state_run_of_full (hst : st.Lawful holds) (hc : c.Reflects holds s t) (call : CacheCall V)
    (hcall : call.Keeps) (hfull : c.state = .full) :
    (call.run st c s).2.1.state = .full := by
  obtain ⟨x, hagrees, -⟩ := agrees_run hst hc call hcall
  generalize call.run st c s = r at hagrees
  cases hagrees with
  | ok _ _ hstays => exact hstays hfull
  | error _ _ hstays => exact hstays hfull

end Call

/-! ### Runs -/

/-- Makes calls in turn; gives each call with its answer. -/
def runAll (st : RowStore σ V) (calls : List (CacheCall V)) (c : Cache V) (s : σ) :
    List (CacheCall V × Except CacheError (CacheAnswer V)) × Cache V × σ :=
  match calls with
  | [] => ([], c, s)
  | call :: calls =>
    let (answer, c, s) := call.run st c s
    let (history, c, s) := runAll st calls c s
    ((call, answer) :: history, c, s)

/-- The rows after calls that gave these answers. -/
def rowsAfterAll (history : List (CacheCall V × Except CacheError (CacheAnswer V)))
    (t : Table String V) : Table String V :=
  history.foldl (fun t h ↦ h.1.rowsAfter h.2 t) t

theorem reflects_runAll {st : RowStore σ V} {holds : σ → Table String V → Prop}
    (hst : st.Lawful holds) (calls : List (CacheCall V)) {c : Cache V} {s : σ}
    {t : Table String V} (hc : c.Reflects holds s t) :
    let run := runAll st calls c s
    run.2.1.Reflects holds run.2.2 (rowsAfterAll run.1 t) := by
  induction calls generalizing c s t with
  | nil => exact hc
  | cons call calls ih => exact ih (reflects_run hst hc call)

/-- Transparency of caches. Over a lawful store whose rows stand under their own keys, any calls of
a new cache leave the store with the rows that the successful ones among them make, and the next
call, if it succeeds, answers what the operation on these rows answers. -/
theorem transparent {st : RowStore σ V} {holds : σ → Table String V → Prop}
    (hst : st.Lawful holds) {s : σ} {t : Table String V} (hs : holds s t) (hkeyed : t.IsKeyed)
    (collection : Collection) (calls : List (CacheCall V)) :
    let run := runAll st calls { collection } s
    holds run.2.2 (rowsAfterAll run.1 t) ∧
      ∀ call : CacheCall V, call.IsClear → ∀ answer,
        (call.run st run.2.1 run.2.2).1 = .ok answer →
          answer = (call.onTable (rowsAfterAll run.1 t)).1 := by
  have hfresh : ({ collection } : Cache V).Reflects holds s t :=
    ⟨Cache.mirrors_fresh collection t, hs, hkeyed⟩
  have hreflects := reflects_runAll hst calls hfresh
  refine ⟨hreflects.holds, fun call hclear answer hanswer ↦ ?_⟩
  exact answer_of_run hst hreflects call hclear hanswer

/-- Rules for `role` and, apart from it, for `role get`. -/
def roleRules : Table String PermissionRule :=
  .ofRows [{ action := "role", rank := .admin }, { action := "role get", rank := .member }]

/-- A failed reading, a refused row and a removal, after a lookup that was remembered. -/
def brokenCalls : List (CacheCall PermissionRule) :=
  [.resolve "role get now", .listAll, .upsert { action := "role", rank := .user },
    .remove "role get"]

/-- The run of the broken calls over a store that fails as it goes. -/
def brokenRun : List (CacheCall PermissionRule × Except CacheError (CacheAnswer PermissionRule)) ×
    Cache PermissionRule × Table String PermissionRule × List RowStore.Verdict :=
  runAll RowStore.memory.scripted brokenCalls { collection := .permissions }
    (roleRules, [.passes, .passes, .passes, .fails, .refuses, .passes])

theorem transparent_brokenCalls :
    brokenRun.1.map (·.2.isOk) = [true, false, false, true] ∧
      brokenRun.2.2.1 = rowsAfterAll brokenRun.1 roleRules ∧
      CacheAnswer.row (some { action := "role", rank := .admin }) =
        ((resolve "role get now").onTable (rowsAfterAll brokenRun.1 roleRules)).1 := by
  have hkeyed : roleRules.IsKeyed := Table.isKeyed_ofRows _
  have htransparent := transparent RowStore.lawful_memory.scripted
    (s := (roleRules, [.passes, .passes, .passes, .fails, .refuses, .passes])) rfl hkeyed
    .permissions brokenCalls
  have hclear : IsClear (V := PermissionRule) (resolve "role get now") := by
    unfold IsClear
    decide
  have hanswer := htransparent.2 (resolve "role get now") hclear
    (.row (some { action := "role", rank := .admin })) (by decide)
  exact ⟨by decide, htransparent.1, hanswer⟩

end CacheCall

end Guildhall
