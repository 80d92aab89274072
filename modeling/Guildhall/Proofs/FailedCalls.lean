import Guildhall.Proofs.Transparency

/-!
What a call of a cache that fails leaves of the index. Most calls change the index only with the
answer of their last call of the store, so that a failed one changes nothing (`Cache.Spares`).
`insertNew` and `replace` look their key up before they write: if nothing was known of it, what was
read stays in the index although the write fails (`Cache.cache_upsertIf_of_error`). This is the
only trace that a failed call leaves, and it always is one (`CacheCall.index_of_failed_iff`).
-/

set_option autoImplicit false

namespace Guildhall

namespace Cache

variable {σ V α β : Type} {st : RowStore σ V} {c : Cache V} {s : σ}

/-! ### Calls that change the index last -/

/-- If the call failed, the cache is as it was. -/
def Spares (c : Cache V) (r : Except CacheError α × Cache V × σ) : Prop :=
  ∀ e, r.1 = .error e → r.2.1 = c

theorem Spares.map {r : Except CacheError α × Cache V × σ} (hr : c.Spares r) (f : α → β) :
    c.Spares (r.1.map f, r.2) := by
  intro e herror
  rcases r with ⟨e' | a, c', s'⟩
  · exact hr e' rfl
  · simp [Except.map] at herror

theorem spares_get (key : String) : c.Spares (c.get st key s) := by
  unfold get
  cases c.lookup key with
  | some known => simp [Spares]
  | none =>
    rcases c.loadOne st key s with ⟨e | row, s'⟩
    · exact fun _ _ ↦ rfl
    · simp [Spares]

theorem spares_resolve (query : String) : c.Spares (c.resolve st query s) := by
  unfold resolve
  split_ifs
  · simp [Spares]
  · rcases c.loadEach st (c.missing query) s with ⟨e | rows, s'⟩
    · exact fun _ _ ↦ rfl
    · simp [Spares]

theorem spares_remove (key : String) : c.Spares (c.remove st key s) := by
  unfold remove
  rcases st.delete key s with ⟨fault | existed, s'⟩
  · exact fun _ _ ↦ rfl
  · simp [Spares]

section Keyed

variable [Keyed V]

theorem spares_listAll : c.Spares (c.listAll st s) := by
  unfold listAll
  split_ifs
  · simp [Spares]
  · rcases st.loadAll s with ⟨fault | rows, s'⟩
    · exact fun _ _ ↦ rfl
    · simp [Spares]

theorem spares_upsert (row : V) : c.Spares (c.upsert st row s) := by
  unfold upsert
  rcases st.upsert row s with ⟨fault | accepted, s'⟩
  · exact fun _ _ ↦ rfl
  · cases accepted with
    | false => exact fun _ _ ↦ rfl
    | true => simp [Spares]

end Keyed

/-! ### Calls that read before they write -/

/-- What a lookup reads of the store: nothing if the key is known or cannot be read. -/
def fetched? (st : RowStore σ V) (c : Cache V) (key : String) (s : σ) : Option (Option V) :=
  match c.lookup key with
  | some _ => none
  | none => (c.loadOne st key s).1.toOption

/-- The cache after a lookup. -/
theorem cache_get (key : String) :
    (c.get st key s).2.1 = (c.fetched? st key s).elim c (c.remember key) := by
  unfold get fetched?
  cases c.lookup key with
  | some known => rfl
  | none => rcases c.loadOne st key s with ⟨e | row, s'⟩ <;> rfl

/-- What was read of an unknown key changes the index. -/
theorem remember_ne {key : String} (hunknown : c.lookup key = none) (row : Option V) :
    c.remember key row ≠ c := by
  have hslot := (lookup_eq_none_iff.mp hunknown).2
  rw [remember_of_unknown hunknown]
  -- The trie counts its keys, and this one is new.
  intro hsame
  have hsize := congrArg (·.slots.size) hsame
  cases hkey : key.toList with
  | nil => simp [Trie.insert, hkey ▸ hslot, hkey] at hsize
  | cons d path => simp [Trie.insert, hkey ▸ hslot, hkey] at hsize

theorem elim_remember_eq_iff (key : String) :
    (c.fetched? st key s).elim c (c.remember key) = c ↔ c.fetched? st key s = none := by
  unfold fetched?
  cases hlookup : c.lookup key with
  | some known => simp
  | none =>
    cases (c.loadOne st key s).1.toOption with
    | none => simp
    | some row => simpa using remember_ne hlookup row

/-- A failed write leaves in the index what the lookup before it has read. -/
theorem cache_upsertIf_of_error [Keyed V] {taken : Bool} {row : V} {e : CacheError}
    (herror : (c.upsertIf st taken row s).1 = .error e) :
    (c.upsertIf st taken row s).2.1 =
      (c.fetched? st (Keyed.key row) s).elim c (c.remember (Keyed.key row)) := by
  rw [← cache_get]
  unfold upsertIf at herror ⊢
  generalize c.get st (Keyed.key row) s = read at herror ⊢
  rcases read with ⟨e₁ | found, c₁, s₁⟩
  · rfl
  · dsimp only at herror ⊢
    split_ifs at herror ⊢
    have hspares : c₁.Spares (c₁.upsert st row s₁) := spares_upsert row
    generalize c₁.upsert st row s₁ = written at herror hspares ⊢
    rcases written with ⟨e₂ | ⟨⟩, c₂, s₂⟩
    · exact hspares e₂ rfl
    · cases herror

end Cache

namespace CacheCall

variable {σ V : Type} [Keyed V]

/-- The key that a call looks up before it writes. -/
def checkedKey? : CacheCall V → Option String
  | insertNew row | replace row => some (Keyed.key row)
  | get _ | resolve _ | listAll | upsert _ | remove _ | invalidate => none

/-- What a call reads of the store, and remembers, before it writes. -/
def readAhead? (st : RowStore σ V) (call : CacheCall V) (c : Cache V) (s : σ) :
    Option (String × Option V) :=
  call.checkedKey?.bind fun key ↦ (c.fetched? st key s).map (key, ·)

/-- A call that only reads or only writes leaves the index alone if it fails. -/
theorem spares_run (st : RowStore σ V) {call : CacheCall V} (hcall : call.checkedKey? = none)
    (c : Cache V) (s : σ) : c.Spares (call.run st c s) := by
  cases call with
  | get key => exact (Cache.spares_get key).map CacheAnswer.row
  | resolve query => exact (Cache.spares_resolve query).map CacheAnswer.row
  | listAll => exact Cache.spares_listAll.map CacheAnswer.rows
  | upsert row => exact (Cache.spares_upsert row).map fun _ ↦ CacheAnswer.done
  | insertNew row => simp [checkedKey?] at hcall
  | replace row => simp [checkedKey?] at hcall
  | remove key => exact (Cache.spares_remove key).map CacheAnswer.flag
  | invalidate => simp [Cache.Spares, run]

/-- A call that reads before it writes leaves what it has read if it fails. -/
theorem cache_run_of_error (st : RowStore σ V) {call : CacheCall V} {key : String}
    (hcall : call.checkedKey? = some key) {c : Cache V} {s : σ} {e : CacheError}
    (herror : (call.run st c s).1 = .error e) :
    (call.run st c s).2.1 = (c.fetched? st key s).elim c (c.remember key) := by
  have hwrite : ∀ taken row,
      (c.upsertIf st taken row s).1.map (CacheAnswer.flag (V := V)) = .error e →
      (c.upsertIf st taken row s).2.1 =
        (c.fetched? st (Keyed.key row) s).elim c (c.remember (Keyed.key row)) := by
    intro taken row hmap
    cases hresult : (c.upsertIf st taken row s).1 with
    | error e' => exact Cache.cache_upsertIf_of_error hresult
    | ok wrote => simp [hresult, Except.map] at hmap
  cases call with
  | insertNew row =>
    obtain rfl : Keyed.key row = key := by simpa [checkedKey?] using hcall
    exact hwrite false row herror
  | replace row =>
    obtain rfl : Keyed.key row = key := by simpa [checkedKey?] using hcall
    exact hwrite true row herror
  | get _ | resolve _ | listAll | upsert _ | remove _ | invalidate => simp [checkedKey?] at hcall

/-- A failed call leaves the index as it was if and only if it read nothing ahead of a write. What
it did read ahead is remembered, and nothing else is. -/
theorem index_of_failed_iff (st : RowStore σ V) (call : CacheCall V) (c : Cache V) (s : σ)
    {e : CacheError} (herror : (call.run st c s).1 = .error e) :
    ((call.run st c s).2.1 = c ↔ call.readAhead? st c s = none) ∧
      ∀ key row, call.readAhead? st c s = some (key, row) →
        (call.run st c s).2.1 = c.remember key row := by
  unfold readAhead?
  cases hcall : call.checkedKey? with
  | none => simp [spares_run st hcall c s e herror]
  | some key =>
    have hcache := cache_run_of_error st hcall herror
    refine ⟨?_, fun key' row hread ↦ ?_⟩
    · rw [hcache, Cache.elim_remember_eq_iff]
      simp
    · obtain ⟨hfetched, rfl⟩ : c.fetched? st key s = some row ∧ key = key' := by simpa using hread
      rw [hcache, hfetched]
      rfl

/-- A store that answers reads and fails writes. -/
def readOnly : Switched CustomCommand × Switches := ({}, { failWrites := true })

/-- The call that adds the command `hug`. -/
def addHug : CacheCall CustomCommand :=
  .insertNew { name := "hug", template := "hello", owner := 7 }

/-- Adding `hug` fails twice: the first time the cache learns that there is none, the second time
it knows. -/
theorem index_of_failed_iff_hug :
    let c : Cache CustomCommand := { collection := .commands }
    let c' := (addHug.run .switched c readOnly).2.1
    c' ≠ c ∧ c' = c.remember "hug" none ∧ (addHug.run .switched c' readOnly).2.1 = c' := by
  have herror : ∀ c ∈ [({ collection := .commands } : Cache CustomCommand),
      ({ collection := .commands } : Cache CustomCommand).remember "hug" none],
      (addHug.run .switched c readOnly).1 =
        .error (.store .commands .upsert "hug" .unavailable) := by decide
  have hfirst := index_of_failed_iff .switched addHug { collection := .commands } readOnly
    (herror _ (by simp))
  have hlearnt := hfirst.2 "hug" none (by decide)
  have hsecond := index_of_failed_iff .switched addHug
    (({ collection := .commands } : Cache CustomCommand).remember "hug" none) readOnly
    (herror _ (by simp))
  refine ⟨fun hsame ↦ ?_, hlearnt, ?_⟩
  · exact absurd (hfirst.1.mp hsame) (by decide)
  · rw [hlearnt]
    exact hsecond.1.mpr (by decide)

/-- A call fails, and the cache that knew nothing knows that there is no such command. -/
theorem failed_call_changes_index :
    let c : Cache CustomCommand := { collection := .commands }
    let r := addHug.run .switched c readOnly
    r.1 = .error (.store .commands .upsert "hug" .unavailable) ∧
      c.state = .unloaded ∧ r.2.1.state = .partially ∧
      c.lookup "hug" = none ∧ r.2.1.lookup "hug" = some none := by
  decide

end CacheCall

end Guildhall
