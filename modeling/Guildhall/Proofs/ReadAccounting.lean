import Guildhall.Proofs.StoreViews

/-!
What a cache asks of its store. The calls of a store are events; a store that records them
(`RowStore.Records`) shows which calls an operation made. A cache leaves room for fewer and fewer
reads: of no key that it knows of, and of none once it is full (`Cache.Allows`). What one operation
asks, and what room it leaves, is its account (`Cache.Accounts`); accounts of operations that follow
each other are put together (`Cache.Accounts.trans`), so that a run of any calls over any store has
one (`CacheCall.accounts_ledger`), and the ledger of a new cache is read off it
(`CacheCall.reads_are_accounted`).
-/

set_option autoImplicit false

namespace Guildhall

/-! ### Calls of a store -/

/-- A call of a store and whether it was done. A write is done when the store accepted it. -/
inductive StoreEvent where
  | loadAll (done : Bool)
  | loadOne (key : String) (done : Bool)
  | upsert (key : String) (done : Bool)
  | delete (key : String) (done : Bool)
  deriving Repr, DecidableEq

namespace StoreEvent

def isRead : StoreEvent → Bool
  | loadAll _ | loadOne _ _ => true
  | upsert _ _ | delete _ _ => false

/-- A read of this one key. -/
def reads (key : String) : StoreEvent → Bool
  | loadOne key' _ => key' = key
  | loadAll _ | upsert _ _ | delete _ _ => false

/-- A write or a deletion of this key that was done. -/
def changes (key : String) : StoreEvent → Bool
  | upsert key' done | delete key' done => done && key' = key
  | loadAll _ | loadOne _ _ => false

/-- After the one event there is no need for the other: everything was read, or the key that the
other reads was written. -/
def Settles (e e' : StoreEvent) : Prop :=
  e = .loadAll true ∧ e'.isRead ∨ ∃ key, e.changes key ∧ e'.reads key

/-- Both events read one key. -/
def Repeats (e e' : StoreEvent) : Prop := ∃ key, e.reads key ∧ e'.reads key

end StoreEvent

namespace RowStore

variable {σ τ κ V : Type}

/-- The answer of an upsert that was accepted. -/
def accepts : Except StoreFault Bool → Bool
  | .ok accepted => accepted
  | .error _ => false

/-- Each call of the store adds its event to what the states record. -/
structure Records [Keyed V] (st : RowStore σ V) (record : σ → κ) (add : StoreEvent → κ → κ) :
    Prop where
  loadAll : ∀ s, record (st.loadAll s).2 = add (.loadAll (st.loadAll s).1.isOk) (record s)
  loadOne : ∀ key s,
    record (st.loadOne key s).2 = add (.loadOne key (st.loadOne key s).1.isOk) (record s)
  upsert : ∀ row s,
    record (st.upsert row s).2 =
      add (.upsert (Keyed.key row) (accepts (st.upsert row s).1)) (record s)
  delete : ∀ key s,
    record (st.delete key s).2 = add (.delete key (st.delete key s).1.isOk) (record s)

/-- The store beside a log of its calls. -/
def watched [Keyed V] (st : RowStore σ V) : RowStore (σ × List StoreEvent) V where
  loadAll s := let r := st.loadAll s.1; (r.1, r.2, s.2 ++ [.loadAll r.1.isOk])
  loadOne key s := let r := st.loadOne key s.1; (r.1, r.2, s.2 ++ [.loadOne key r.1.isOk])
  upsert row s :=
    let r := st.upsert row s.1; (r.1, r.2, s.2 ++ [.upsert (Keyed.key row) (accepts r.1)])
  delete key s := let r := st.delete key s.1; (r.1, r.2, s.2 ++ [.delete key r.1.isOk])

theorem records_watched [Keyed V] (st : RowStore σ V) :
    st.watched.Records Prod.snd fun e log ↦ log ++ [e] where
  loadAll _ := rfl
  loadOne _ _ := rfl
  upsert _ _ := rfl
  delete _ _ := rfl

/-- Without its log a watched store is the store. -/
theorem seenAs_watched [Keyed V] (st : RowStore σ V) : st.watched.SeenAs Prod.fst st where
  loadAll _ := rfl
  loadOne _ _ := rfl
  upsert _ _ := rfl
  delete _ _ := rfl

end RowStore

/-! ### Load states -/

namespace LoadState

def level : LoadState → Nat
  | unloaded => 0
  | partially => 1
  | full => 2

instance : LE LoadState := ⟨fun a b ↦ a.level ≤ b.level⟩

instance : DecidableLE LoadState := fun a b ↦ Nat.decLe a.level b.level

theorem le_trans {a b c : LoadState} (hab : a ≤ b) (hbc : b ≤ c) : a ≤ c := Nat.le_trans hab hbc

instance : Trans (α := LoadState) (· ≤ ·) (· ≤ ·) (· ≤ ·) := ⟨le_trans⟩

theorem le_full (state : LoadState) : state ≤ full := by cases state <;> decide

theorem le_partially {state : LoadState} (hstate : state ≠ full) : state ≤ partially := by
  cases state <;> first | decide | exact absurd rfl hstate

end LoadState

theorem countP_le_one {α : Type} {p : α → Bool} {l : List α}
    (hl : l.Pairwise fun a b ↦ ¬ (p a ∧ p b)) : l.countP p ≤ 1 := by
  induction hl with
  | nil => simp
  | @cons a l hfirst _ ih =>
    cases ha : p a with
    | false => simpa [ha] using ih
    | true =>
      have hnone : l.countP p = 0 :=
        List.countP_eq_zero.mpr fun b hb hpb ↦ hfirst b hb ⟨ha, hpb⟩
      simp [ha, hnone]

namespace Cache

variable {σ κ V : Type}

/-! ### Room for reads -/

/-- A cache leaves room for a read of a key that nothing is known of, and for a read of everything
unless it is full. Writes it never keeps from the store. -/
def Allows (c : Cache V) : StoreEvent → Prop
  | .loadAll _ => c.state ≠ .full
  | .loadOne key _ => c.lookup key = none
  | .upsert _ _ | .delete _ _ => True

theorem allows_of_knows {c c' : Cache V} (hstate : c'.state ≠ .full → c.state ≠ .full)
    (hslots : ∀ path, c'.slots.get? path = none → c'.state ≠ .full → c.slots.get? path = none)
    {e : StoreEvent} (he : c'.Allows e) : c.Allows e := by
  cases e with
  | loadAll done => exact hstate he
  | loadOne key done =>
    obtain ⟨hnotfull, hslot⟩ := lookup_eq_none_iff.mp he
    exact lookup_eq_none_iff.mpr ⟨hstate hnotfull, hslots _ hslot hnotfull⟩
  | upsert key done => trivial
  | delete key done => trivial

/-- A full cache leaves no room for reads. -/
theorem not_allows_of_full {c : Cache V} (hfull : c.state = .full) {e : StoreEvent}
    (hread : e.isRead) : ¬ c.Allows e := by
  cases e with
  | loadAll done => exact fun hallows ↦ hallows hfull
  | loadOne key done => exact fun hallows ↦ (lookup_eq_none_iff.mp hallows).1 hfull
  | upsert key done => simp [StoreEvent.isRead] at hread
  | delete key done => simp [StoreEvent.isRead] at hread

/-- A cache that knows of a key leaves no room for a read of it. -/
theorem not_allows_of_known {c : Cache V} {key : String}
    (hknown : c.state = .full ∨ (c.slots.get? key.toList).isSome) {e : StoreEvent}
    (hreads : e.reads key) : ¬ c.Allows e := by
  cases e with
  | loadOne key' done =>
    obtain rfl : key' = key := by simpa [StoreEvent.reads] using hreads
    intro hallows
    obtain ⟨hnotfull, hslot⟩ := lookup_eq_none_iff.mp hallows
    simp [hnotfull, hslot] at hknown
  | loadAll done => simp [StoreEvent.reads] at hreads
  | upsert key' done => simp [StoreEvent.reads] at hreads
  | delete key' done => simp [StoreEvent.reads] at hreads

/-! ### Accounts -/

/-- What was asked of the store while one cache became another: the events, and which of them were
made by operations that succeeded. -/
structure Accounts (c : Cache V) (events answered : List StoreEvent) (c' : Cache V) : Prop where
  ordered : c'.slots.Ordered
  grows : c.state ≤ c'.state
  narrows : ∀ e, c'.Allows e → c.Allows e
  allowed : ∀ e ∈ events, c.Allows e
  settled : ∀ e ∈ events, ∀ e', e.Settles e' → ¬ c'.Allows e'
  learnt : ∀ e ∈ answered, ∀ e', e.Repeats e' → ¬ c'.Allows e'
  within : answered ⊆ events
  inOrder : events.Pairwise fun e e' ↦ ¬ e.Settles e'
  once : answered.Pairwise fun e e' ↦ ¬ e.Repeats e'

namespace Accounts

variable {c c' c'' : Cache V} {events events' answered answered' : List StoreEvent}

theorem refl (hc : c.slots.Ordered) : c.Accounts [] [] c where
  ordered := hc
  grows := Nat.le_refl _
  narrows _ he := he
  allowed := by simp
  settled := by simp
  learnt := by simp
  within := by simp
  inOrder := .nil
  once := .nil

theorem trans (h : c.Accounts events answered c') (h' : c'.Accounts events' answered' c'') :
    c.Accounts (events ++ events') (answered ++ answered') c'' where
  ordered := h'.ordered
  grows := LoadState.le_trans h.grows h'.grows
  narrows e he := h.narrows e (h'.narrows e he)
  allowed e he := by
    rcases List.mem_append.mp he with he | he
    · exact h.allowed e he
    · exact h.narrows e (h'.allowed e he)
  settled e he e' hsettles := by
    rcases List.mem_append.mp he with he | he
    · exact fun hallows ↦ h.settled e he e' hsettles (h'.narrows e' hallows)
    · exact h'.settled e he e' hsettles
  learnt e he e' hrepeats := by
    rcases List.mem_append.mp he with he | he
    · exact fun hallows ↦ h.learnt e he e' hrepeats (h'.narrows e' hallows)
    · exact h'.learnt e he e' hrepeats
  within := List.append_subset.mpr
    ⟨List.subset_append_of_subset_left _ h.within, List.subset_append_of_subset_right _ h'.within⟩
  inOrder := List.pairwise_append.mpr ⟨h.inOrder, h'.inOrder, fun e he e' he' hsettles ↦
    h.settled e he e' hsettles (h'.allowed e' he')⟩
  once := List.pairwise_append.mpr ⟨h.once, h'.once, fun e he e' he' hrepeats ↦
    h.learnt e he e' hrepeats (h'.allowed e' (h'.within he'))⟩

/-- The events of an operation that failed after all do not count as answered. -/
theorem unanswered (h : c.Accounts events answered c') : c.Accounts events [] c' where
  ordered := h.ordered
  grows := h.grows
  narrows := h.narrows
  allowed := h.allowed
  settled := h.settled
  learnt := by simp
  within := by simp
  inOrder := h.inOrder
  once := .nil

/-- A failed operation that changed nothing. -/
theorem failed (hc : c.slots.Ordered) (hallowed : ∀ e ∈ events, c.Allows e)
    (hundone : ∀ e ∈ events, ∀ e', ¬ e.Settles e') : c.Accounts events [] c where
  ordered := hc
  grows := Nat.le_refl _
  narrows _ he := he
  allowed := hallowed
  settled e he e' hsettles := absurd hsettles (hundone e he e')
  learnt := by simp
  within := by simp
  inOrder := List.pairwise_of_forall_mem_list fun e he e' _ ↦ hundone e he e'
  once := .nil

/-- One call of the store that leaves no room for what it makes needless. -/
theorem single {e : StoreEvent} (hc' : c'.slots.Ordered) (hgrows : c.state ≤ c'.state)
    (hnarrows : ∀ e, c'.Allows e → c.Allows e) (hallowed : c.Allows e)
    (hneedless : ∀ e', e.Settles e' ∨ e.Repeats e' → ¬ c'.Allows e') :
    c.Accounts [e] [e] c' where
  ordered := hc'
  grows := hgrows
  narrows := hnarrows
  allowed := by simpa using hallowed
  settled := by simpa using fun e' hsettles ↦ hneedless e' (Or.inl hsettles)
  learnt := by simpa using fun e' hrepeats ↦ hneedless e' (Or.inr hrepeats)
  within := List.Subset.refl _
  inOrder := List.pairwise_singleton _ _
  once := List.pairwise_singleton _ _

end Accounts

/-! ### What the changes of a cache account for -/

section Changes

variable {c : Cache V}

/-- A slot that was filled leaves no room for a read of its key. -/
theorem accounts_insert (hc : c.slots.Ordered) {key : String} (slot : Option V) {state : LoadState}
    (hstate : state ≠ .full → c.state ≠ .full) (hgrows : c.state ≤ state) {e : StoreEvent}
    (hallowed : c.Allows e) (hkey : ∀ e', e.Settles e' ∨ e.Repeats e' → e'.reads key) :
    c.Accounts [e] [e] { c with slots := c.slots.insert key.toList slot, state } := by
  refine .single (Trie.ordered_insert hc _ _) hgrows ?_ hallowed ?_
  · refine fun e ↦ allows_of_knows hstate fun path hslot _ ↦ ?_
    rw [Trie.get?_insert hc] at hslot
    split_ifs at hslot
    exact hslot
  · intro e' hneedless
    refine not_allows_of_known (Or.inr ?_) (hkey e' hneedless)
    rw [Trie.get?_insert hc, if_pos rfl]
    rfl

theorem accounts_remember (hc : c.slots.Ordered) {key : String} (hunknown : c.lookup key = none)
    (row : Option V) :
    c.Accounts [.loadOne key true] [.loadOne key true] (c.remember key row) := by
  have hnotfull := (lookup_eq_none_iff.mp hunknown).1
  rw [remember_of_unknown hunknown]
  refine accounts_insert hc row (fun _ ↦ hnotfull) (LoadState.le_partially hnotfull) hunknown ?_
  simp [StoreEvent.Settles, StoreEvent.Repeats, StoreEvent.changes, StoreEvent.reads]

theorem accounts_foldl_remember (rows : List (String × Option V)) (hc : c.slots.Ordered)
    (hnodup : (rows.map (·.1)).Nodup) (hunknown : ∀ r ∈ rows, c.lookup r.1 = none) :
    c.Accounts (rows.map fun r ↦ .loadOne r.1 true) (rows.map fun r ↦ .loadOne r.1 true)
      (rows.foldl (fun c r ↦ c.remember r.1 r.2) c) := by
  induction rows generalizing c with
  | nil => exact .refl hc
  | cons r rows ih =>
    rw [List.map_cons, List.nodup_cons] at hnodup
    have hfirst := accounts_remember hc (hunknown r List.mem_cons_self) r.2
    refine hfirst.trans (ih hfirst.ordered hnodup.2 fun r' hr' ↦ ?_)
    have hother : r'.1 ≠ r.1 := fun hsame ↦ hnodup.1 (hsame ▸ List.mem_map_of_mem hr')
    have hslot := (lookup_eq_none_iff.mp (hunknown r' (List.mem_cons_of_mem _ hr'))).2
    rw [remember_of_unknown (hunknown r List.mem_cons_self), lookup_eq_none_iff,
      Trie.get?_insert hc, if_neg (hother ∘ String.toList_inj.mp)]
    exact ⟨by simp, hslot⟩

theorem accounts_fill (hnotfull : c.state ≠ .full) {slots : Trie (Option V)}
    (hslots : slots.Ordered) :
    c.Accounts [.loadAll true] [.loadAll true] { c with slots, state := .full } := by
  refine .single hslots (LoadState.le_full _) ?_ hnotfull ?_
  · exact fun e ↦ allows_of_knows (absurd rfl) fun _ _ ↦ absurd rfl
  · intro e' hneedless
    refine not_allows_of_full rfl ?_
    simpa [StoreEvent.Settles, StoreEvent.Repeats, StoreEvent.changes, StoreEvent.reads]
      using hneedless

/-- A full cache needs no slot for a row that was taken away. -/
theorem accounts_erase (hc : c.slots.Ordered) (hfull : c.state = .full) (key : String) :
    c.Accounts [.delete key true] [.delete key true]
      { c with slots := c.slots.erase key.toList } := by
  have hfull' : ({ c with slots := c.slots.erase key.toList } : Cache V).state = .full := hfull
  refine .single (Trie.ordered_erase hc _) (Nat.le_refl _) (fun e he ↦ ?_) trivial ?_
  · exact allows_of_knows (absurd hfull') (fun _ _ ↦ absurd hfull') he
  · intro e' hneedless
    have hreads : e'.reads key := by
      simpa [StoreEvent.Settles, StoreEvent.Repeats, StoreEvent.changes, StoreEvent.reads]
        using hneedless
    exact not_allows_of_known (Or.inl hfull') hreads

end Changes

/-! ### What operations account for -/

/-- An operation accounts for the events that the states record, all of them answered if it
succeeded and none if it failed. -/
def Accounted {α : Type} (record : σ → κ) (add : StoreEvent → κ → κ) (c : Cache V) (s : σ)
    (r : Except CacheError α × Cache V × σ) : Prop :=
  ∃ events, record r.2.2 = events.foldl (fun k e ↦ add e k) (record s) ∧
    c.Accounts events (if r.1.isOk then events else []) r.2.1

theorem Accounted.map {α β : Type} {record : σ → κ} {add : StoreEvent → κ → κ} {c : Cache V} {s : σ}
    {r : Except CacheError α × Cache V × σ} (hr : c.Accounted record add s r) (f : α → β) :
    c.Accounted record add s (r.1.map f, r.2) := by
  rcases r with ⟨e | a, c', s'⟩
  · exact hr
  · exact hr

/-- The candidates of a query are asked for once each. -/
theorem missing_nodup (c : Cache V) (query : String) : (c.missing query).Nodup := by
  have hwords : (wordPrefixes query.toList).Nodup := by
    have hstarts : (wordStarts query.toList).reverse.Nodup :=
      List.nodup_reverse.mpr ((wordStarts_ascending _).imp fun hlt heq ↦ by simp [heq] at hlt)
    rw [wordStarts, List.reverse_append, List.reverse_singleton] at hstarts
    exact hstarts.sublist (List.filter_sublist.reverse.cons_cons _)
  exact (hwords.filter _).map fun p p' heq ↦ by simpa using congrArg String.toList heq

theorem lookup_of_mem_missing {c : Cache V} (hnotfull : c.state ≠ .full) {query key : String}
    (hkey : key ∈ c.missing query) : c.lookup key = none := by
  obtain ⟨p, hp, rfl⟩ := List.mem_map.mp hkey
  have hslot := (List.mem_filter.mp hp).2
  rw [lookup_eq_none_iff, String.toList_ofList]
  exact ⟨hnotfull, by simpa using hslot⟩

section Operations

variable [Keyed V] {st : RowStore σ V} {record : σ → κ} {add : StoreEvent → κ → κ} {c : Cache V}

theorem record_loadOne (hst : st.Records record add) (c : Cache V) (key : String) (s : σ) :
    record (c.loadOne st key s).2 = add (.loadOne key (c.loadOne st key s).1.isOk) (record s) := by
  have hload := hst.loadOne key s
  unfold loadOne
  generalize st.loadOne key s = loaded at hload ⊢
  rcases loaded with ⟨fault | row, s'⟩
  · exact hload
  · exact hload

/-- The keys are read in turn; if all could be read, each of them was read once. -/
theorem record_loadEach (hst : st.Records record add) (c : Cache V) (keys : List String) (s : σ) :
    ∃ events : List StoreEvent,
      record (c.loadEach st keys s).2 = events.foldl (fun k e ↦ add e k) (record s) ∧
      (∀ e ∈ events, ∃ key ∈ keys, ∃ done, e = .loadOne key done) ∧
      ∀ rows, (c.loadEach st keys s).1 = .ok rows →
        rows.map (·.1) = keys ∧ events = rows.map fun r ↦ .loadOne r.1 true := by
  induction keys generalizing s with
  | nil =>
    refine ⟨[], rfl, by simp, fun rows hrows ↦ ?_⟩
    obtain rfl : [] = rows := by simpa [loadEach] using hrows
    exact ⟨rfl, rfl⟩
  | cons key keys ih =>
    have hload := record_loadOne hst c key s
    unfold loadEach
    generalize c.loadOne st key s = loaded at hload ⊢
    rcases loaded with ⟨e | row, s₁⟩
    · exact ⟨[.loadOne key false], hload, by simp, by simp⟩
    · obtain ⟨events, hrecord, hevents, hall⟩ := ih s₁
      have hfirst : ∀ e ∈ StoreEvent.loadOne key true :: events,
          ∃ key' ∈ key :: keys, ∃ done, e = .loadOne key' done := by
        intro e he
        rcases List.mem_cons.mp he with rfl | he
        · exact ⟨key, List.mem_cons_self, true, rfl⟩
        · obtain ⟨key', hkey', hdone⟩ := hevents e he
          exact ⟨key', List.mem_cons_of_mem _ hkey', hdone⟩
      rw [hload] at hrecord
      dsimp only
      generalize c.loadEach st keys s₁ = later at hrecord hall ⊢
      rcases later with ⟨e | rows, s₂⟩
      · exact ⟨.loadOne key true :: events, hrecord, hfirst, by simp⟩
      · obtain ⟨hkeys, hrows⟩ := hall rows rfl
        refine ⟨.loadOne key true :: events, hrecord, hfirst, fun rows' hrows' ↦ ?_⟩
        obtain rfl := Except.ok.inj hrows'
        simp [hkeys, hrows]

theorem accounted_get (hst : st.Records record add) (hc : c.slots.Ordered) (key : String) (s : σ) :
    c.Accounted record add s (c.get st key s) := by
  unfold get
  cases hlookup : c.lookup key with
  | some known => exact ⟨[], rfl, .refl hc⟩
  | none =>
    have hload := record_loadOne hst c key s
    generalize c.loadOne st key s = loaded at hload ⊢
    rcases loaded with ⟨e | row, s'⟩
    · refine ⟨[.loadOne key false], hload, .failed hc ?_ ?_⟩
      · simpa [Allows] using hlookup
      · simp [StoreEvent.Settles, StoreEvent.changes]
    · exact ⟨[.loadOne key true], hload, accounts_remember hc hlookup row⟩

theorem accounted_resolve (hst : st.Records record add) (hc : c.slots.Ordered) (query : String)
    (s : σ) : c.Accounted record add s (c.resolve st query s) := by
  unfold resolve
  split_ifs with hfull
  · exact ⟨[], rfl, .refl hc⟩
  · obtain ⟨events, hrecord, hevents, hall⟩ := record_loadEach hst c (c.missing query) s
    generalize c.loadEach st (c.missing query) s = loaded at hrecord hall ⊢
    rcases loaded with ⟨e | rows, s'⟩
    · refine ⟨events, hrecord, .failed hc ?_ ?_⟩
      · intro e he
        obtain ⟨key, hkey, done, rfl⟩ := hevents e he
        exact lookup_of_mem_missing hfull hkey
      · intro e he
        obtain ⟨key, -, done, rfl⟩ := hevents e he
        simp [StoreEvent.Settles, StoreEvent.changes]
    · obtain ⟨hkeys, rfl⟩ := hall rows rfl
      refine ⟨_, hrecord, accounts_foldl_remember rows hc ?_ fun r hr ↦ ?_⟩
      · exact hkeys ▸ missing_nodup c query
      · exact lookup_of_mem_missing hfull (hkeys ▸ List.mem_map_of_mem hr)

theorem accounted_listAll (hst : st.Records record add) (hc : c.slots.Ordered) (s : σ) :
    c.Accounted record add s (c.listAll st s) := by
  unfold listAll
  split_ifs with hfull
  · exact ⟨[], rfl, .refl hc⟩
  · have hload := hst.loadAll s
    generalize st.loadAll s = loaded at hload ⊢
    rcases loaded with ⟨fault | rows, s'⟩
    · refine ⟨[.loadAll false], hload, .failed hc ?_ ?_⟩
      · simpa [Allows] using hfull
      · simp [StoreEvent.Settles, StoreEvent.changes]
    · have hslots : (slotsOf rows).Ordered := ordered_foldl_insert rows Trie.ordered_empty
      exact ⟨[.loadAll true], hload, accounts_fill hfull hslots⟩

theorem accounted_upsert (hst : st.Records record add) (hc : c.slots.Ordered) (row : V) (s : σ) :
    c.Accounted record add s (c.upsert st row s) := by
  have hwrite := hst.upsert row s
  have hundone : ∀ e ∈ [StoreEvent.upsert (Keyed.key row) false], ∀ e', ¬ e.Settles e' := by
    simp [StoreEvent.Settles, StoreEvent.changes]
  unfold upsert
  generalize st.upsert row s = written at hwrite ⊢
  rcases written with ⟨fault | _ | _, s'⟩
  · exact ⟨[.upsert (Keyed.key row) false], hwrite, .failed hc (by simp [Allows]) hundone⟩
  · exact ⟨[.upsert (Keyed.key row) false], hwrite, .failed hc (by simp [Allows]) hundone⟩
  · refine ⟨[.upsert (Keyed.key row) true], hwrite, accounts_insert hc _ ?_ ?_ trivial ?_⟩
    · cases c.state <;> simp
    · cases c.state <;> decide
    · simp [StoreEvent.Settles, StoreEvent.Repeats, StoreEvent.changes, StoreEvent.reads]

theorem accounted_upsertIf (hst : st.Records record add) (hc : c.slots.Ordered) (taken : Bool)
    (row : V) (s : σ) : c.Accounted record add s (c.upsertIf st taken row s) := by
  have hread := accounted_get hst hc (Keyed.key row) s
  unfold upsertIf
  generalize c.get st (Keyed.key row) s = read at hread ⊢
  rcases read with ⟨e | found, c₁, s₁⟩
  · exact hread
  · dsimp only
    split_ifs
    · obtain ⟨events, hrecord, haccounts⟩ := hread
      obtain ⟨events', hrecord', haccounts'⟩ := accounted_upsert hst haccounts.ordered row s₁
      have hboth := haccounts.trans haccounts'
      rw [hrecord, ← List.foldl_append] at hrecord'
      generalize c₁.upsert st row s₁ = written at hrecord' hboth ⊢
      rcases written with ⟨e | ⟨⟩, c₂, s₂⟩
      · exact ⟨events ++ events', hrecord', hboth.unanswered⟩
      · exact ⟨events ++ events', hrecord', hboth⟩
    · exact hread

theorem accounted_remove (hst : st.Records record add) (hc : c.slots.Ordered) (key : String)
    (s : σ) : c.Accounted record add s (c.remove st key s) := by
  have hdelete := hst.delete key s
  unfold remove
  generalize st.delete key s = deleted at hdelete ⊢
  rcases deleted with ⟨fault | existed, s'⟩
  · refine ⟨[.delete key false], hdelete, .failed hc (by simp [Allows]) ?_⟩
    simp [StoreEvent.Settles, StoreEvent.changes]
  · refine ⟨[.delete key true], hdelete, ?_⟩
    by_cases hfull : c.state = .full
    · simp only [if_pos hfull]
      exact accounts_erase hc hfull key
    · simp only [if_neg hfull]
      refine accounts_insert hc none (fun _ ↦ hfull) (LoadState.le_partially hfull) trivial ?_
      simp [StoreEvent.Settles, StoreEvent.Repeats, StoreEvent.changes, StoreEvent.reads]

end Operations

end Cache

namespace CacheCall

variable {σ κ V : Type} [Keyed V]

/-! ### One call -/

/-- A call that does not forget everything accounts for what it asks of the store. -/
theorem accounted_run {st : RowStore σ V} {record : σ → κ} {add : StoreEvent → κ → κ}
    (hst : st.Records record add) {call : CacheCall V} (hcall : call.Keeps) {c : Cache V}
    (hc : c.slots.Ordered) (s : σ) : c.Accounted record add s (call.run st c s) := by
  cases call with
  | get key => exact (Cache.accounted_get hst hc key s).map CacheAnswer.row
  | resolve query => exact (Cache.accounted_resolve hst hc query s).map CacheAnswer.row
  | listAll => exact (Cache.accounted_listAll hst hc s).map CacheAnswer.rows
  | upsert row => exact (Cache.accounted_upsert hst hc row s).map fun _ ↦ CacheAnswer.done
  | insertNew row => exact (Cache.accounted_upsertIf hst hc false row s).map CacheAnswer.flag
  | replace row => exact (Cache.accounted_upsertIf hst hc true row s).map CacheAnswer.flag
  | remove key => exact (Cache.accounted_remove hst hc key s).map CacheAnswer.flag
  | invalidate => exact hcall.elim

/-! ### Runs -/

/-- A call with its answer, the calls of the store that it made and the load state after it. -/
structure Entry (V : Type) where
  call : CacheCall V
  answer : Except CacheError (CacheAnswer V)
  events : List StoreEvent
  state : LoadState
  deriving DecidableEq

/-- Makes calls in turn over a watched store; gives an entry for each. -/
def ledger (st : RowStore σ V) : List (CacheCall V) → Cache V → σ → List (Entry V)
  | [], _, _ => []
  | call :: calls, c, s =>
    let (answer, c, s, events) := call.run st.watched c (s, [])
    { call, answer, events, state := c.state } :: ledger st calls c s

/-- Every call of the store, in the order in which they were made. -/
def trace (entries : List (Entry V)) : List StoreEvent := entries.flatMap (·.events)

/-- The calls of the store that were made by calls that succeeded. -/
def answeredTrace (entries : List (Entry V)) : List StoreEvent :=
  trace (entries.filter (·.answer.isOk))

/-- The ledger shows the run as it is without a log. -/
theorem answers_ledger (st : RowStore σ V) (calls : List (CacheCall V)) (c : Cache V) (s : σ) :
    (ledger st calls c s).map (fun entry ↦ (entry.call, entry.answer)) =
      (runAll st calls c s).1 := by
  induction calls generalizing c s with
  | nil => rfl
  | cons call calls ih =>
    have hrun : call.run st c s = seen Prod.fst (call.run st.watched c (s, [])) :=
      actsAlike_run st.seenAs_watched call c (s, [])
    rw [ledger, runAll, hrun]
    exact congrArg _ (ih _ _)

/-- What one call asks of the store is accounted for by its entry. -/
theorem accounts_entry (st : RowStore σ V) {call : CacheCall V} (hcall : call.Keeps) {c : Cache V}
    (hc : c.slots.Ordered) (s : σ) :
    let r := call.run st.watched c (s, [])
    c.Accounts r.2.2.2 (if r.1.isOk then r.2.2.2 else []) r.2.1 := by
  obtain ⟨events, hlog, haccounts⟩ := accounted_run st.records_watched hcall hc (s, [])
  rw [List.foldl_append_eq_append, ← List.flatMap_def, List.flatMap_singleton', List.nil_append]
    at hlog
  dsimp only
  rw [hlog]
  exact haccounts

/-- A run of calls has an account. -/
theorem accounts_ledger (st : RowStore σ V) {calls : List (CacheCall V)}
    (hcalls : ∀ call ∈ calls, call.Keeps) {c : Cache V} (hc : c.slots.Ordered) (s : σ) :
    ∃ c', c.Accounts (trace (ledger st calls c s)) (answeredTrace (ledger st calls c s)) c' := by
  induction calls generalizing c s with
  | nil => exact ⟨c, .refl hc⟩
  | cons call calls ih =>
    rw [List.forall_mem_cons] at hcalls
    have hfirst := accounts_entry st hcalls.1 hc s
    unfold ledger
    generalize call.run st.watched c (s, []) = r at hfirst ⊢
    rcases r with ⟨answer, c₁, s₁, events⟩
    obtain ⟨c', hlater⟩ := ih hcalls.2 hfirst.ordered s₁
    refine ⟨c', ?_⟩
    have hboth := hfirst.trans hlater
    cases answer with
    | error e => exact hboth
    | ok answer => exact hboth

/-- The load state never moves back. -/
theorem states_ledger (st : RowStore σ V) {calls : List (CacheCall V)}
    (hcalls : ∀ call ∈ calls, call.Keeps) {c : Cache V} (hc : c.slots.Ordered) (s : σ) :
    (c.state :: (ledger st calls c s).map (·.state)).IsChain (· ≤ ·) := by
  induction calls generalizing c s with
  | nil => exact .singleton _
  | cons call calls ih =>
    rw [List.forall_mem_cons] at hcalls
    have hfirst := accounts_entry st hcalls.1 hc s
    exact .cons_cons hfirst.grows (ih hcalls.2 hfirst.ordered _)

/-- Read accounting. Whatever the calls of a new cache are, except the one that forgets everything,
and whichever calls of the store fail: for each key at most one read of it is made by calls that
succeed, and at most one read of everything is done; after it nothing is read, and a key that was
written or deleted is not read; the load state never moves back. -/
theorem reads_are_accounted (st : RowStore σ V) (collection : Collection)
    {calls : List (CacheCall V)} (hcalls : ∀ call ∈ calls, call.Keeps) (s : σ) :
    let entries := ledger st calls { collection } s
    entries.map (fun entry ↦ (entry.call, entry.answer)) = (runAll st calls { collection } s).1 ∧
      (∀ key, (answeredTrace entries).countP (·.reads key) ≤ 1) ∧
      (trace entries).count (.loadAll true) ≤ 1 ∧
      ((trace entries).Pairwise fun e e' ↦ e = .loadAll true → ¬ e'.isRead) ∧
      ((trace entries).Pairwise fun e e' ↦ ∀ key, e.changes key → ¬ e'.reads key) ∧
      (LoadState.unloaded :: entries.map (·.state)).Pairwise (· ≤ ·) := by
  intro entries
  have hordered : ({ collection } : Cache V).slots.Ordered := Trie.ordered_empty
  obtain ⟨c', haccounts⟩ := accounts_ledger st hcalls hordered s
  refine ⟨answers_ledger st calls _ s, fun key ↦ ?_, ?_, ?_, ?_, ?_⟩
  · exact countP_le_one (haccounts.once.imp fun hnot hboth ↦ hnot ⟨key, hboth⟩)
  · refine countP_le_one (haccounts.inOrder.imp fun hnot hboth ↦ hnot (Or.inl ?_))
    simp only [beq_iff_eq] at hboth
    exact ⟨hboth.1, by rw [hboth.2]; rfl⟩
  · exact haccounts.inOrder.imp fun hnot hall hread ↦ hnot (Or.inl ⟨hall, hread⟩)
  · exact haccounts.inOrder.imp fun hnot key hchanges hreads ↦
      hnot (Or.inr ⟨key, hchanges, hreads⟩)
  · exact (states_ledger st hcalls hordered s).pairwise

/-- The broken calls, then a read of everything that is done and a lookup that needs no reads. -/
def mendedCalls : List (CacheCall PermissionRule) :=
  brokenCalls ++ [.listAll, .resolve "role get now"]

/-- Of the mended calls the first reads the three beginnings of its query, and the reading of
everything is done at the second try; after it there is nothing to read. -/
theorem reads_are_accounted_mendedCalls :
    let entries := ledger RowStore.memory.scripted mendedCalls { collection := .permissions }
      (roleRules, [.passes, .passes, .passes, .fails, .refuses, .passes])
    (∀ call ∈ mendedCalls, call.Keeps) ∧
      trace entries = [.loadOne "role get now" true, .loadOne "role get" true, .loadOne "role" true,
        .loadAll false, .upsert "role" false, .delete "role get" true, .loadAll true] ∧
      (∀ key, (answeredTrace entries).countP (·.reads key) ≤ 1) ∧
      (LoadState.unloaded :: entries.map (·.state)).Pairwise (· ≤ ·) := by
  have hcalls : ∀ call ∈ mendedCalls, call.Keeps := by simp [mendedCalls, brokenCalls, Keeps]
  obtain ⟨-, hreads, -, -, -, hstates⟩ := reads_are_accounted RowStore.memory.scripted .permissions
    hcalls (roleRules, [.passes, .passes, .passes, .fails, .refuses, .passes])
  exact ⟨hcalls, by decide, hreads, hstates⟩

end CacheCall

end Guildhall
