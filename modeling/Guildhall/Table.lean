/-!
Finite maps as lists of pairs in ascending order of their keys. Order is part of the type, so
that a table is determined by what its keys look up, and listing a table lists it in order.
-/

set_option autoImplicit false

namespace Guildhall

universe u v

/-! ### Strings as keys -/

instance trichotomousString : Std.Trichotomous (α := String) (· < ·) where
  trichotomous _ _ hab hba := String.le_antisymm (String.not_lt.mp hba) (String.not_lt.mp hab)

instance transString : Trans (α := String) (β := String) (γ := String) (· < ·) (· < ·) (· < ·) where
  trans := String.lt_trans

/-! ### Tables -/

/-- Pairs in strictly ascending order of their keys. -/
structure Table (K : Type u) (V : Type v) [LT K] where
  entries : List (K × V)
  ascending : entries.Pairwise (·.1 < ·.1)

namespace Table

section Basic

variable {K : Type u} {V : Type v} [LT K]

def empty : Table K V := ⟨[], .nil⟩

instance : EmptyCollection (Table K V) := ⟨empty⟩

instance : Inhabited (Table K V) := ⟨empty⟩

instance [Repr K] [Repr V] : Repr (Table K V) := ⟨fun t n ↦ reprPrec t.entries n⟩

instance [DecidableEq K] [DecidableEq V] : DecidableEq (Table K V) := fun s t ↦
  decidable_of_iff (s.entries = t.entries) (by cases s; cases t; simp)

def keys (t : Table K V) : List K := t.entries.map (·.1)

def values (t : Table K V) : List V := t.entries.map (·.2)

def isEmpty (t : Table K V) : Bool := t.entries.isEmpty

def size (t : Table K V) : Nat := t.entries.length

variable [DecidableEq K]

def get? (t : Table K V) (k : K) : Option V :=
  (t.entries.find? (·.1 = k)).map (·.2)

def contains (t : Table K V) (k : K) : Bool := (t.get? k).isSome

def erase (t : Table K V) (k : K) : Table K V :=
  ⟨t.entries.filter (·.1 ≠ k), t.ascending.filter _⟩

/-- The pairs whose key and value satisfy `p`. -/
def filter (t : Table K V) (p : K → V → Bool) : Table K V :=
  ⟨t.entries.filter fun e ↦ p e.1 e.2, t.ascending.filter _⟩

/-- Changes every value and no key. -/
def mapValues {W : Type v} (t : Table K V) (f : V → W) : Table K W :=
  ⟨t.entries.map fun e ↦ (e.1, f e.2), by
    rw [List.pairwise_map]
    exact t.ascending⟩

end Basic

section Insert

variable {K : Type u} {V : Type v} [LT K] [DecidableLT K]

/-- Puts a pair at its place in an ascending list, over a pair with the same key. -/
def insertEntry (k : K) (v : V) : List (K × V) → List (K × V)
  | [] => [(k, v)]
  | e :: rest =>
    if k < e.1 then (k, v) :: e :: rest
    else if e.1 < k then e :: insertEntry k v rest
    else (k, v) :: rest

theorem mem_insertEntry {k : K} {v : V} {l : List (K × V)} {e : K × V}
    (h : e ∈ insertEntry k v l) : e = (k, v) ∨ e ∈ l := by
  induction l with
  | nil => simpa [insertEntry] using h
  | cons d rest ih =>
    simp only [insertEntry] at h
    split at h
    · simpa using h
    · split at h
      · rcases List.mem_cons.1 h with rfl | h
        · simp
        · rcases ih h with h | h <;> simp [h]
      · rcases List.mem_cons.1 h with h | h <;> simp [h]

variable [Std.Trichotomous (α := K) (· < ·)]
  [Trans (α := K) (β := K) (γ := K) (· < ·) (· < ·) (· < ·)]

theorem insertEntry_ascending (k : K) (v : V) {l : List (K × V)}
    (h : l.Pairwise (·.1 < ·.1)) : (insertEntry k v l).Pairwise (·.1 < ·.1) := by
  induction l with
  | nil => simp [insertEntry]
  | cons e rest ih =>
    obtain ⟨first, later⟩ := List.pairwise_cons.1 h
    simp only [insertEntry]
    split
    · rename_i lt
      refine List.pairwise_cons.2 ⟨fun d hd ↦ ?_, h⟩
      rcases List.mem_cons.1 hd with rfl | hd
      · exact lt
      · exact Trans.trans lt (first d hd)
    · rename_i notLt
      split
      · rename_i lt
        refine List.pairwise_cons.2 ⟨fun d hd ↦ ?_, ih later⟩
        rcases mem_insertEntry hd with rfl | hd
        · exact lt
        · exact first d hd
      · rename_i notGt
        have same : e.1 = k := Std.Trichotomous.trichotomous _ _ notGt notLt
        exact List.pairwise_cons.2 ⟨fun d hd ↦ same ▸ first d hd, later⟩

/-- Stores `v` under `k`, in place of the value that was there. -/
def insert (t : Table K V) (k : K) (v : V) : Table K V :=
  ⟨insertEntry k v t.entries, insertEntry_ascending k v t.ascending⟩

/-- The table of a list of pairs; of pairs with one key the last wins. -/
def ofList (l : List (K × V)) : Table K V :=
  l.foldl (fun t e ↦ t.insert e.1 e.2) empty

end Insert

end Table

end Guildhall
