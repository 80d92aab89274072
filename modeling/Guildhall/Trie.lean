/-!
A character trie over action strings. A stored key matches a query when it is the query or the
query goes on from it with a space, so a value at `role` is found for `role get` and not for
`roleplay`. The children of a node are one list in ascending order of their characters, and a
removal takes away every node that no longer leads to a value, so that equal contents have equal
tries.
-/

set_option autoImplicit false

namespace Guildhall

/-- The nodes below one node, in ascending order of their characters. -/
inductive Branches (V : Type) where
  | nil
  | node (c : Char) (value : Option V) (below next : Branches V)
  deriving Repr, DecidableEq

namespace Branches

variable {V : Type}

/-- The value at the end of the path `c :: s`. -/
def get? : Branches V → Char → List Char → Option V
  | nil, _, _ => none
  | node d value below next, c, s =>
    if c = d then
      match s with
      | [] => value
      | c' :: s' => below.get? c' s'
    else next.get? c s

/-- A single path to `v`, in front of `next`. -/
def chain (c : Char) (s : List Char) (v : V) (next : Branches V) : Branches V :=
  match s with
  | [] => node c (some v) nil next
  | c' :: s' => node c none (chain c' s' v nil) next

def insert : Branches V → Char → List Char → V → Branches V
  | nil, c, s, v => chain c s v nil
  | node d value below next, c, s, v =>
    if c = d then
      match s with
      | [] => node d (some v) below next
      | c' :: s' => node d value (below.insert c' s' v) next
    else if c < d then chain c s v (node d value below next)
    else node d value below (next.insert c s v)

/-- A node, or nothing where it would lead to no value. -/
def prune (d : Char) (value : Option V) (below next : Branches V) : Branches V :=
  match value, below with
  | none, nil => next
  | _, _ => node d value below next

/-- The branches without the value at the end of the path. -/
def erase : Branches V → Char → List Char → Branches V
  | nil, _, _ => nil
  | node d value below next, c, s =>
    if c = d then
      match s with
      | [] => prune d none below next
      | c' :: s' => prune d value (below.erase c' s') next
    else node d value below (next.erase c s)

/-- Stores `v` at the end of the path; gives the value that stood there. -/
def put : Branches V → Char → List Char → V → Option V × Branches V
  | nil, c, s, v => (none, chain c s v nil)
  | node d value below next, c, s, v =>
    if c = d then
      match s with
      | [] => (value, node d (some v) below next)
      | c' :: s' =>
        let (replaced, below) := below.put c' s' v
        (replaced, node d value below next)
    else if c < d then (none, chain c s v (node d value below next))
    else
      let (replaced, next) := next.put c s v
      (replaced, node d value below next)

/-- Takes the value at the end of the path out. Where there was one, the nodes that no longer lead
to a value go with it. -/
def take : Branches V → Char → List Char → Option V × Branches V
  | nil, _, _ => (none, nil)
  | node d value below next, c, s =>
    if c = d then
      match s with
      | [] => (value, if value.isSome then prune d none below next else node d none below next)
      | c' :: s' =>
        let (taken, below) := below.take c' s'
        (taken, if taken.isSome then prune d value below next else node d value below next)
    else
      let (taken, next) := next.take c s
      (taken, node d value below next)

/-- Every path that ends at a value, in ascending order. -/
def entries : Branches V → List (List Char × V)
  | nil => []
  | node d value below next =>
    (value.toList.map fun v ↦ ([d], v)) ++ (below.entries.map fun e ↦ (d :: e.1, e.2)) ++
      next.entries

/-- A word ends where the text ends or goes on with a space. -/
def endsWord (rest : List Char) : Bool :=
  match rest with
  | [] => true
  | c :: _ => c == ' '

/-- The word-bounded beginnings of the text that end at a value, shortest first. -/
def along : Branches V → List Char → List (List Char × V)
  | nil, _ => []
  | node _ _ _ _, [] => []
  | node d value below next, c :: s =>
    if c = d then
      (if endsWord s then value.toList.map fun v ↦ ([c], v) else []) ++
        (below.along s).map fun e ↦ (c :: e.1, e.2)
    else next.along (c :: s)

end Branches

/-- A trie: the value at the empty key, the nodes below the root and the number of keys. -/
structure Trie (V : Type) where
  value : Option V
  branches : Branches V
  size : Nat
  deriving Repr, DecidableEq

namespace Trie

variable {V : Type}

def empty : Trie V := ⟨none, .nil, 0⟩

instance : EmptyCollection (Trie V) := ⟨empty⟩

instance : Inhabited (Trie V) := ⟨empty⟩

def isEmpty (t : Trie V) : Bool := t.size == 0

def get? (t : Trie V) (key : List Char) : Option V :=
  match key with
  | [] => t.value
  | c :: s => t.branches.get? c s

/-- Stores `v` at `key`, in place of the value that was there. -/
def insert (t : Trie V) (key : List Char) (v : V) : Trie V :=
  let size := if (t.get? key).isSome then t.size else t.size + 1
  match key with
  | [] => { t with value := some v, size }
  | c :: s => { t with branches := t.branches.insert c s v, size }

/-- Takes away the value stored exactly at `key`. -/
def erase (t : Trie V) (key : List Char) : Trie V :=
  if (t.get? key).isNone then t
  else match key with
    | [] => { t with value := none, size := t.size - 1 }
    | c :: s => { t with branches := t.branches.erase c s, size := t.size - 1 }

/-- Stores `v` at `key`; gives the value that it replaced. -/
def put (t : Trie V) (key : List Char) (v : V) : Option V × Trie V :=
  let (replaced, t) : Option V × Trie V := match key with
    | [] => (t.value, { t with value := some v })
    | c :: s =>
      let (replaced, branches) := t.branches.put c s v
      (replaced, { t with branches })
  (replaced, { t with size := if replaced.isNone then t.size + 1 else t.size })

/-- Takes the value stored exactly at `key` out. -/
def take (t : Trie V) (key : List Char) : Option V × Trie V :=
  let (taken, t) : Option V × Trie V := match key with
    | [] => (t.value, { t with value := none })
    | c :: s =>
      let (taken, branches) := t.branches.take c s
      (taken, { t with branches })
  (taken, { t with size := if taken.isSome then t.size - 1 else t.size })

/-- Takes away the value stored exactly at `key`; answers whether there was one. -/
def remove (t : Trie V) (key : List Char) : Bool × Trie V :=
  let (taken, t) := t.take key
  (taken.isSome, t)

/-- Every key with its value, in ascending order of the keys. -/
def entries (t : Trie V) : List (List Char × V) :=
  (t.value.toList.map fun v ↦ ([], v)) ++ t.branches.entries

def values (t : Trie V) : List V := t.entries.map (·.2)

/-- Every key that is a word-bounded beginning of `query`, with its value, longest first. -/
def prefixMatches (t : Trie V) (query : List Char) : List (List Char × V) :=
  ((if Branches.endsWord query then t.value.toList.map fun v ↦ ([], v) else []) ++
    t.branches.along query).reverse

/-- The value at the longest key that is a word-bounded beginning of `query`. -/
def prefixMatch? (t : Trie V) (query : List Char) : Option V :=
  (t.prefixMatches query).head?.map (·.2)

end Trie

end Guildhall
