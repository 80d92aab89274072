import Guildhall.Action
import Guildhall.Store.Basic
import Guildhall.Trie

/-!
A write-through index over a backing store. At first nothing is known; then the keys that were
asked for, present or not, are known; once every row was read the store is read no more. A change
reaches the index only after the store accepted it: a call that fails leaves the index as it was,
but for what a write under a condition has read of its key by then.
-/

set_option autoImplicit false

namespace Guildhall

/-- How much of its store a cache knows. -/
inductive LoadState where
  | unloaded | partially | full
  deriving Repr, DecidableEq, Inhabited

def LoadState.name : LoadState → String
  | unloaded => "unloaded"
  | partially => "partial"
  | full => "full"

inductive StoreCall where
  | loadAll | loadOne | upsert | delete
  deriving Repr, DecidableEq

def StoreCall.verb : StoreCall → String
  | loadAll => "load all of"
  | loadOne => "load"
  | upsert => "upsert"
  | delete => "delete"

/-- Why a cache could not answer: a call of the store failed, or the store refused a row. -/
inductive CacheError where
  | store (collection : Collection) (call : StoreCall) (key : String) (fault : StoreFault)
  | rejected (collection : Collection) (key : String)
  deriving Repr, DecidableEq

namespace CacheError

def key : CacheError → String
  | store _ _ key _ | rejected _ key => key

def message : CacheError → String
  | store collection call key _ => s!"{collection.name} store failed to {call.verb} `{key}`"
  | rejected collection key =>
    s!"{collection.name} store rejected {StoreCall.upsert.verb} of `{key}`"

end CacheError

/-- What is known of one collection. A slot holds the row under its key, or nothing where the
store is known to have no row. -/
structure Cache (V : Type) where
  collection : Collection
  slots : Trie (Option V) := ∅
  state : LoadState := .unloaded

namespace Cache

variable {σ V : Type}

/-- What is known of a key: nothing, that there is no row, or the row. -/
def lookup (c : Cache V) (key : String) : Option (Option V) :=
  match c.slots.get? key.toList with
  | some slot => some slot
  | none => if c.state = .full then some none else none

/-- The row at the longest word-bounded beginning of `query` that is known to have one. -/
def longestPresent (c : Cache V) (query : String) : Option V :=
  (c.slots.prefixMatches query.toList).findSome? (·.2)

/-- The rows that are known, in the order of their slots. -/
def presentRows (c : Cache V) : List V := c.slots.values.filterMap id

/-- Records what a read of one key found, unless the key is known already. -/
def remember (c : Cache V) (key : String) (row : Option V) : Cache V :=
  if c.state = .full ∨ (c.slots.get? key.toList).isSome then c
  else { c with slots := c.slots.insert key.toList row, state := .partially }

/-- Reads one key of the store. -/
def loadOne (st : RowStore σ V) (c : Cache V) (key : String) (s : σ) :
    Except CacheError (Option V) × σ :=
  match st.loadOne key s with
  | (.ok row, s) => (.ok row, s)
  | (.error fault, s) => (.error (.store c.collection .loadOne key fault), s)

/-- The row under exactly this key. -/
def get (st : RowStore σ V) (key : String) (c : Cache V) (s : σ) :
    Except CacheError (Option V) × Cache V × σ :=
  match c.lookup key with
  | some known => (.ok known, c, s)
  | none =>
    match c.loadOne st key s with
    | (.error e, s) => (.error e, c, s)
    | (.ok row, s) =>
      let c := c.remember key row
      (.ok (c.lookup key).join, c, s)

/-- The row under exactly this key. One that cannot be read counts as none. -/
def find (st : RowStore σ V) (key : String) (c : Cache V) (s : σ) : Option V × Cache V × σ :=
  match c.get st key s with
  | (.ok found, c, s) => (found, c, s)
  | (.error _, c, s) => (none, c, s)

/-- Reads the keys in turn, up to the first that cannot be read. -/
def loadEach (st : RowStore σ V) (c : Cache V) :
    List String → σ → Except CacheError (List (String × Option V)) × σ
  | [], s => (.ok [], s)
  | key :: keys, s =>
    match c.loadOne st key s with
    | (.error e, s) => (.error e, s)
    | (.ok row, s) =>
      match loadEach st c keys s with
      | (.error e, s) => (.error e, s)
      | (.ok rows, s) => (.ok ((key, row) :: rows), s)

/-- The word-bounded beginnings of `query` that nothing is known of, longest first. -/
def missing (c : Cache V) (query : String) : List String :=
  ((wordPrefixes query.toList).filter fun p ↦ (c.slots.get? p).isNone).map String.ofList

/-- The row at the longest word-bounded beginning of `query`. While not every row is known, each
unknown candidate is read once, and nothing is remembered unless all could be read. -/
def resolve (st : RowStore σ V) (query : String) (c : Cache V) (s : σ) :
    Except CacheError (Option V) × Cache V × σ :=
  if c.state = .full then (.ok (c.longestPresent query), c, s)
  else
    match c.loadEach st (c.missing query) s with
    | (.error e, s) => (.error e, c, s)
    | (.ok rows, s) =>
      let c := rows.foldl (fun c r ↦ c.remember r.1 r.2) c
      (.ok (c.longestPresent query), c, s)

/-- The slots of a fully read store. -/
def slotsOf [Keyed V] (rows : List V) : Trie (Option V) :=
  rows.foldl (fun slots row ↦ slots.insert (Keyed.key row).toList (some row)) ∅

/-- Every row, in key order. The first call reads the whole store. -/
def listAll [Keyed V] (st : RowStore σ V) (c : Cache V) (s : σ) :
    Except CacheError (List V) × Cache V × σ :=
  if c.state = .full then (.ok c.presentRows, c, s)
  else
    match st.loadAll s with
    | (.error fault, s) => (.error (.store c.collection .loadAll "*" fault), c, s)
    | (.ok rows, s) =>
      let c := { c with slots := slotsOf rows, state := .full }
      (.ok c.presentRows, c, s)

/-- Writes a row to the store and, once the store accepted it, to the index. -/
def upsert [Keyed V] (st : RowStore σ V) (row : V) (c : Cache V) (s : σ) :
    Except CacheError Unit × Cache V × σ :=
  let key := Keyed.key row
  match st.upsert row s with
  | (.error fault, s) => (.error (.store c.collection .upsert key fault), c, s)
  | (.ok false, s) => (.error (.rejected c.collection key), c, s)
  | (.ok true, s) =>
    (.ok (), { c with
      slots := c.slots.insert key.toList (some row)
      state := if c.state = .unloaded then .partially else c.state }, s)

/-- Writes a row if whether its key is taken is as it should be; answers whether it was. -/
def upsertIf [Keyed V] (st : RowStore σ V) (taken : Bool) (row : V) (c : Cache V) (s : σ) :
    Except CacheError Bool × Cache V × σ :=
  match c.get st (Keyed.key row) s with
  | (.error e, c, s) => (.error e, c, s)
  | (.ok found, c, s) =>
    if found.isSome = taken then
      match c.upsert st row s with
      | (.error e, c, s) => (.error e, c, s)
      | (.ok (), c, s) => (.ok true, c, s)
    else (.ok false, c, s)

/-- Stores a row only if its key is free. -/
def insertNew [Keyed V] (st : RowStore σ V) (row : V) (c : Cache V) (s : σ) :
    Except CacheError Bool × Cache V × σ :=
  c.upsertIf st false row s

/-- Overwrites a row only if there is one under its key. -/
def replace [Keyed V] (st : RowStore σ V) (row : V) (c : Cache V) (s : σ) :
    Except CacheError Bool × Cache V × σ :=
  c.upsertIf st true row s

/-- Deletes a row from the store, then from the index; answers whether there was one. -/
def remove (st : RowStore σ V) (key : String) (c : Cache V) (s : σ) :
    Except CacheError Bool × Cache V × σ :=
  match st.delete key s with
  | (.error fault, s) => (.error (.store c.collection .delete key fault), c, s)
  | (.ok existed, s) =>
    let c :=
      if c.state = .full then { c with slots := c.slots.erase key.toList }
      else { c with slots := c.slots.insert key.toList none, state := .partially }
    (.ok existed, c, s)

/-- Forgets everything; the next lookup starts from the store. -/
def invalidate (c : Cache V) : Cache V :=
  { c with slots := ∅, state := .unloaded }

end Cache

end Guildhall
