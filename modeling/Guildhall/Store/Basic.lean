import Guildhall.Policy.Rule
import Guildhall.Table

/-!
Backing stores. A store keeps the rows of one collection under their keys; each of its four calls
may fail, and an upsert may be refused. A store is given by its calls on a state that holds it,
so that one state can hold several stores.
-/

set_option autoImplicit false

namespace Guildhall

/-- The collections of rows that a guild has. -/
inductive Collection where
  | permissions | cooldowns | commands | keywords
  deriving Repr, DecidableEq

def Collection.name : Collection → String
  | permissions => "permissions"
  | cooldowns => "cooldowns"
  | commands => "commands"
  | keywords => "keywords"

def Collection.all : List Collection := [permissions, cooldowns, commands, keywords]

/-- Why a store could not be opened or a call of it failed. -/
inductive StoreFault where
  | offline
  | unavailable
  | creatingDirectory (path : String)
  | parsing (path : String)
  | reading (path : String)
  | serializing
  | writing (path : String)
  | replacing (path : String)
  deriving Repr, DecidableEq

def StoreFault.message : StoreFault → String
  | offline => "store offline"
  | unavailable => "store unavailable"
  | creatingDirectory path => s!"creating store directory at {path}"
  | parsing path => s!"parsing guild store at {path}"
  | reading path => s!"reading guild store at {path}"
  | serializing => "serializing guild store"
  | writing path => s!"writing {path}"
  | replacing path => s!"replacing {path}"

/-- The calls of a store on the state that holds it. An upsert answers whether the row was
accepted, a deletion whether there was a row. -/
structure RowStore (σ V : Type) where
  loadAll : σ → Except StoreFault (List V) × σ
  loadOne : String → σ → Except StoreFault (Option V) × σ
  upsert : V → σ → Except StoreFault Bool × σ
  delete : String → σ → Except StoreFault Bool × σ

namespace RowStore

variable {σ τ V : Type}

/-- The store in a larger state that holds its state at one place. -/
def within (st : RowStore σ V) (view : τ → σ) (put : τ → σ → τ) : RowStore τ V where
  loadAll s := let r := st.loadAll (view s); (r.1, put s r.2)
  loadOne key s := let r := st.loadOne key (view s); (r.1, put s r.2)
  upsert row s := let r := st.upsert row (view s); (r.1, put s r.2)
  delete key s := let r := st.delete key (view s); (r.1, put s r.2)

/-- Rows in memory: no call fails and no row is refused. -/
def memory [Keyed V] : RowStore (Table String V) V where
  loadAll rows := (.ok rows.values, rows)
  loadOne key rows := (.ok (rows.get? key), rows)
  upsert row rows := (.ok true, rows.insert (Keyed.key row) row)
  delete key rows := (.ok (rows.contains key), rows.erase key)

end RowStore

/-- A table of rows, each under its own key; of rows with one key the last wins. -/
def Table.ofRows {V : Type} [Keyed V] (rows : List V) : Table String V :=
  .ofList (rows.map fun row ↦ (Keyed.key row, row))

end Guildhall
