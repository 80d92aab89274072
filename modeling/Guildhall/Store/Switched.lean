import Guildhall.Store.Basic

/-!
Rows in memory behind switches. Every call is counted; the switches make reads fail, make writes
fail, or make upserts be refused. An alias is a row that is also served under another key.
-/

set_option autoImplicit false

namespace Guildhall

/-- How often each call was made, failed calls included. -/
structure Calls where
  loadAll : Nat := 0
  loadOne : Nat := 0
  upsert : Nat := 0
  delete : Nat := 0
  deriving Repr, DecidableEq, Inhabited

structure Switches where
  failReads : Bool := false
  failWrites : Bool := false
  rejectWrites : Bool := false
  deriving Repr, DecidableEq, Inhabited

/-- Rows under their own keys, the aliases in the order in which they are listed, and the calls
that were made. -/
structure Switched (V : Type) where
  rows : Table String V := ∅
  aliases : List (String × V) := []
  calls : Calls := {}

instance {V : Type} : Inhabited (Switched V) := ⟨{}⟩

namespace RowStore

variable {V : Type}

/-- A failing call and a refused upsert change nothing but the count. Aliases come before rows
under their own keys when one row is read, and after them when all are. -/
def switched [Keyed V] : RowStore (Switched V × Switches) V where
  loadAll s :=
    let calls := { s.1.calls with loadAll := s.1.calls.loadAll + 1 }
    (if s.2.failReads then .error .unavailable
      else .ok (s.1.rows.values ++ s.1.aliases.map (·.2)), { s.1 with calls }, s.2)
  loadOne key s :=
    let calls := { s.1.calls with loadOne := s.1.calls.loadOne + 1 }
    (if s.2.failReads then .error .unavailable
      else .ok (((s.1.aliases.find? (·.1 = key)).map (·.2)).or (s.1.rows.get? key)),
      { s.1 with calls }, s.2)
  upsert row s :=
    let calls := { s.1.calls with upsert := s.1.calls.upsert + 1 }
    if s.2.failWrites then (.error .unavailable, { s.1 with calls }, s.2)
    else if s.2.rejectWrites then (.ok false, { s.1 with calls }, s.2)
    else (.ok true, { s.1 with calls, rows := s.1.rows.insert (Keyed.key row) row }, s.2)
  delete key s :=
    let calls := { s.1.calls with delete := s.1.calls.delete + 1 }
    if s.2.failWrites then (.error .unavailable, { s.1 with calls }, s.2)
    else (.ok (s.1.rows.contains key), { s.1 with calls, rows := s.1.rows.erase key }, s.2)

end RowStore

end Guildhall
