/-!
Instants and durations as exact numbers of nanoseconds. The longest signed duration bounds what
is left of a cooldown; the clock has a last instant.
-/

set_option autoImplicit false

namespace Guildhall

def nanosPerSecond : Nat := 1000000000

/-- A length of time in nanoseconds. -/
structure Duration where
  nanos : Nat
  deriving Repr, DecidableEq, Inhabited

namespace Duration

def zero : Duration := ⟨0⟩

def ofSeconds (s : Nat) : Duration := ⟨s * nanosPerSecond⟩

/-- Whole seconds and the nanoseconds beyond them. -/
def ofParts (seconds nanos : Nat) : Duration := ⟨seconds * nanosPerSecond + nanos⟩

def seconds (d : Duration) : Nat := d.nanos / nanosPerSecond

def subsecond (d : Duration) : Nat := d.nanos % nanosPerSecond

def isZero (d : Duration) : Bool := d.nanos == 0

/-- The least number of whole seconds that is at least `d`. -/
def ceilSeconds (d : Duration) : Nat := d.seconds + if d.subsecond = 0 then 0 else 1

/-- The longest signed duration: `2^63 - 1` seconds and a second less one nanosecond. -/
def longest : Duration := ⟨Nat.pow 2 63 * nanosPerSecond - 1⟩

end Duration

/-- A point in time, in nanoseconds since the first instant of 1970 UTC. -/
structure Instant where
  nanos : Int
  deriving Repr, DecidableEq, Inhabited

namespace Instant

/-- Seconds, rounded down, and the nanoseconds counted forward from them. -/
def ofParts (seconds : Int) (nanos : Nat) : Instant := ⟨seconds * nanosPerSecond + nanos⟩

def seconds (t : Instant) : Int := t.nanos.fdiv nanosPerSecond

def subsecond (t : Instant) : Nat := (t.nanos.fmod nanosPerSecond).toNat

/-- The last nanosecond of the year 9999, where the calendar ends. -/
def last : Instant := ⟨253402300800 * nanosPerSecond - 1⟩

/-- The instant `d` later, unless the calendar ends before it. -/
def advance? (t : Instant) (d : Duration) : Option Instant :=
  let next := t.nanos + d.nanos
  if next ≤ last.nanos then some ⟨next⟩ else none

end Instant

/-- What is left at `now` of a wait of `d` that began at `last`; nothing once more than `d` has
passed. A clock that was set back makes the wait longer, up to the longest duration. -/
def remaining? (d : Duration) (last now : Instant) : Option Duration :=
  let left : Int := min d.nanos Duration.longest.nanos - (now.nanos - last.nanos)
  if left < 0 then none else some ⟨min left.toNat Duration.longest.nanos⟩

end Guildhall
