/-!
Randomness as a stream of 64-bit words: the words that were given, then those of the SplitMix64
generator. Numbers are drawn by multiplying a word into the range and drawing again where that
would favour some numbers over others.
-/

set_option autoImplicit false

namespace Guildhall

/-- The words that are drawn first, and the state of the generator after them. -/
structure Draws where
  words : List UInt64 := []
  seed : UInt64 := 0
  deriving Repr, DecidableEq, Inhabited

namespace Draws

/-- The word that a state of the generator stands for. -/
def mix (s : UInt64) : UInt64 :=
  let z := (s ^^^ (s >>> 30)) * 0xBF58476D1CE4E5B9
  let z := (z ^^^ (z >>> 27)) * 0x94D049BB133111EB
  z ^^^ (z >>> 31)

def next (d : Draws) : UInt64 × Draws :=
  match d.words with
  | w :: words => (w, { d with words })
  | [] =>
    let seed := d.seed + 0x9E3779B97F4A7C15
    (mix seed, { d with seed })

/-- The number below `n` that a word of `bits` bits stands for, if it is one that favours none. -/
def accept? (n bits word : Nat) : Option Nat :=
  let product := word * n
  let zone := n * Nat.pow 2 (bits - (n.log2 + 1)) - 1
  if product % Nat.pow 2 bits ≤ zone then some (product / Nat.pow 2 bits) else none

/-- Draws words until one is accepted. -/
def belowWithin (n bits : Nat) : Nat → Draws → Nat × Draws
  | 0, d => (0, d)
  | fuel + 1, d =>
    let (word, d) := d.next
    match accept? n bits (word.toNat % Nat.pow 2 bits) with
    | some k => (k, d)
    | none => belowWithin n bits fuel d

/-- A number below `n`, from words of `bits` bits, of which the low ones are taken. The generator
runs through all words, so that one is accepted before they are used up. -/
def below (n bits : Nat) (d : Draws) : Nat × Draws :=
  belowWithin n bits (d.words.length + UInt64.size) d

/-- An integer from `low` to `high`, both included. -/
def between (low high : Int) (d : Draws) : Int × Draws :=
  let size := (high - low + 1).toNat
  if size < UInt64.size then
    let (k, d) := d.below size 64
    (low + k, d)
  else
    let (word, d) := d.next
    (low + (word.toNat + Nat.pow 2 63) % UInt64.size, d)

/-- How many bits the words have that an index below `n` is drawn with: 32 where these suffice. -/
def indexBits (n : Nat) : Nat := if n < Nat.pow 2 32 then 32 else 64

/-- An element of a list; nothing is drawn from the empty list. -/
def choose? {α : Type} (items : List α) (d : Draws) : Option α × Draws :=
  if items.isEmpty then (none, d)
  else
    let (k, d) := d.below items.length (indexBits items.length)
    (items[k]?, d)

end Draws

end Guildhall
