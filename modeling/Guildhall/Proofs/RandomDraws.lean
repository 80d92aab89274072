import Guildhall.Proofs.BuiltinPlaceholders
import Guildhall.Proofs.Numeral
import Mathlib.Data.Nat.Find

/-!
What random placeholders can give. A number is drawn by taking words until one is accepted. The
generator comes to the word zero, which is accepted for every range, so that there always is one
(`Draws.below_spec`), and each number of the range stands for a word that is accepted
(`Draws.exists_below_eq`). So a draw stays within its range and covers it, and with it the
placeholders `rng`, `choice` and `randomEventMember` (`Placeholder.random_placeholder_spans`).
-/

set_option autoImplicit false

namespace Guildhall

namespace Draws

/-! ### The words of a stream -/

/-- The randomness after some words are drawn. -/
def drop : Nat → Draws → Draws
  | 0, d => d
  | count + 1, d => drop count d.next.2

/-- The word that is drawn after `i` others. -/
def word (i : Nat) (d : Draws) : UInt64 := (d.drop i).next.1

theorem drop_length_words (d : Draws) :
    d.drop d.words.length = { words := [], seed := d.seed } := by
  obtain ⟨words, seed⟩ := d
  induction words with
  | nil => rfl
  | cons w words ih => exact ih

theorem drop_add (i j : Nat) (d : Draws) : d.drop (i + j) = (d.drop i).drop j := by
  induction i generalizing d with
  | zero => rw [Nat.zero_add, drop]
  | succ i ih => rw [Nat.succ_add, drop, ih, drop]

/-- What the generator adds to its state for each word. -/
def stride : UInt64 := 0x9E3779B97F4A7C15

theorem drop_generated (i : Nat) (seed : UInt64) :
    drop i { words := [], seed } = { words := [], seed := seed + UInt64.ofNat i * stride } := by
  induction i generalizing seed with
  | zero => simp [drop]
  | succ i ih =>
    have hnext : (next { words := [], seed }).2 = { words := [], seed := seed + stride } := rfl
    have hstate : seed + stride + UInt64.ofNat i * stride =
        seed + (UInt64.ofNat i + UInt64.ofNat 1) * stride := by
      rw [UInt64.add_mul, UInt64.add_assoc, UInt64.add_comm stride]
      exact congrArg _ (congrArg _ (UInt64.one_mul stride).symm)
    rw [drop, hnext, ih, UInt64.ofNat_add, hstate]

/-- Every stream comes to the word zero: the stride is odd, so that the generator runs through all
states, and the word of the state zero is zero. -/
theorem exists_word_eq_zero (d : Draws) : ∃ i < d.words.length + UInt64.size, d.word i = 0 := by
  let inverse : UInt64 := 0xF1DE83E19937733D
  have hinverse : inverse * stride = 1 := by decide
  let steps : UInt64 := -d.seed * inverse - 1
  refine ⟨d.words.length + steps.toNat, Nat.add_lt_add_left steps.toNat_lt _, ?_⟩
  have hstate : d.seed + steps * stride + stride = 0 := by
    calc d.seed + steps * stride + stride
        = d.seed - d.seed * (inverse * stride) := by simp only [steps]; grind
      _ = 0 := by rw [hinverse]; grind
  have hword : d.word (d.words.length + steps.toNat) = mix (d.seed + steps * stride + stride) := by
    rw [word, drop_add, drop_length_words, drop_generated, UInt64.ofNat_toNat]
    rfl
  rw [hword, hstate]
  decide

/-! ### Numbers below a bound -/

theorem accept?_zero (n bits : Nat) : accept? n bits 0 = some 0 := by
  simp [accept?]

/-- A word stands for a number of the range. -/
theorem lt_of_accept? {n bits word k : Nat} (hn : 0 < n) (hword : word < 2 ^ bits)
    (hk : accept? n bits word = some k) : k < n := by
  unfold accept? at hk
  dsimp only at hk
  split_ifs at hk
  obtain rfl := Option.some.inj hk
  exact Nat.div_lt_of_lt_mul (Nat.mul_lt_mul_of_pos_right hword hn)

/-- Each number of the range stands for a word that is accepted: the least one that does not stand
for a smaller number. -/
theorem exists_accept?_eq {n bits k : Nat} (hk : k < n) (hn : n ≤ 2 ^ bits) :
    ∃ word < 2 ^ bits, accept? n bits word = some k := by
  have hpos : 0 < n := Nat.zero_lt_of_lt hk
  let word := (k * 2 ^ bits + (n - 1)) / n
  have hupper : word * n ≤ k * 2 ^ bits + (n - 1) := Nat.div_mul_le_self _ _
  have hlower : k * 2 ^ bits + (n - 1) < word * n + n := Nat.lt_div_mul_add hpos
  obtain ⟨excess, hexcess⟩ : ∃ excess, word * n = excess + k * 2 ^ bits :=
    ⟨word * n - k * 2 ^ bits, by omega⟩
  have hbits : excess < 2 ^ bits := by omega
  obtain ⟨hdiv, hmod⟩ : word * n / 2 ^ bits = k ∧ word * n % 2 ^ bits = excess := by
    rw [hexcess, Nat.add_mul_div_right _ _ (Nat.two_pow_pos bits), Nat.add_mul_mod_self_right,
      Nat.div_eq_of_lt hbits, Nat.mod_eq_of_lt hbits, Nat.zero_add]
    exact ⟨rfl, rfl⟩
  refine ⟨word, ?_, ?_⟩
  · have hle : (k + 1) * 2 ^ bits ≤ n * 2 ^ bits := Nat.mul_le_mul_right _ hk
    rw [Nat.succ_mul] at hle
    exact Nat.lt_of_mul_lt_mul_right (a := n) (by rw [Nat.mul_comm (2 ^ bits)]; omega)
  · have hzone : n ≤ n * 2 ^ (bits - (n.log2 + 1)) := Nat.le_mul_of_pos_right n (Nat.two_pow_pos _)
    rw [accept?, Nat.pow_eq, Nat.pow_eq, hmod, hdiv]
    exact if_pos (by omega)

/-- What a word of the stream stands for where words of `bits` bits are taken. -/
abbrev accepted? (n bits i : Nat) (d : Draws) : Option Nat :=
  accept? n bits ((d.word i).toNat % Nat.pow 2 bits)

theorem belowWithin_succ (n bits fuel : Nat) (d : Draws) :
    belowWithin n bits (fuel + 1) d = match d.accepted? n bits 0 with
      | some k => (k, d.drop 1)
      | none => belowWithin n bits fuel d.next.2 := rfl

/-- The words are drawn up to the first that is accepted. -/
theorem belowWithin_of_accepted {n bits fuel count k : Nat} {d : Draws} (hfuel : count < fuel)
    (hrefused : ∀ i < count, d.accepted? n bits i = none)
    (haccepted : d.accepted? n bits count = some k) :
    belowWithin n bits fuel d = (k, d.drop (count + 1)) := by
  obtain ⟨fuel, rfl⟩ := Nat.exists_eq_add_one.mpr (Nat.zero_lt_of_lt hfuel)
  induction count generalizing fuel d with
  | zero => rw [belowWithin_succ, haccepted]
  | succ count ih =>
    have hrest : count < fuel := Nat.lt_of_succ_lt_succ hfuel
    obtain ⟨fuel, rfl⟩ := Nat.exists_eq_add_one.mpr (Nat.zero_lt_of_lt hrest)
    rw [belowWithin_succ, hrefused 0 (Nat.succ_pos _)]
    exact ih (fun i hi ↦ hrefused (i + 1) (Nat.succ_lt_succ hi)) haccepted fuel hrest

/-- Sampling stops on every stream, at the first word that is accepted. -/
theorem below_spec (n bits : Nat) (d : Draws) :
    ∃ count, (∀ i < count, d.accepted? n bits i = none) ∧
      d.accepted? n bits count = some (d.below n bits).1 ∧
      (d.below n bits).2 = d.drop (count + 1) := by
  obtain ⟨place, hplace, hword⟩ := d.exists_word_eq_zero
  have hsome : (d.accepted? n bits place).isSome := by
    rw [accepted?, hword]
    simp [accept?_zero]
  have hstops : ∃ count, (d.accepted? n bits count).isSome := ⟨place, hsome⟩
  obtain ⟨k, hk⟩ := Option.isSome_iff_exists.mp (Nat.find_spec hstops)
  have hrefused : ∀ i < Nat.find hstops, d.accepted? n bits i = none := fun i hi ↦
    Option.not_isSome_iff_eq_none.mp (Nat.find_min hstops hi)
  have hbelow : d.below n bits = (k, d.drop (Nat.find hstops + 1)) :=
    belowWithin_of_accepted ((Nat.find_min' hstops hsome).trans_lt hplace) hrefused hk
  rw [hbelow]
  exact ⟨Nat.find hstops, hrefused, hk, rfl⟩

theorem below_lt {n : Nat} (hn : 0 < n) (bits : Nat) (d : Draws) : (d.below n bits).1 < n := by
  obtain ⟨count, -, haccepted, -⟩ := d.below_spec n bits
  exact lt_of_accept? hn (Nat.mod_lt _ (Nat.two_pow_pos bits)) haccepted

/-- The stream that begins with a word. -/
def startingWith (word : Nat) : Draws := { words := [UInt64.ofNat word] }

theorem exists_below_eq {n bits k : Nat} (hk : k < n) (hn : n ≤ 2 ^ bits) (hbits : bits ≤ 64) :
    ∃ d, (below n bits d).1 = k := by
  obtain ⟨word, hword, haccept⟩ := exists_accept?_eq hk hn
  have hfits : word < UInt64.size := hword.trans_le (Nat.pow_le_pow_right (by decide) hbits)
  have hfirst : (startingWith word).accepted? n bits 0 = some k := by
    rw [accepted?, show (startingWith word).word 0 = UInt64.ofNat word from rfl,
      UInt64.toNat_ofNat_of_lt' hfits, Nat.pow_eq, Nat.mod_eq_of_lt hword, haccept]
  have hfuel : 0 < (startingWith word).words.length + UInt64.size :=
    Nat.add_pos_left Nat.one_pos UInt64.size
  have hbelow := belowWithin_of_accepted hfuel (fun _ hi ↦ absurd hi (Nat.not_lt_zero _)) hfirst
  exact ⟨startingWith word, by rw [below, hbelow]⟩

/-! ### Integers from a range and elements of a list -/

section

variable {low high : Int}

theorem between_of_lt {d rest : Draws} {k : Nat} (hsmall : (high - low + 1).toNat < UInt64.size)
    (hbelow : d.below (high - low + 1).toNat 64 = (k, rest)) :
    d.between low high = (low + k, rest) := by
  unfold between
  extract_lets size
  rw [if_pos hsmall, hbelow]

/-- A range of as many integers as there are words takes each word, but for its sign. -/
theorem between_of_le (hlarge : UInt64.size ≤ (high - low + 1).toNat) (d : Draws) :
    d.between low high = (low + (d.next.1.toNat + Nat.pow 2 63) % UInt64.size, d.next.2) := by
  unfold between
  extract_lets size
  rw [if_neg (Nat.not_lt.mpr hlarge)]

/-- An integer is drawn from its range. -/
theorem between_mem (hle : low ≤ high) (hsize : high - low < UInt64.size) (d : Draws) :
    low ≤ (d.between low high).1 ∧ (d.between low high).1 ≤ high := by
  rcases Nat.lt_or_ge (high - low + 1).toNat UInt64.size with hsmall | hlarge
  · rcases hdrawn : d.below (high - low + 1).toNat 64 with ⟨k, rest⟩
    have hbelow : k < (high - low + 1).toNat := by
      simpa [hdrawn] using below_lt (n := (high - low + 1).toNat) (by omega) 64 d
    rw [between_of_lt hsmall hdrawn]
    dsimp only
    omega
  · have hsize_pos : (0 : Int) < UInt64.size := by decide
    have hnonneg := Int.emod_nonneg (d.next.1.toNat + Nat.pow 2 63) (Int.ne_of_gt hsize_pos)
    have hlt := Int.emod_lt_of_pos (d.next.1.toNat + Nat.pow 2 63) hsize_pos
    rw [between_of_le hlarge]
    dsimp only
    omega

/-- Each integer of a range is drawn from it. -/
theorem exists_between_eq {v : Int} (hlow : low ≤ v) (hhigh : v ≤ high)
    (hsize : high - low < UInt64.size) : ∃ d, (between low high d).1 = v := by
  obtain ⟨k, rfl⟩ := Int.le.dest hlow
  rcases Nat.lt_or_ge (high - low + 1).toNat UInt64.size with hsmall | hlarge
  · have hk : k < (high - low + 1).toNat := by omega
    have hfits : (high - low + 1).toNat ≤ 2 ^ 64 := hsmall.le
    obtain ⟨d, hd⟩ := exists_below_eq hk hfits le_rfl
    rcases hdrawn : d.below (high - low + 1).toNat 64 with ⟨k', rest⟩
    rw [hdrawn] at hd
    exact ⟨d, by rw [between_of_lt hsmall hdrawn, ← hd]⟩
  · have hk : k < UInt64.size := by omega
    let word := (k + 2 ^ 63) % UInt64.size
    have hword : word < UInt64.size := Nat.mod_lt _ (by decide)
    have hshift : (word + 2 ^ 63) % UInt64.size = k := by
      rw [Nat.mod_add_mod, Nat.add_assoc, show 2 ^ 63 + 2 ^ 63 = UInt64.size from rfl,
        Nat.add_mod_right, Nat.mod_eq_of_lt hk]
    have hnext : (startingWith word).next.1.toNat = word := UInt64.toNat_ofNat_of_lt' hword
    refine ⟨startingWith word, ?_⟩
    rw [between_of_le hlarge, hnext, Nat.pow_eq]
    exact congrArg (low + ·) (by exact_mod_cast hshift)

end

variable {α : Type} {items : List α}

theorem le_two_pow_indexBits {n : Nat} (hn : n < UInt64.size) :
    n ≤ 2 ^ indexBits n ∧ indexBits n ≤ 64 := by
  unfold indexBits
  split_ifs with hsmall
  · exact ⟨Nat.le_of_lt hsmall, by decide⟩
  · exact ⟨Nat.le_of_lt hn, le_rfl⟩

theorem choose?_of_ne_nil (hne : items ≠ []) {d rest : Draws} {k : Nat}
    (hbelow : d.below items.length (indexBits items.length) = (k, rest)) :
    d.choose? items = (items[k]?, rest) := by
  unfold choose?
  rw [if_neg (by simpa using hne), hbelow]

/-- An element of a list is drawn, if there is one. -/
theorem choose?_mem (hne : items ≠ []) (d : Draws) :
    ∃ item ∈ items, (d.choose? items).1 = some item := by
  rcases hdrawn : d.below items.length (indexBits items.length) with ⟨k, rest⟩
  have hk : k < items.length := by
    simpa [hdrawn] using below_lt (List.length_pos_of_ne_nil hne) (indexBits items.length) d
  exact ⟨items[k], List.getElem_mem hk,
    by rw [choose?_of_ne_nil hne hdrawn, List.getElem?_eq_getElem hk]⟩

/-- Each element of a list is drawn from it. -/
theorem exists_choose?_eq {item : α} (hitem : item ∈ items) (hsize : items.length < UInt64.size) :
    ∃ d, (choose? items d).1 = some item := by
  obtain ⟨k, hk, rfl⟩ := List.getElem_of_mem hitem
  obtain ⟨hbits, hword⟩ := le_two_pow_indexBits hsize
  obtain ⟨d, hd⟩ := exists_below_eq hk hbits hword
  rcases hdrawn : d.below items.length (indexBits items.length) with ⟨k', rest⟩
  obtain rfl : k' = k := by simpa [hdrawn] using hd
  have hne : items ≠ [] := List.ne_nil_of_mem hitem
  exact ⟨d, by rw [choose?_of_ne_nil hne hdrawn, List.getElem?_eq_getElem hk]⟩

end Draws

namespace Placeholder

open Text

/-! ### Random placeholders -/

/-- Whether a text between braces expands to an output for some randomness. -/
def CanGive (ctx : TemplateContext) (s out : List Char) : Prop :=
  ∃ d, (builtin.expand ctx (Template.asking s) d).1 = out

theorem options_eq_splitOn (s : List Char) : options s = s.splitOn '|' := by
  induction s with
  | nil => rw [List.splitOn_nil, options]
  | cons c s ih =>
    obtain ⟨o, os, hos⟩ := List.exists_cons_of_ne_nil (List.splitOnP_ne_nil (· == '|') s)
    have hrest : s.splitOn '|' = o :: os := hos
    rw [List.splitOn_cons_eq_if_modifyHead, options, ih, hrest]
    simp

variable {ctx : TemplateContext} {parts : Parts}

theorem rng_of_some {a b n : Int} {d rest : Draws} (ha : integer? (parts.part 1) = some a)
    (hb : integer? (parts.part 2) = some b)
    (hdrawn : d.between (min a b) (max a b) = (n, rest)) :
    rng ctx parts d = ((toString n).toList, rest) := by
  rw [rng, ha, hb]
  dsimp only
  rw [hdrawn]

/-- Bounds that are no integers of 64 bits are written back, and nothing is drawn. -/
theorem rng_of_none (hnone : integer? (parts.part 1) = none ∨ integer? (parts.part 2) = none)
    (d : Draws) :
    rng ctx parts d =
      ("Invalid range: ".toList ++ parts.part 1 ++ [','] ++ parts.part 2, d) := by
  rw [rng]
  rcases hnone with hnone | hnone <;> rw [hnone]
  cases integer? (parts.part 1) <;> rfl

/-- Two integers of 64 bits are the bounds of a range that draws cover. -/
theorem exists_rng_iff {a b : Int} (ha : integer? (parts.part 1) = some a)
    (hb : integer? (parts.part 2) = some b) (out : List Char) :
    (∃ d, (rng ctx parts d).1 = out) ↔
      ∃ v : Int, min a b ≤ v ∧ v ≤ max a b ∧ out = (toString v).toList := by
  have hsize : max a b - min a b < UInt64.size := by
    have ha := integer?_bounds ha
    have hb := integer?_bounds hb
    rw [show (UInt64.size : Int) = 2 ^ 64 from rfl]
    omega
  constructor
  · rintro ⟨d, rfl⟩
    rcases hdrawn : d.between (min a b) (max a b) with ⟨v, rest⟩
    have hv := Draws.between_mem min_le_max hsize d
    rw [hdrawn] at hv
    exact ⟨v, hv.1, hv.2, by rw [rng_of_some ha hb hdrawn]⟩
  · rintro ⟨v, hlow, hhigh, rfl⟩
    obtain ⟨d, hd⟩ := Draws.exists_between_eq hlow hhigh hsize
    rcases hdrawn : d.between (min a b) (max a b) with ⟨v', rest⟩
    rw [hdrawn] at hd
    exact ⟨d, by rw [rng_of_some ha hb hdrawn, ← hd]⟩

theorem choice_mem (d : Draws) : (choice ctx parts d).1 ∈ (parts.part 1).splitOn '|' := by
  obtain ⟨option, hmem, hoption⟩ := Draws.choose?_mem (List.splitOnP_ne_nil (· == '|') _) d
  have hchoice : (choice ctx parts d).1 = option := by
    rw [choice, options_eq_splitOn]
    exact congrArg (·.getD []) hoption
  exact hchoice ▸ hmem

theorem exists_choice_eq {option : List Char} (hmem : option ∈ (parts.part 1).splitOn '|')
    (hsize : ((parts.part 1).splitOn '|').length < UInt64.size) :
    ∃ d, (choice ctx parts d).1 = option := by
  obtain ⟨d, hd⟩ := Draws.exists_choose?_eq hmem hsize
  refine ⟨d, ?_⟩
  rw [choice, options_eq_splitOn]
  exact congrArg (·.getD []) hd

section

variable {members : List String}
  (hmembers : ctx.members? (String.ofList (trim (parts.part 1))) = some members)

include hmembers

theorem randomEventMember_of_some {member : String} {d : Draws}
    (hdrawn : (d.choose? members).1 = some member) :
    (randomEventMember ctx parts d).1 = member.toList := by
  rcases hdrawn' : d.choose? members with ⟨member?, rest⟩
  rw [hdrawn'] at hdrawn
  obtain rfl : member? = some member := hdrawn
  rw [randomEventMember, hmembers]
  dsimp only
  rw [hdrawn']

theorem randomEventMember_mem (hne : members ≠ []) (d : Draws) :
    ∃ member ∈ members, (randomEventMember ctx parts d).1 = member.toList := by
  obtain ⟨member, hmem, hdrawn⟩ := Draws.choose?_mem hne d
  exact ⟨member, hmem, randomEventMember_of_some hmembers hdrawn⟩

theorem exists_randomEventMember_eq {member : String} (hmem : member ∈ members)
    (hsize : members.length < UInt64.size) :
    ∃ d, (randomEventMember ctx parts d).1 = member.toList := by
  obtain ⟨d, hdrawn⟩ := Draws.exists_choose?_eq hmem hsize
  exact ⟨d, randomEventMember_of_some hmembers hdrawn⟩

end

/-- What the random placeholders can give. The placeholder `rng` with two bounds that are integers
of 64 bits, in either order, gives the integers from the smaller to the greater, all of them and no
others; where a bound is none of these it gives a message with both bounds and draws nothing.
`choice` gives the options between the bars, and `randomEventMember` the members of the event if
there are any: nothing else whatever the randomness, and each of them for some, if there are fewer
than a machine word counts. -/
theorem random_placeholder_spans (ctx : TemplateContext) (s : List Char) (parts : Parts) :
    ((Shape.pair "rng" true).parts? s = some parts →
      match integer? (parts.part 1), integer? (parts.part 2) with
      | some a, some b => ∀ out, CanGive ctx s out ↔
          ∃ v : Int, min a b ≤ v ∧ v ≤ max a b ∧ out = (toString v).toList
      | _, _ => ∀ d, builtin.expand ctx (Template.asking s) d =
          ("Invalid range: ".toList ++ parts.part 1 ++ [','] ++ parts.part 2, d)) ∧
    ((Shape.text "choice" false).parts? s = some parts →
      (∀ out, CanGive ctx s out → out ∈ (parts.part 1).splitOn '|') ∧
        (((parts.part 1).splitOn '|').length < UInt64.size →
          ∀ option ∈ (parts.part 1).splitOn '|', CanGive ctx s option)) ∧
    ((Shape.text "randomEventMember" true).parts? s = some parts →
      ∀ members, ctx.members? (String.ofList (trim (parts.part 1))) = some members →
        members ≠ [] →
          (∀ out, CanGive ctx s out → ∃ member ∈ members, out = member.toList) ∧
            (members.length < UInt64.size →
              ∀ member ∈ members, CanGive ctx s member.toList)) := by
  have hexpand {shape : Shape} {handler : Handler}
      (hdefn : ∃ defn ∈ builtin, defn.shape = shape ∧ defn.handler = handler)
      (hparts : shape.parts? s = some parts) (d : Draws) :
      builtin.expand ctx (Template.asking s) d = handler ctx parts d := by
    obtain ⟨defn, hmem, rfl, rfl⟩ := hdefn
    exact expand_asking hmem hparts ctx d
  have hrng : ∃ defn ∈ builtin, defn.shape = .pair "rng" true ∧ defn.handler = rng :=
    ⟨builtin[1], List.getElem_mem _, rfl, rfl⟩
  have hchoice : ∃ defn ∈ builtin, defn.shape = .text "choice" false ∧ defn.handler = choice :=
    ⟨builtin[0], List.getElem_mem _, rfl, rfl⟩
  have hmember : ∃ defn ∈ builtin, defn.shape = .text "randomEventMember" true ∧
      defn.handler = randomEventMember := ⟨builtin[8], List.getElem_mem _, rfl, rfl⟩
  refine ⟨fun hparts ↦ ?_, fun hparts ↦ ?_, fun hparts members hmembers hne ↦ ?_⟩
  · have hexpand := hexpand hrng hparts
    cases ha : integer? (parts.part 1) with
    | none => exact fun d ↦ (hexpand d).trans (rng_of_none (.inl ha) d)
    | some a =>
      cases hb : integer? (parts.part 2) with
      | none => exact fun d ↦ (hexpand d).trans (rng_of_none (.inr hb) d)
      | some b =>
        simp only [CanGive, hexpand]
        exact exists_rng_iff ha hb
  · simp only [CanGive, hexpand hchoice hparts]
    refine ⟨?_, fun hsize option hoption ↦ exists_choice_eq hoption hsize⟩
    rintro _ ⟨d, rfl⟩
    exact choice_mem d
  · simp only [CanGive, hexpand hmember hparts]
    refine ⟨?_, fun hsize member hmem ↦ exists_randomEventMember_eq hmembers hmem hsize⟩
    rintro _ ⟨d, rfl⟩
    exact randomEventMember_mem hmembers hne d

/-- Bounds in reverse, all integers of 64 bits, an empty option and an event. -/
theorem random_placeholder_spans_feast :
    ∃ ctx : TemplateContext, ctx.members? "feast" = some ["ann", "bob"] ∧
      (∀ out, CanGive ctx "rng 7,-3".toList out ↔
        ∃ v : Int, -3 ≤ v ∧ v ≤ 7 ∧ out = (toString v).toList) ∧
      CanGive ctx "rng -9223372036854775808,9223372036854775807".toList "-1".toList ∧
      (∀ d, builtin.expand ctx (Template.asking "rng 1,9223372036854775808".toList) d =
        ("Invalid range: 1,9223372036854775808".toList, d)) ∧
      CanGive ctx "choice a||b".toList [] ∧
      CanGive ctx "randomEventMember feast".toList "bob".toList := by
  let ctx : TemplateContext :=
    { sender := "ann", message := "", today := ⟨2024, 5, 10⟩
      members? := fun event ↦ if event = "feast" then some ["ann", "bob"] else none }
  have hmembers : ctx.members? "feast" = some ["ann", "bob"] := rfl
  refine ⟨ctx, hmembers, ?_, ?_, ?_, ?_, ?_⟩
  · exact (random_placeholder_spans ctx "rng 7,-3".toList
      [some "rng 7,-3".toList, some "7".toList, some "-3".toList]).1 (by decide +kernel)
  · exact ((random_placeholder_spans ctx "rng -9223372036854775808,9223372036854775807".toList
      [some "rng -9223372036854775808,9223372036854775807".toList,
        some "-9223372036854775808".toList, some "9223372036854775807".toList]).1
      (by decide +kernel) _).mpr ⟨-1, by decide, by decide, rfl⟩
  · exact (random_placeholder_spans ctx "rng 1,9223372036854775808".toList
      [some "rng 1,9223372036854775808".toList, some "1".toList,
        some "9223372036854775808".toList]).1 (by decide +kernel)
  · exact ((random_placeholder_spans ctx "choice a||b".toList
      [some "choice a||b".toList, some "a||b".toList]).2.1 (by decide +kernel)).2
      (by decide +kernel) _ (by decide +kernel)
  · exact ((random_placeholder_spans ctx "randomEventMember feast".toList
      [some "randomEventMember feast".toList, some "feast".toList]).2.2 (by decide +kernel)
      ["ann", "bob"] hmembers (by decide)).2 (by decide) "bob" (by decide)

end Placeholder

end Guildhall
