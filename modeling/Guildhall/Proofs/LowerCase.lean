import Guildhall.Proofs.Words

/-!
Texts in lower case. No image of a run of the case mapping is in a run itself
(`CaseRun.contains_apply`), so that every character of a text in lower case is its own lower case
wherever it stands (`isLower_of_mem_toLower`), and lower case changes nothing of such a text
(`toLower_toLower`). The normal form of a trigger is such a text, and it is the same for triggers
that differ in the case of ASCII letters (`normalizeTrigger_toAsciiLower`).
-/

set_option autoImplicit false

namespace Guildhall

namespace Text

/-- A character that lower case leaves as it is, wherever it stands. -/
def IsLower (c : Char) : Prop := lowerChar c = [c] ∧ c ≠ 'Σ'

instance : DecidablePred IsLower := fun c ↦
  inferInstanceAs (Decidable (lowerChar c = [c] ∧ c ≠ 'Σ'))

/-- Whether no image of the run `r` is in the run `q`: the images are all before it or all after
it, or the run passes over them, being of every other code. -/
def CaseRun.isPast (r q : CaseRun) : Bool :=
  q.last < r.target || r.target + (r.last - r.first) < q.first ||
    ((r.first == r.last || r.step % 2 == 0) && q.step % 2 == 0 && (r.target + q.first) % 2 == 1)

theorem isPast_lowerRuns : (lowerRuns.all fun r ↦ lowerRuns.all r.isPast) = true := by
  decide +kernel

/-- Whether no image of a run is one of the two codes that lower case treats apart. -/
def CaseRun.isOrdinary (r : CaseRun) : Bool :=
  [0x130, 0x3A3].all fun code ↦ code < r.target || r.target + (r.last - r.first) < code

theorem isOrdinary_lowerRuns : lowerRuns.all CaseRun.isOrdinary = true := by decide

theorem CaseRun.contains_iff (r : CaseRun) (n : Nat) :
    r.contains n = true ↔ r.first ≤ n ∧ n ≤ r.last ∧ r.step ∣ n - r.first := by
  simp only [CaseRun.contains, Bool.and_eq_true, decide_eq_true_eq, beq_iff_eq,
    Nat.dvd_iff_mod_eq_zero, and_assoc]

theorem CaseRun.contains_apply {r q : CaseRun} (hpast : r.isPast q = true) {n : Nat}
    (hn : r.contains n = true) : q.contains (r.apply n) = false := by
  rw [← Bool.not_eq_true]
  intro himage
  rw [CaseRun.contains_iff] at hn himage
  obtain ⟨hlow, hhigh, hstep⟩ := hn
  obtain ⟨hlowImage, hhighImage, hstepImage⟩ := himage
  simp only [CaseRun.apply] at hlowImage hhighImage hstepImage
  simp only [CaseRun.isPast, Bool.or_eq_true, Bool.and_eq_true, decide_eq_true_eq,
    beq_iff_eq] at hpast
  rcases hpast with (hbefore | hafter) | ⟨⟨hr, hq⟩, hodd⟩
  · omega
  · omega
  -- Both are of every other code, the codes of the one even and those of the other odd.
  have himageEven : 2 ∣ r.target + (n - r.first) - q.first :=
    Nat.dvd_trans (Nat.dvd_of_mod_eq_zero hq) hstepImage
  rcases hr with hone | heven
  · omega
  · have hnEven : 2 ∣ n - r.first := Nat.dvd_trans (Nat.dvd_of_mod_eq_zero heven) hstep
    omega

theorem isLower_of_code {c : Char} (hrun : mapRun lowerRuns c.toNat = none)
    (hdotted : c.toNat ≠ 0x130) (hsigma : c.toNat ≠ 0x3A3) : IsLower c := by
  refine ⟨?_, fun heq ↦ hsigma (by rw [heq]; rfl)⟩
  have hne : c ≠ 'İ' := fun heq ↦ hdotted (by rw [heq]; rfl)
  rw [lowerChar, if_neg hne, hrun, Option.map_none, Option.getD_none]

theorem isLower_of_mapRun {n m : Nat} (h : mapRun lowerRuns n = some m) :
    IsLower (Char.ofNat m) := by
  obtain ⟨r, hfind, rfl⟩ := Option.map_eq_some_iff.mp h
  have hr := List.mem_of_find?_eq_some hfind
  have hcontains := List.find?_some hfind
  rcases toNat_ofNat_eq_or (r.apply n) with hcode | hzero
  · have hordinary := List.all_eq_true.mp isOrdinary_lowerRuns r hr
    simp only [CaseRun.isOrdinary, List.all_cons, List.all_nil, Bool.and_eq_true, Bool.or_eq_true,
      decide_eq_true_eq, and_true] at hordinary
    have hbounds := (CaseRun.contains_iff r n).mp hcontains
    have happly : r.apply n = r.target + (n - r.first) := rfl
    refine isLower_of_code ?_ (by rw [hcode]; omega) (by rw [hcode]; omega)
    rw [hcode, mapRun, Option.map_eq_none_iff, List.find?_eq_none]
    intro q hq
    have hpast := List.all_eq_true.mp (List.all_eq_true.mp isPast_lowerRuns r hr) q hq
    rw [CaseRun.contains_apply hpast hcontains]
    exact Bool.false_ne_true
  · rw [hzero]
    decide

theorem isLower_of_mem_lowerChar {c d : Char} (hc : c ≠ 'Σ') (hd : d ∈ lowerChar c) :
    IsLower d := by
  unfold lowerChar at hd
  split_ifs at hd with hdotted
  · have hpair : d = 'i' ∨ d = '\u0307' := by simpa using hd
    rcases hpair with rfl | rfl <;> decide
  · rw [List.mem_singleton] at hd
    cases hrun : mapRun lowerRuns c.toNat with
    | none =>
      have hsame : d = c := by simpa [hrun] using hd
      subst hsame
      exact ⟨by rw [lowerChar, if_neg hdotted, hrun]; rfl, hc⟩
    | some m =>
      rw [hrun] at hd
      rw [hd]
      exact isLower_of_mapRun hrun

theorem isLower_of_mem_toLowerAfter {before s : List Char} {d : Char}
    (hd : d ∈ toLowerAfter before s) : IsLower d := by
  induction s generalizing before with
  | nil => simp [toLowerAfter] at hd
  | cons c s ih =>
    rw [toLowerAfter, List.mem_append] at hd
    rcases hd with hd | hd
    · split_ifs at hd with hsigma hfinal
      · rw [List.mem_singleton.mp hd]
        decide
      · rw [List.mem_singleton.mp hd]
        decide
      · exact isLower_of_mem_lowerChar hsigma hd
    · exact ih hd

theorem isLower_of_mem_toLower {s : List Char} {d : Char} (hd : d ∈ toLower s) : IsLower d :=
  isLower_of_mem_toLowerAfter hd

theorem toLowerAfter_eq_self {s : List Char} (hs : ∀ c ∈ s, IsLower c) (before : List Char) :
    toLowerAfter before s = s := by
  induction s generalizing before with
  | nil => rfl
  | cons c s ih =>
    obtain ⟨⟨hlower, hsigma⟩, hs⟩ := List.forall_mem_cons.mp hs
    rw [toLowerAfter, if_neg hsigma, hlower, ih hs]
    rfl

/-- A text in lower case is its own lower case. -/
theorem toLower_toLower (s : List Char) : toLower (toLower s) = toLower s :=
  toLowerAfter_eq_self (fun _ hc ↦ isLower_of_mem_toLower hc) []

/-! ### ASCII letters -/

/-- The characters that the lower case of ASCII letters changes. -/
def capitals : List Char := "ABCDEFGHIJKLMNOPQRSTUVWXYZ".toList

theorem toLower_eq_or_mem_capitals (c : Char) : c.toLower = c ∨ c ∈ capitals := by
  have hcodes : ∀ n ∈ List.range' 65 26, Char.ofNat n ∈ capitals := by decide
  unfold Char.toLower
  split_ifs with hcapital
  · right
    obtain ⟨hlow, hhigh⟩ := hcapital
    have hn : c.toNat ∈ List.range' 65 26 :=
      List.mem_range'_1.mpr ⟨hlow, Nat.lt_succ_of_le hhigh⟩
    exact Char.ofNat_toNat c ▸ hcodes c.toNat hn
  · exact Or.inl rfl

/-- What tells no capital of ASCII from its small letter tells no character from its lower case. -/
theorem apply_toLower {α : Type} {f : Char → α}
    (hf : capitals.map (f ∘ Char.toLower) = capitals.map f) (c : Char) : f c.toLower = f c := by
  rcases toLower_eq_or_mem_capitals c with hsame | hcapital
  · rw [hsame]
  · exact List.map_inj_left.mp hf c hcapital

/-- A small letter of ASCII is its own lower case. -/
theorem isLower_of_small {c : Char} (hlow : 0x61 ≤ c.toNat) (hhigh : c.toNat ≤ 0x7A) :
    IsLower c := by
  have haway : (lowerRuns.all (·.isAway (0x61, 0x7A))) = true := by decide
  exact isLower_of_code (mapRun_eq_none_of_isAway haway hlow hhigh) (by omega) (by omega)

/-- No letter of ASCII is ignored for casing. -/
theorem has_caseIgnorableCharacters_eq_false {c : Char}
    (hc : 0x41 ≤ c.toNat ∧ c.toNat ≤ 0x5A ∨ 0x61 ≤ c.toNat ∧ c.toNat ≤ 0x7A) :
    caseIgnorableCharacters.has c = false := by
  have hapart : (caseIgnorableCharacters.all fun range ↦
      range.2 < 0x41 || (0x5A < range.1 && range.2 < 0x61) || 0x7A < range.1) = true := by
    decide +kernel
  rw [Ranges.has, ← Bool.not_eq_true, Ranges.hasCode_iff]
  rintro ⟨range, hrange, hlow, hhigh⟩
  have hrange := List.all_eq_true.mp hapart range hrange
  simp only [Bool.or_eq_true, Bool.and_eq_true, decide_eq_true_eq] at hrange
  omega

theorem nextIsCased_toAsciiLower (s : List Char) :
    nextIsCased (toAsciiLower s) = nextIsCased s := by
  have hignored : (caseIgnorableCharacters.has ·) ∘ Char.toLower =
      (caseIgnorableCharacters.has ·) := by
    have hletters : (capitals.all fun c ↦ 0x41 ≤ c.toNat && c.toNat ≤ 0x5A &&
        0x61 ≤ c.toLower.toNat && c.toLower.toNat ≤ 0x7A) = true := by decide
    simp only [List.all_eq_true, Bool.and_eq_true, decide_eq_true_eq] at hletters
    funext c
    rcases toLower_eq_or_mem_capitals c with hsame | hcapital
    · rw [Function.comp_apply, hsame]
    · obtain ⟨⟨⟨hlow, hhigh⟩, hlow'⟩, hhigh'⟩ := hletters c hcapital
      rw [Function.comp_apply, has_caseIgnorableCharacters_eq_false (Or.inr ⟨hlow', hhigh'⟩),
        has_caseIgnorableCharacters_eq_false (Or.inl ⟨hlow, hhigh⟩)]
  have hcased : ∀ c : Char, casedCharacters.has c.toLower = casedCharacters.has c :=
    apply_toLower (by decide)
  rw [nextIsCased, toAsciiLower, List.dropWhile_map, hignored, nextIsCased]
  cases s.dropWhile (caseIgnorableCharacters.has ·) with
  | nil => rfl
  | cons c rest => exact hcased c

theorem toLowerAfter_toAsciiLower (before s : List Char) :
    toLowerAfter (toAsciiLower before) (toAsciiLower s) = toLowerAfter before s := by
  have hsigma (c : Char) : c.toLower = 'Σ' ↔ c = 'Σ' := by
    simpa using apply_toLower (f := (· == 'Σ')) (by decide) c
  have hlower : ∀ c : Char, lowerChar c.toLower = lowerChar c := apply_toLower (by decide)
  -- A final sigma is told by the characters around it, and which of them are cased stays the same.
  induction s generalizing before with
  | nil => rfl
  | cons c s ih =>
    have hrest := ih (c :: before)
    have hnext := nextIsCased_toAsciiLower s
    have hlast := nextIsCased_toAsciiLower before
    simp only [toAsciiLower, List.map_cons] at hrest hnext hlast ⊢
    simp only [toLowerAfter, hsigma, hlower, hrest, hnext, hlast]

/-- The lower case of a text does not depend on the case of its ASCII letters. -/
theorem toLower_toAsciiLower (s : List Char) : toLower (toAsciiLower s) = toLower s :=
  toLowerAfter_toAsciiLower [] s

theorem trim_toAsciiLower (s : List Char) : trim (toAsciiLower s) = toAsciiLower (trim s) := by
  have hblank : isBlank ∘ Char.toLower = isBlank := funext (apply_toLower (by decide))
  simp only [trim, trimEnd, trimStart, toAsciiLower, List.dropWhile_map, ← List.map_reverse, hblank]

end Text

/-- The normal form of a trigger is in lower case. -/
theorem toLower_normalizeTrigger (s : List Char) :
    Text.toLower (normalizeTrigger s) = normalizeTrigger s :=
  Text.toLower_toLower _

/-- The normal form of a trigger does not depend on the case of its ASCII letters. -/
theorem normalizeTrigger_toAsciiLower (s : List Char) :
    normalizeTrigger (Text.toAsciiLower s) = normalizeTrigger s := by
  have hmark : (· == '!') ∘ Char.toLower = (· == '!') :=
    funext (Text.apply_toLower (f := (· == '!')) (by decide))
  rw [normalizeTrigger, Text.trim_toAsciiLower, Text.toAsciiLower, List.dropWhile_map, hmark,
    ← Text.toAsciiLower, Text.toLower_toAsciiLower, normalizeTrigger]

end Guildhall
