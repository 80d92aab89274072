import Mathlib.Data.List.Chain
import Guildhall.Pattern.Fold
import Guildhall.Text.Letters
import Guildhall.Proofs.LowerCase

/-!
Sets in normal form and case folding. The normal form of a set of characters has the same members
(`Charset.hasCode_normalize`). The runs of the folding are in order and no image of one is in
another, so that folding twice is folding once (`foldCode_foldCode`), and what a pattern reads for
a character regardless of case is every character that folds to the same code point
(`Charset.hasCode_ofCodeFolded`). Folding keeps whether a character is part of a word
(`isWord_eq_of_foldCode`).
-/

set_option autoImplicit false

namespace Guildhall

namespace Pattern

open Text

/-! ### Sets in normal form -/

namespace Charset

theorem hasCode_cons (r : Nat × Nat) (s : Charset) (n : Nat) :
    Ranges.hasCode (r :: s) n = true ↔ (r.1 ≤ n ∧ n ≤ r.2) ∨ Ranges.hasCode s n = true := by
  simp [Ranges.hasCode]

theorem hasCode_joinFrom {r : Nat × Nat} {s : Charset}
    (hsorted : (r :: s).Pairwise fun a b ↦ a.1 ≤ b.1) (n : Nat) :
    Ranges.hasCode (joinFrom r s) n = true ↔ Ranges.hasCode (r :: s) n = true := by
  induction s generalizing r with
  | nil => rfl
  | cons t rest ih =>
    obtain ⟨hfirst, hrest⟩ := List.pairwise_cons.mp hsorted
    have hle : r.1 ≤ t.1 := hfirst t List.mem_cons_self
    rw [joinFrom]
    split_ifs with htouch
    · -- Ranges that touch cover together what the range from end to end covers.
      have hjoined : ((r.1, max r.2 t.2) :: rest).Pairwise fun a b ↦ a.1 ≤ b.1 :=
        List.pairwise_cons.mpr
          ⟨fun q hq ↦ hfirst q (List.mem_cons_of_mem _ hq), hrest.of_cons⟩
      rw [ih hjoined, hasCode_cons, hasCode_cons, hasCode_cons, ← or_assoc]
      refine or_congr_left ?_
      dsimp only
      omega
    · rw [hasCode_cons, ih hrest, hasCode_cons r]

/-- The normal form of a set has the same members. -/
theorem hasCode_normalize (s : Charset) (n : Nat) :
    Ranges.hasCode s.normalize n = true ↔ Ranges.hasCode s n = true := by
  have hperm := List.mergeSort_perm s fun a b ↦ decide (a.1 ≤ b.1)
  have hsorted : (s.mergeSort fun a b ↦ a.1 ≤ b.1).Pairwise
      fun a b ↦ decide (a.1 ≤ b.1) = true := by
    refine List.pairwise_mergeSort (fun a b c hab hbc ↦ ?_) (fun a b ↦ ?_) s
    · exact decide_eq_true (Nat.le_trans (of_decide_eq_true hab) (of_decide_eq_true hbc))
    · simpa using Nat.le_total a.1 b.1
  have hsame : Ranges.hasCode (s.mergeSort fun a b ↦ a.1 ≤ b.1) n = true ↔
      Ranges.hasCode s n = true := by
    simp only [Ranges.hasCode_iff, hperm.mem_iff]
  rw [← hsame, normalize]
  cases hranges : s.mergeSort fun a b ↦ a.1 ≤ b.1 with
  | nil => rfl
  | cons r rest =>
    rw [hranges] at hsorted
    exact hasCode_joinFrom (by simpa using hsorted) n

end Charset

/-! ### The runs of the folding -/

theorem foldRuns_bounds : ∀ r ∈ foldRuns, r.first ≤ r.last ∧ 0 < r.step := by decide +kernel

theorem foldRuns_isChain : foldRuns.IsChain fun r q ↦ r.last < q.first := by decide +kernel

/-- Whether the images of a run are all after another run or all before it. -/
def isApart (r q : CaseRun) : Bool :=
  Nat.blt q.last r.target || Nat.blt (r.target + (r.last - r.first)) q.first

theorem isApart_or_isPast_foldRuns :
    (foldRuns.all fun r ↦ foldRuns.all fun q ↦ isApart r q || r.isPast q) = true := by
  decide +kernel

/-- No image of a run of the folding is in one. -/
theorem isPast_foldRuns {r q : CaseRun} (hr : r ∈ foldRuns) (hq : q ∈ foldRuns) :
    r.isPast q = true := by
  have h := List.all_eq_true.mp (List.all_eq_true.mp isApart_or_isPast_foldRuns r hr) q hq
  rcases Bool.or_eq_true _ _ |>.mp h with hapart | hpast
  · -- These are the first two of the ways to pass a run, tested by themselves because they are
    -- quick and nearly always enough.
    rw [isApart, Bool.or_eq_true, Nat.blt_eq, Nat.blt_eq] at hapart
    rcases hapart with hafter | hbefore
    · simp [CaseRun.isPast, hafter]
    · simp [CaseRun.isPast, hbefore]
  · exact hpast

/-- Of runs that ascend no two hold one code point. -/
theorem pairwise_of_isChain {runs : List CaseRun}
    (hchain : runs.IsChain fun r q ↦ r.last < q.first)
    (hbounds : ∀ r ∈ runs, r.first ≤ r.last) :
    runs.Pairwise fun r q ↦ r.last < q.first := by
  induction runs with
  | nil => exact List.Pairwise.nil
  | cons r runs ih =>
    have hrest := ih hchain.tail fun q hq ↦ hbounds q (List.mem_cons_of_mem _ hq)
    refine List.pairwise_cons.mpr ⟨?_, hrest⟩
    cases runs with
    | nil => simp
    | cons t runs =>
      have hnext : r.last < t.first := (List.isChain_cons_cons.mp hchain).1
      have hlast : t.first ≤ t.last := hbounds t (by simp)
      intro q hq
      rcases List.mem_cons.mp hq with rfl | hq
      · exact hnext
      · exact (hnext.trans_le hlast).trans ((List.pairwise_cons.mp hrest).1 q hq)

theorem mapRun_eq_some_iff {runs : List CaseRun}
    (hruns : runs.Pairwise fun r q ↦ r.last < q.first) {n m : Nat} :
    mapRun runs n = some m ↔ ∃ r ∈ runs, r.contains n = true ∧ m = r.apply n := by
  induction runs with
  | nil => simp [mapRun]
  | cons r runs ih =>
    obtain ⟨hfirst, hrest⟩ := List.pairwise_cons.mp hruns
    by_cases hn : r.contains n = true
    · have hother : ∀ q ∈ runs, q.contains n = false := by
        intro q hq
        rw [← Bool.not_eq_true]
        intro hcontains
        have hlow := ((CaseRun.contains_iff q n).mp hcontains).1
        have hhigh := ((CaseRun.contains_iff r n).mp hn).2.1
        exact absurd (hfirst q hq) (by omega)
      have hfound : mapRun (r :: runs) n = some (r.apply n) := by simp [mapRun, hn]
      rw [hfound, Option.some_inj, eq_comm]
      constructor
      · exact fun h ↦ ⟨r, List.mem_cons_self, hn, h⟩
      · rintro ⟨q, hq, hcontains, rfl⟩
        rcases List.mem_cons.mp hq with rfl | hq
        · rfl
        · simp [hother q hq] at hcontains
    · have hskip : mapRun (r :: runs) n = mapRun runs n := by simp [mapRun, hn]
      rw [hskip, ih hrest]
      simp [hn]

theorem mem_foldPairsOf {r : CaseRun} (hends : r.first ≤ r.last) (hstep : 0 < r.step)
    {p : Nat × Nat} : p ∈ foldPairsOf r ↔ r.contains p.1 = true ∧ p.2 = r.apply p.1 := by
  simp only [foldPairsOf, List.mem_map, List.mem_range, CaseRun.contains_iff, CaseRun.apply,
    Nat.lt_succ_iff, Nat.le_div_iff_mul_le hstep, Nat.mul_comm _ r.step]
  constructor
  · rintro ⟨i, hi, rfl⟩
    refine ⟨⟨by omega, by dsimp only; omega, ?_⟩, by dsimp only; omega⟩
    rw [Nat.add_sub_cancel_left]
    exact Nat.dvd_mul_right ..
  · rintro ⟨⟨hlow, hhigh, i, hi⟩, himage⟩
    exact ⟨i, by omega, Prod.ext (by dsimp only; omega) (by dsimp only; omega)⟩

/-- The pairs are what the folding makes of the code points that it changes. -/
theorem mem_foldPairs {p : Nat × Nat} : p ∈ foldPairs ↔ mapRun foldRuns p.1 = some p.2 := by
  have hruns := pairwise_of_isChain foldRuns_isChain fun r hr ↦ (foldRuns_bounds r hr).1
  rw [mapRun_eq_some_iff hruns, foldPairs, List.mem_flatMap]
  refine exists_congr fun r ↦ and_congr_right fun hr ↦ ?_
  exact mem_foldPairsOf (foldRuns_bounds r hr).1 (foldRuns_bounds r hr).2

/-! ### Folded code points -/

/-- Folding twice is folding once. -/
theorem foldCode_foldCode (n : Nat) : foldCode (foldCode n) = foldCode n := by
  cases hrun : mapRun foldRuns n with
  | none => simp only [foldCode, hrun, Option.getD_none]
  | some m =>
    obtain ⟨r, hfind, rfl⟩ := Option.map_eq_some_iff.mp hrun
    have hr := List.mem_of_find?_eq_some hfind
    have hcontains := List.find?_some hfind
    have hkept : mapRun foldRuns (r.apply n) = none := by
      rw [mapRun, Option.map_eq_none_iff, List.find?_eq_none]
      intro q hq
      rw [CaseRun.contains_apply (isPast_foldRuns hr hq) hcontains]
      exact Bool.false_ne_true
    simp only [foldCode, hrun, hkept, Option.getD_none, Option.getD_some]

theorem foldCode_eq_iff {k code : Nat} (hcode : foldCode code = code) :
    foldCode k = code ↔ k = code ∨ (k, code) ∈ foldPairs := by
  rw [mem_foldPairs]
  constructor
  · intro hfold
    cases hrun : mapRun foldRuns k with
    | none =>
      rw [foldCode, hrun, Option.getD_none] at hfold
      exact Or.inl hfold
    | some m =>
      rw [foldCode, hrun, Option.getD_some] at hfold
      exact Or.inr (by rw [hfold])
  · rintro (rfl | hpair)
    · exact hcode
    · rw [foldCode, hpair, Option.getD_some]

/-- What a pattern reads for a code point regardless of case is whatever folds to the same one. -/
theorem Charset.hasCode_ofCodeFolded (n k : Nat) :
    Ranges.hasCode (ofCodeFolded n) k = true ↔ foldCode k = foldCode n := by
  rw [ofCodeFolded, hasCode_normalize, hasCode_cons, foldCode_eq_iff (foldCode_foldCode n)]
  refine or_congr ⟨fun h ↦ by dsimp only at h; omega, fun h ↦ by dsimp only; omega⟩ ?_
  rw [Ranges.hasCode_iff]
  constructor
  · rintro ⟨_, hmem, hlow, hhigh⟩
    obtain ⟨p, hp, hrange⟩ := List.mem_filterMap.mp hmem
    split_ifs at hrange with hcode
    obtain rfl := Option.some.inj hrange
    obtain rfl : p.1 = k := Nat.le_antisymm hlow hhigh
    rwa [← beq_iff_eq.mp hcode]
  · intro hp
    exact ⟨(k, k), List.mem_filterMap.mpr ⟨_, hp, by simp⟩, Nat.le_refl k, Nat.le_refl k⟩

/-! ### Words -/

/-- Whether one range of word characters holds all code points between two. -/
def isWithinWords (first last : Nat) : Bool :=
  wordCharacters.any fun q ↦ Nat.ble q.1 first && Nat.ble last q.2

/-- Whether a run takes word characters to word characters: both lie in one range each, or the
run passes over the code points that are none. -/
def ofWords (r : CaseRun) : Bool :=
  isWithinWords r.target (r.target + (r.last - r.first)) &&
    (isWithinWords r.first r.last || (foldPairsOf r).all fun p ↦ isWithinWords p.1 p.1)

theorem ofWords_foldRuns : foldRuns.all ofWords = true := by decide +kernel

theorem hasCode_of_isWithinWords {first last n : Nat} (h : isWithinWords first last = true)
    (hlow : first ≤ n) (hhigh : n ≤ last) : Ranges.hasCode wordCharacters n = true := by
  obtain ⟨q, hq, hends⟩ := List.any_eq_true.mp h
  rw [Bool.and_eq_true, Nat.ble_eq, Nat.ble_eq] at hends
  exact (Ranges.hasCode_iff _ n).mpr ⟨q, hq, hends.1.trans hlow, hhigh.trans hends.2⟩

theorem hasCode_of_foldPairs {p : Nat × Nat} (hp : p ∈ foldPairs) :
    Ranges.hasCode wordCharacters p.1 = true ∧ Ranges.hasCode wordCharacters p.2 = true := by
  obtain ⟨r, hr, hp⟩ := List.mem_flatMap.mp hp
  have hwords := List.all_eq_true.mp ofWords_foldRuns r hr
  rw [ofWords, Bool.and_eq_true, Bool.or_eq_true, List.all_eq_true] at hwords
  obtain ⟨hends, hstep⟩ := foldRuns_bounds r hr
  obtain ⟨hcontains, himage⟩ := (mem_foldPairsOf hends hstep).mp hp
  obtain ⟨hlow, hhigh, -⟩ := (CaseRun.contains_iff r p.1).mp hcontains
  rw [CaseRun.apply] at himage
  refine ⟨?_, hasCode_of_isWithinWords hwords.1 (by omega) (by omega)⟩
  rcases hwords.2 with hwhole | heach
  · exact hasCode_of_isWithinWords hwhole hlow hhigh
  · exact hasCode_of_isWithinWords (heach p hp) (Nat.le_refl _) (Nat.le_refl _)

theorem hasCode_foldCode (n : Nat) :
    Ranges.hasCode wordCharacters (foldCode n) = Ranges.hasCode wordCharacters n := by
  cases hrun : mapRun foldRuns n with
  | none => rw [foldCode, hrun, Option.getD_none]
  | some m =>
    have hwords := hasCode_of_foldPairs (mem_foldPairs (p := (n, m)) |>.mpr hrun)
    rw [foldCode, hrun, Option.getD_some, hwords.1, hwords.2]

/-- Characters that match regardless of case are parts of words alike. -/
theorem isWord_eq_of_foldCode {c d : Char} (h : foldCode c.toNat = foldCode d.toNat) :
    isWord c = isWord d := by
  rw [isWord, Ranges.has, ← hasCode_foldCode, h, hasCode_foldCode]
  rfl

end Pattern

end Guildhall
