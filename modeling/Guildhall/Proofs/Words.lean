import Guildhall.Action
import Mathlib.Data.List.TakeWhile

/-!
How texts are cut at blanks, and what lower case leaves of them. Trimming changes nothing of a
text whose ends are not blank (`trimStart_eq_self`, `trimEnd_eq_self`); the first word of a text
has no blank in it and begins as the trimmed text does (`isBlank_of_mem_splitFirst`,
`head?_splitFirst`), and what follows it has the other words (`words_eq`). Lower case turns no
character into a blank or into `!` and changes none of these (`eq_or_isPlain_of_mem_toLower`,
`lowerChar_of_not_isPlain`), so that a word stays a word and keeps its marks, and a text begins or
ends with a blank only where it did (`head?_toLower_eq_some_iff`, `isBlank_getLast?_toLower`). The
action string of a word begins as the word in lower case does (`head?_actionString`), never with a
space (`head?_actionString_ne_space`).
-/

set_option autoImplicit false

namespace Guildhall

namespace Text

/-- What stands after a run of characters is the text without the run. -/
theorem drop_length_takeWhile (p : Char → Bool) (s : List Char) :
    s.drop (s.takeWhile p).length = s.dropWhile p :=
  calc s.drop (s.takeWhile p).length
      = (s.takeWhile p ++ s.dropWhile p).drop (s.takeWhile p).length := by
        rw [List.takeWhile_append_dropWhile]
    _ = s.dropWhile p := List.drop_left

/-- A run of characters ends where the first other character stands. -/
theorem takeWhile_append_eq {p : Char → Bool} {u t : List Char} (hu : ∀ c ∈ u, p c = true)
    (ht : ∀ c ∈ t.head?, p c = false) : (u ++ t).takeWhile p = u ∧ (u ++ t).dropWhile p = t := by
  rw [List.takeWhile_append_of_pos hu, List.dropWhile_append_of_pos hu]
  cases t with
  | nil => simp
  | cons c t =>
    have hc : ¬p c = true := by simp [ht c rfl]
    rw [List.takeWhile_cons_of_neg hc, List.dropWhile_cons_of_neg hc, List.append_nil]
    exact ⟨rfl, rfl⟩

theorem head?_dropWhile_eq_false (p : Char → Bool) (s : List Char) :
    ∀ c ∈ (s.dropWhile p).head?, p c = false := by
  intro c hc
  have hnot := List.head?_dropWhile_not p s
  rw [Option.mem_def.mp hc] at hnot
  simpa using hnot

/-! ### Trimming -/

theorem trimStart_suffix (s : List Char) : trimStart s <:+ s := List.dropWhile_suffix _

theorem trimEnd_prefix (s : List Char) : trimEnd s <+: s := by
  have hsuffix : s.reverse.dropWhile isBlank <:+ s.reverse := List.dropWhile_suffix _
  simpa [trimEnd] using List.reverse_prefix.mpr hsuffix

theorem trimStart_eq_self {s : List Char} (hs : ∀ c ∈ s.head?, isBlank c = false) :
    trimStart s = s := by
  cases s with
  | nil => rfl
  | cons c s =>
    have hc : isBlank c = false := hs c rfl
    simp [trimStart, hc]

theorem isBlank_head?_trimStart (s : List Char) :
    ∀ c ∈ (trimStart s).head?, isBlank c = false := head?_dropWhile_eq_false isBlank s

theorem trimEnd_eq_self {s : List Char} (hs : ∀ c ∈ s.getLast?, isBlank c = false) :
    trimEnd s = s := by
  have hreverse : trimStart s.reverse = s.reverse :=
    trimStart_eq_self fun c hc ↦ hs c (by simpa using hc)
  rw [trimEnd, ← trimStart, hreverse, List.reverse_reverse]

theorem isBlank_getLast?_trimEnd (s : List Char) :
    ∀ c ∈ (trimEnd s).getLast?, isBlank c = false := by
  intro c hc
  refine isBlank_head?_trimStart s.reverse c ?_
  simpa [trimEnd, trimStart] using hc

/-- What ends a text ends every part of it that reaches to its end. -/
theorem isBlank_getLast?_of_suffix {s t : List Char} (hsuffix : t <:+ s)
    (hs : ∀ c ∈ s.getLast?, isBlank c = false) : ∀ c ∈ t.getLast?, isBlank c = false := by
  obtain ⟨before, rfl⟩ := hsuffix
  intro c hc
  refine hs c ?_
  rw [Option.mem_def] at hc
  simp [List.getLast?_append, hc]

theorem trim_eq_trimStart {s : List Char} (hs : ∀ c ∈ s.getLast?, isBlank c = false) :
    trim s = trimStart s :=
  trimEnd_eq_self (isBlank_getLast?_of_suffix (trimStart_suffix s) hs)

theorem isBlank_head?_trim (s : List Char) : ∀ c ∈ (trim s).head?, isBlank c = false := by
  intro c hc
  obtain ⟨rest, hrest⟩ := trimEnd_prefix (trimStart s)
  refine isBlank_head?_trimStart s c ?_
  rw [← hrest, List.head?_append]
  rw [trim, Option.mem_def] at hc
  simp [hc]

/-! ### The first word -/

theorem trim_eq_self {s : List Char} (hs : ∀ c ∈ s, isBlank c = false) : trim s = s := by
  rw [trim_eq_trimStart fun c hc ↦ hs c (List.mem_of_getLast? hc)]
  exact trimStart_eq_self fun c hc ↦ hs c (List.mem_of_head? hc)

/-- A text is cut at its first blank, if it has one. -/
theorem splitBlank?_eq (s : List Char) :
    splitBlank? s = if s.dropWhile (!isBlank ·) = [] then none
      else some (s.takeWhile (!isBlank ·), (s.dropWhile (!isBlank ·)).tail) := by
  unfold splitBlank?
  cases s.dropWhile (!isBlank ·) <;> simp

theorem splitFirst_fst (s : List Char) :
    (splitFirst s).1 = (trim s).takeWhile (!isBlank ·) := by
  unfold splitFirst
  rw [splitBlank?_eq]
  split_ifs with hnone
  · have hsplit := List.takeWhile_append_dropWhile (p := fun c ↦ !isBlank c) (l := trim s)
    rw [hnone, List.append_nil] at hsplit
    exact hsplit.symm
  · rfl

theorem isBlank_of_mem_splitFirst {s : List Char} {c : Char} (hc : c ∈ (splitFirst s).1) :
    isBlank c = false := by
  rw [splitFirst_fst] at hc
  simpa using List.mem_takeWhile_imp hc

theorem head?_splitFirst (s : List Char) : (splitFirst s).1.head? = (trim s).head? := by
  have hhead := isBlank_head?_trim s
  rw [splitFirst_fst]
  cases htrim : trim s with
  | nil => rfl
  | cons c rest =>
    have hc : isBlank c = false := hhead c (by rw [htrim]; rfl)
    simp [hc]

/-- Only a blank text has no first word. -/
theorem splitFirst_eq_nil_iff (s : List Char) : (splitFirst s).1 = [] ↔ trim s = [] := by
  rw [← List.head?_eq_none_iff, head?_splitFirst, List.head?_eq_none_iff]

/-! ### Words of a text -/

/-- The word that a text begins with goes on as long as there is no blank. -/
theorem wordsFrom_append {word : List Char} (hword : ∀ c ∈ word, isBlank c = false)
    (s : List Char) : wordsFrom (word ++ s) = (word ++ (wordsFrom s).1, (wordsFrom s).2) := by
  induction word with
  | nil => rfl
  | cons c word ih =>
    obtain ⟨hc, hword⟩ := List.forall_mem_cons.mp hword
    simp only [List.cons_append, wordsFrom, ih hword, hc, Bool.false_eq_true, if_false]

theorem wordsFrom_cons_of_blank {c : Char} (hc : isBlank c = true) (s : List Char) :
    wordsFrom (c :: s) = ([], words s) := by
  simp only [wordsFrom, words, hc, if_true]

theorem words_cons_of_blank {c : Char} (hc : isBlank c = true) (s : List Char) :
    words (c :: s) = words s := by
  rw [words, wordsFrom_cons_of_blank hc]
  rfl

/-- A word is the one word of its text. -/
theorem words_word {word : List Char} (hne : word ≠ [])
    (hword : ∀ c ∈ word, isBlank c = false) : words word = [word] := by
  have hone : wordsFrom word = (word, []) := by simpa [wordsFrom] using wordsFrom_append hword []
  simp [words, hone, hne]

/-- A blank ends a word. -/
theorem words_word_append {word : List Char} (hne : word ≠ [])
    (hword : ∀ c ∈ word, isBlank c = false) {c : Char} (hc : isBlank c = true) (s : List Char) :
    words (word ++ c :: s) = word :: words s := by
  rw [words, wordsFrom_append hword, wordsFrom_cons_of_blank hc, List.append_nil]
  simp [hne]

theorem words_trimStart (s : List Char) : words (trimStart s) = words s := by
  induction s with
  | nil => rfl
  | cons c s ih =>
    rw [trimStart, List.dropWhile_cons]
    split_ifs with hc
    · rw [words_cons_of_blank hc, ← ih, trimStart]
    · rfl

theorem wordsFrom_blanks {s : List Char} (hs : ∀ c ∈ s, isBlank c = true) :
    wordsFrom s = ([], []) := by
  induction s with
  | nil => rfl
  | cons c s ih =>
    obtain ⟨hc, hs⟩ := List.forall_mem_cons.mp hs
    simp only [wordsFrom, ih hs, hc, if_true, List.isEmpty_nil]

theorem wordsFrom_append_blanks (s : List Char) {t : List Char} (ht : ∀ c ∈ t, isBlank c = true) :
    wordsFrom (s ++ t) = wordsFrom s := by
  induction s with
  | nil => exact wordsFrom_blanks ht
  | cons c s ih => simp only [List.cons_append, wordsFrom, ih]

theorem words_append_blanks (s : List Char) {t : List Char} (ht : ∀ c ∈ t, isBlank c = true) :
    words (s ++ t) = words s := by
  rw [words, words, wordsFrom_append_blanks s ht]

/-- What is trimmed from the end of a text is blank. -/
theorem exists_eq_trimEnd_append (s : List Char) :
    ∃ t, (∀ c ∈ t, isBlank c = true) ∧ s = trimEnd s ++ t := by
  refine ⟨(s.reverse.takeWhile isBlank).reverse, fun c hc ↦ ?_, ?_⟩
  · exact List.mem_takeWhile_imp (List.mem_reverse.mp hc)
  · rw [trimEnd, ← List.reverse_append, List.takeWhile_append_dropWhile, List.reverse_reverse]

theorem words_trimEnd (s : List Char) : words (trimEnd s) = words s := by
  obtain ⟨t, hblank, hsplit⟩ := exists_eq_trimEnd_append s
  have hwords : words s = words (trimEnd s ++ t) := congrArg words hsplit
  rw [hwords, words_append_blanks _ hblank]

theorem words_trim (s : List Char) : words (trim s) = words s := by
  rw [trim, words_trimEnd, words_trimStart]

/-- A text of words begins with its first word, and its other words are those of what follows. -/
theorem words_eq (s : List Char) :
    words s = if (splitFirst s).1 = [] then [] else
      (splitFirst s).1 :: words (splitFirst s).2 := by
  have hword : ∀ c ∈ (splitFirst s).1, isBlank c = false := fun c hc ↦ isBlank_of_mem_splitFirst hc
  have hsplit := List.takeWhile_append_dropWhile (p := fun c ↦ !isBlank c) (l := trim s)
  rw [← splitFirst_fst] at hsplit
  have hrest : (splitFirst s).2 = trim ((trim s).dropWhile (!isBlank ·)).tail := by
    unfold splitFirst
    rw [splitBlank?_eq]
    split_ifs with hnone
    · rw [hnone]
      rfl
    · rfl
  rw [hrest, words_trim, ← words_trim s]
  by_cases hempty : (splitFirst s).1 = []
  · rw [if_pos hempty, (splitFirst_eq_nil_iff s).mp hempty]
    rfl
  rw [if_neg hempty]
  cases hafter : (trim s).dropWhile (!isBlank ·) with
  | nil =>
    rw [hafter, List.append_nil] at hsplit
    rw [← hsplit]
    exact words_word hempty hword
  | cons b rest =>
    have hb : isBlank b = true := by
      have hnot := List.head?_dropWhile_not (!isBlank ·) (trim s)
      rw [hafter] at hnot
      simpa using hnot
    rw [hafter] at hsplit
    rw [← hsplit]
    exact words_word_append hempty hword hb rest

/-- A text without words is blank. -/
theorem words_eq_nil_iff (s : List Char) : words s = [] ↔ trim s = [] := by
  rw [words_eq, ← splitFirst_eq_nil_iff]
  simp

theorem isWord_of_mem_wordsFrom (s : List Char) :
    (∀ c ∈ (wordsFrom s).1, isBlank c = false) ∧
      ∀ word ∈ (wordsFrom s).2, word ≠ [] ∧ ∀ c ∈ word, isBlank c = false := by
  induction s with
  | nil => simp [wordsFrom]
  | cons d s ih =>
    obtain ⟨hword, hlater⟩ := ih
    simp only [wordsFrom]
    split_ifs with hd hempty
    · exact ⟨by simp, hlater⟩
    · exact ⟨by simp, List.forall_mem_cons.mpr ⟨⟨by simpa using hempty, hword⟩, hlater⟩⟩
    · exact ⟨List.forall_mem_cons.mpr ⟨by simpa using hd, hword⟩, hlater⟩

/-- A word is not empty, and there is no blank in it. -/
theorem isWord_of_mem_words {s word : List Char} (hword : word ∈ words s) :
    word ≠ [] ∧ ∀ c ∈ word, isBlank c = false := by
  obtain ⟨hfirst, hlater⟩ := isWord_of_mem_wordsFrom s
  simp only [words] at hword
  split_ifs at hword with hempty
  · exact hlater word hword
  · rcases List.mem_cons.mp hword with rfl | hword
    · exact ⟨by simpa using hempty, hfirst⟩
    · exact hlater word hword

/-! ### Lower case -/

/-- The codes of the blanks and of `!`. -/
def blankOrMark : Ranges := [
  (0x09, 0x0D), (0x20, 0x21), (0x85, 0x85), (0xA0, 0xA0), (0x1680, 0x1680), (0x2000, 0x200A),
  (0x2028, 0x2029), (0x202F, 0x202F), (0x205F, 0x205F), (0x3000, 0x3000)]

/-- A character that is no blank and not the mark `!`. -/
def IsPlain (c : Char) : Prop := blankOrMark.has c = false

instance : DecidablePred IsPlain := fun c ↦ inferInstanceAs (Decidable (blankOrMark.has c = false))

theorem isPlain_iff (c : Char) : IsPlain c ↔ isBlank c = false ∧ c ≠ '!' := by
  have hmark : c = '!' ↔ c.toNat = 0x21 := by
    rw [← Char.toNat_inj]
    rfl
  simp only [IsPlain, blankOrMark, Ranges.has, Ranges.hasCode, isBlank, ne_eq, hmark,
    ← Bool.not_eq_true]
  simp only [List.any_cons, List.any_nil, Bool.or_eq_true, Bool.and_eq_true, decide_eq_true_eq,
    beq_iff_eq, Bool.false_eq_true, or_false]
  omega

theorem not_isPlain_of_isBlank {c : Char} (hc : isBlank c = true) : ¬ IsPlain c := by
  rw [isPlain_iff, hc]
  simp

/-- Whether no image of a run is the code of a blank or of `!`. -/
def CaseRun.isClear (r : CaseRun) : Bool :=
  blankOrMark.all fun range ↦ range.2 < r.target || r.target + (r.last - r.first) < range.1

theorem isClear_lowerRuns : lowerRuns.all CaseRun.isClear = true := by decide

theorem toNat_ofNat_eq_or (n : Nat) : (Char.ofNat n).toNat = n ∨ Char.ofNat n = '\x00' := by
  by_cases hvalid : n.isValidChar
  · left
    rw [Char.ofNat, dif_pos hvalid]
    rfl
  · right
    rw [Char.ofNat, dif_neg hvalid]
    rfl

theorem isPlain_of_mapRun {n m : Nat} (h : mapRun lowerRuns n = some m) :
    IsPlain (Char.ofNat m) := by
  obtain ⟨r, hfind, rfl⟩ := Option.map_eq_some_iff.mp h
  have hclear := List.all_eq_true.mp isClear_lowerRuns r (List.mem_of_find?_eq_some hfind)
  have hcontains := List.find?_some hfind
  rcases toNat_ofNat_eq_or (r.apply n) with hcode | hzero
  · rw [IsPlain, Ranges.has, hcode, ← Bool.not_eq_true, Ranges.hasCode_iff]
    rintro ⟨range, hrange, hlow, hhigh⟩
    have haway := List.all_eq_true.mp hclear range hrange
    simp only [CaseRun.contains, CaseRun.apply, Bool.and_eq_true, Bool.or_eq_true,
      decide_eq_true_eq] at hcontains haway hlow hhigh
    omega
  · rw [hzero]
    decide

/-- Whether no code of a range is in a run. -/
def CaseRun.isAway (r : CaseRun) (range : Nat × Nat) : Bool :=
  range.2 < r.first || r.last < range.1

theorem mapRun_eq_none_of_isAway {range : Nat × Nat}
    (haway : (lowerRuns.all (·.isAway range)) = true) {n : Nat} (hlow : range.1 ≤ n)
    (hhigh : n ≤ range.2) : mapRun lowerRuns n = none := by
  rw [mapRun, Option.map_eq_none_iff, List.find?_eq_none]
  intro r hr hcontains
  have hr := List.all_eq_true.mp haway r hr
  simp only [CaseRun.isAway, CaseRun.contains, Bool.and_eq_true, Bool.or_eq_true,
    decide_eq_true_eq] at hr hcontains
  omega

theorem isAway_blankOrMark :
    (blankOrMark.all fun range ↦ lowerRuns.all (·.isAway range)) = true := by decide

/-- A blank and the mark `!` are their own lower case. -/
theorem lowerChar_of_not_isPlain {c : Char} (hc : ¬ IsPlain c) : lowerChar c = [c] := by
  have hne : c ≠ 'İ' := by
    rintro rfl
    exact hc (by decide)
  rw [IsPlain, Bool.not_eq_false, Ranges.has, Ranges.hasCode_iff] at hc
  obtain ⟨range, hrange, hlow, hhigh⟩ := hc
  have haway := List.all_eq_true.mp isAway_blankOrMark range hrange
  rw [lowerChar, if_neg hne, mapRun_eq_none_of_isAway haway hlow hhigh, Option.map_none,
    Option.getD_none]

theorem eq_or_isPlain_of_mem_lowerChar {c d : Char} (hd : d ∈ lowerChar c) :
    d = c ∨ IsPlain d := by
  unfold lowerChar at hd
  split_ifs at hd with hdotted
  · right
    have hpair : d = 'i' ∨ d = '\u0307' := by simpa using hd
    rcases hpair with rfl | rfl <;> decide
  · rw [List.mem_singleton] at hd
    cases hrun : mapRun lowerRuns c.toNat with
    | none =>
      left
      simpa [hrun] using hd
    | some m =>
      right
      rw [hrun] at hd
      rw [hd]
      exact isPlain_of_mapRun hrun

theorem eq_or_isPlain_of_mem_toLowerAfter {before s : List Char} {d : Char}
    (hd : d ∈ toLowerAfter before s) : d ∈ s ∨ IsPlain d := by
  induction s generalizing before with
  | nil => simp [toLowerAfter] at hd
  | cons c s ih =>
    rw [toLowerAfter, List.mem_append] at hd
    rcases hd with hd | hd
    · split_ifs at hd with hsigma hfinal
      · exact Or.inr (by rw [List.mem_singleton.mp hd]; decide)
      · exact Or.inr (by rw [List.mem_singleton.mp hd]; decide)
      · rcases eq_or_isPlain_of_mem_lowerChar hd with rfl | hplain
        · exact Or.inl List.mem_cons_self
        · exact Or.inr hplain
    · rcases ih hd with hmem | hplain
      · exact Or.inl (List.mem_cons_of_mem c hmem)
      · exact Or.inr hplain

theorem eq_or_isPlain_of_mem_toLower {s : List Char} {d : Char} (hd : d ∈ toLower s) :
    d ∈ s ∨ IsPlain d :=
  eq_or_isPlain_of_mem_toLowerAfter hd

/-- A word is a word in lower case too. -/
theorem isBlank_of_mem_toLower {s : List Char} (hs : ∀ c ∈ s, isBlank c = false) :
    ∀ c ∈ toLower s, isBlank c = false := by
  intro c hc
  rcases eq_or_isPlain_of_mem_toLower hc with hmem | hplain
  · exact hs c hmem
  · exact ((isPlain_iff c).mp hplain).1

theorem lowerChar_ne_nil (c : Char) : lowerChar c ≠ [] := by
  unfold lowerChar
  split_ifs <;> simp

theorem toLowerAfter_eq_nil_iff (before s : List Char) : toLowerAfter before s = [] ↔ s = [] := by
  cases s with
  | nil => simp [toLowerAfter]
  | cons c s =>
    simp only [toLowerAfter, List.append_eq_nil_iff, reduceCtorEq, iff_false, not_and]
    intro hnil
    split_ifs at hnil
    exact absurd hnil (lowerChar_ne_nil c)

theorem toLower_eq_nil_iff (s : List Char) : toLower s = [] ↔ s = [] := toLowerAfter_eq_nil_iff [] s

/-- A blank or the mark `!` begins a text in lower case exactly where it begins the text. -/
theorem head?_toLower_eq_some_iff {c : Char} (hc : ¬ IsPlain c) (s : List Char) :
    (toLower s).head? = some c ↔ s.head? = some c := by
  cases s with
  | nil => rfl
  | cons d s =>
    rw [List.head?_cons, Option.some.injEq]
    constructor
    · intro hhead
      rw [toLower, toLowerAfter, List.head?_append] at hhead
      split_ifs at hhead with hsigma hfinal
      · exact absurd (Option.some.inj hhead ▸ by decide) hc
      · exact absurd (Option.some.inj hhead ▸ by decide) hc
      · cases hlower : lowerChar d with
        | nil => exact absurd hlower (lowerChar_ne_nil d)
        | cons e rest =>
          have hmem : e ∈ lowerChar d := by simp [hlower]
          rw [hlower] at hhead
          obtain rfl : e = c := Option.some.inj hhead
          exact ((eq_or_isPlain_of_mem_lowerChar hmem).resolve_right hc).symm
    · rintro rfl
      have hne : d ≠ 'Σ' := by
        rintro rfl
        exact hc (by decide)
      rw [toLower, toLowerAfter, if_neg hne, lowerChar_of_not_isPlain hc]
      rfl

theorem head?_toLower_eq_mark_iff (s : List Char) :
    (toLower s).head? = some '!' ↔ s.head? = some '!' :=
  head?_toLower_eq_some_iff (by decide) s

/-- What ends a text in lower case, if it is a blank or the mark `!`, ends the text. -/
theorem getLast?_of_getLast?_toLowerAfter {c : Char} (hc : ¬ IsPlain c) {before s : List Char}
    (hlast : (toLowerAfter before s).getLast? = some c) : s.getLast? = some c := by
  induction s generalizing before with
  | nil => exact hlast
  | cons d s ih =>
    cases s with
    | nil =>
      have hmem := eq_or_isPlain_of_mem_toLowerAfter (List.mem_of_getLast? hlast)
      rw [List.mem_singleton.mp (hmem.resolve_right hc)]
      rfl
    | cons e s =>
      have hne : toLowerAfter (d :: before) (e :: s) ≠ [] :=
        mt (toLowerAfter_eq_nil_iff _ _).mp (List.cons_ne_nil e s)
      rw [toLowerAfter, List.getLast?_append, List.getLast?_eq_some_getLast hne,
        Option.some_or, ← List.getLast?_eq_some_getLast hne] at hlast
      rw [List.getLast?_cons_cons]
      exact ih hlast

/-- Lower case puts no blank at the end of a text. -/
theorem isBlank_getLast?_toLower {s : List Char} (hs : ∀ c ∈ s.getLast?, isBlank c = false) :
    ∀ c ∈ (toLower s).getLast?, isBlank c = false := by
  intro c hc
  by_contra hblank
  rw [Bool.not_eq_false] at hblank
  have hlast := getLast?_of_getLast?_toLowerAfter (not_isPlain_of_isBlank hblank) hc
  exact Bool.false_ne_true ((hs c hlast).symm.trans hblank)

end Text

open Text

/-! ### Action strings -/

theorem head?_actionString {token : List Char} (hne : token ≠ [])
    (hword : ∀ c ∈ token, isBlank c = false) (args : List Char) :
    (actionString token args).head? = (toLower token).head? := by
  rw [actionString, trim_eq_self hword]
  cases hlower : toLower token with
  | nil => exact absurd ((toLower_eq_nil_iff token).mp hlower) hne
  | cons c rest => rfl

/-- An action string never begins with a space. -/
theorem head?_actionString_ne_space {token : List Char} (hne : token ≠ [])
    (hword : ∀ c ∈ token, isBlank c = false) (args : List Char) :
    (actionString token args).head? ≠ some ' ' := by
  rw [head?_actionString hne hword]
  intro hspace
  have hblank := isBlank_of_mem_toLower hword ' ' (List.mem_of_head? hspace)
  exact absurd hblank (by decide)

end Guildhall
