import Guildhall.Proofs.BuiltinPlaceholders
import Guildhall.Proofs.Numeral
import Guildhall.Proofs.Words

/-!
Texts that are split into a limited number of parts. The parts are the words of the text, or, where
these are too many, the first of them and the rest of the text from the next word on, as it stands
(`Text.IsSplit`). There is one such list for every text and limit, and it is the one that the
splitter finds (`Placeholder.isSplit_iff`); the placeholder `argument` gives a part of it
(`Placeholder.argument_is_part`).
-/

set_option autoImplicit false

namespace Guildhall

namespace Text

/-- Whether a list is what a text is split into. A limit of zero is none. Beyond the limit the last
part is the end of the trimmed text that begins with the next word. -/
def IsSplit (s : List Char) (limit : Nat) (parts : List (List Char)) : Prop :=
  if limit = 0 ∨ (words s).length ≤ limit then parts = words s
  else ∃ rest, rest <:+ trim s ∧ (∀ c ∈ rest.head?, isBlank c = false) ∧
    words rest = (words s).drop (limit - 1) ∧ parts = (words s).take (limit - 1) ++ [rest]

/-! ### Words and the characters in them -/

/-- The words of a text have all its characters but the blanks. -/
theorem flatten_words (s : List Char) : (words s).flatten = s.filter (!isBlank ·) := by
  have hfrom : (wordsFrom s).1 ++ (wordsFrom s).2.flatten = s.filter (!isBlank ·) := by
    induction s with
    | nil => rfl
    | cons c s ih =>
      rw [List.filter_cons, ← ih]
      by_cases hc : isBlank c = true
      · by_cases hempty : (wordsFrom s).1 = [] <;> simp [wordsFrom, hc, hempty]
      · simp [wordsFrom, hc]
  rw [← hfrom, words]
  dsimp only
  split_ifs with hempty
  · rw [List.isEmpty_iff.mp hempty, List.nil_append]
  · rfl

/-- Two ends of a text that begin with a word are the same if they have the same words. -/
theorem eq_of_words_eq {t u v : List Char} (hu : u <:+ t) (hv : v <:+ t)
    (hheadu : ∀ c ∈ u.head?, isBlank c = false) (hheadv : ∀ c ∈ v.head?, isBlank c = false)
    (hwords : words u = words v) : u = v := by
  -- What the longer one has before the other has no characters but blanks, and begins with none.
  have hlonger {u v : List Char} (hsuffix : v <:+ u) (hhead : ∀ c ∈ u.head?, isBlank c = false)
      (hwords : words u = words v) : u = v := by
    obtain ⟨before, rfl⟩ := hsuffix
    have hchars := congrArg List.flatten hwords
    rw [flatten_words, flatten_words, List.filter_append, List.append_left_eq_self] at hchars
    cases before with
    | nil => rfl
    | cons c before =>
      have hc : isBlank c = false := hhead c rfl
      simp [hc] at hchars
  rcases List.suffix_or_suffix_of_suffix hu hv with hsuffix | hsuffix
  · exact (hlonger hsuffix hheadv hwords.symm).symm
  · exact hlonger hsuffix hheadu hwords

/-- A text that begins with a word has the words of what follows it behind that word. -/
theorem words_of_head {s : List Char} (hne : s ≠ []) (hhead : ∀ c ∈ s.head?, isBlank c = false) :
    words s = s.takeWhile (!isBlank ·) :: words (trimStart (s.dropWhile (!isBlank ·))) := by
  have hword : ∀ c ∈ s.takeWhile (!isBlank ·), isBlank c = false :=
    fun c hc ↦ by simpa using List.mem_takeWhile_imp hc
  have hfirst : s.takeWhile (!isBlank ·) ≠ [] := by
    obtain ⟨c, rest, rfl⟩ := List.exists_cons_of_ne_nil hne
    have hc : isBlank c = false := hhead c rfl
    simp [hc]
  have hsplit := List.takeWhile_append_dropWhile (p := (!isBlank ·)) (l := s)
  have hnext := head?_dropWhile_eq_false (!isBlank ·) s
  rw [words_trimStart]
  cases hrest : s.dropWhile (!isBlank ·) with
  | nil =>
    rw [hrest, List.append_nil] at hsplit
    rw [hsplit] at hword hfirst ⊢
    exact words_word hfirst hword
  | cons b rest =>
    have hb : isBlank b = true := by simpa using hnext b (by rw [hrest]; rfl)
    rw [hrest] at hsplit
    calc words s = words (s.takeWhile (!isBlank ·) ++ b :: rest) := by rw [hsplit]
      _ = s.takeWhile (!isBlank ·) :: words rest := words_word_append hfirst hword hb rest
      _ = s.takeWhile (!isBlank ·) :: words (b :: rest) := by rw [words_cons_of_blank hb]

/-! ### Texts without blanks around them -/

/-- Whether a text neither begins nor ends with a blank. -/
structure IsTrimmed (s : List Char) : Prop where
  head : ∀ c ∈ s.head?, isBlank c = false
  last : ∀ c ∈ s.getLast?, isBlank c = false

theorem isTrimmed_trim (s : List Char) : IsTrimmed (trim s) :=
  ⟨isBlank_head?_trim s, isBlank_getLast?_trimEnd _⟩

theorem IsTrimmed.trim_eq {s : List Char} (hs : IsTrimmed s) : trim s = s := by
  rw [trim_eq_trimStart hs.last, trimStart_eq_self hs.head]

/-- What follows the first word of such a text. -/
def afterWord (s : List Char) : List Char := trimStart (s.dropWhile (!isBlank ·))

theorem afterWord_suffix (s : List Char) : afterWord s <:+ s :=
  (trimStart_suffix _).trans (List.dropWhile_suffix _)

theorem IsTrimmed.afterWord {s : List Char} (hs : IsTrimmed s) : IsTrimmed (afterWord s) :=
  ⟨isBlank_head?_trimStart _, isBlank_getLast?_of_suffix (afterWord_suffix s) hs.last⟩

theorem length_afterWord_lt {s : List Char} (hne : s ≠ [])
    (hhead : ∀ c ∈ s.head?, isBlank c = false) : (afterWord s).length < s.length := by
  obtain ⟨c, rest, rfl⟩ := List.exists_cons_of_ne_nil hne
  have hc : isBlank c = false := hhead c rfl
  have hle : (afterWord (c :: rest)).length ≤ (rest.dropWhile (!isBlank ·)).length := by
    simpa [afterWord, hc] using (trimStart_suffix (rest.dropWhile (!isBlank ·))).length_le
  exact Nat.lt_succ_of_le (hle.trans (List.dropWhile_suffix _).length_le)

/-- A text of one word is that word. -/
theorem IsTrimmed.words_eq_of_length_le {s : List Char} (hs : IsTrimmed s) (hne : s ≠ [])
    (hone : (words s).length ≤ 1) : words s = [s] := by
  have hwords := words_of_head hne hs.head
  have hafter : words (Text.afterWord s) = [] := by
    rw [hwords] at hone
    exact List.eq_nil_of_length_eq_zero (Nat.le_zero.mp (Nat.le_of_succ_le_succ hone))
  have hnone : Text.afterWord s = [] := by
    rw [← hs.afterWord.trim_eq]
    exact (words_eq_nil_iff _).mp hafter
  have hrest : s.dropWhile (!isBlank ·) = [] := by
    -- All that follows the word is blank, and the text does not end so.
    have hblank : ∀ c ∈ s.dropWhile (!isBlank ·), isBlank c = true :=
      List.dropWhile_eq_nil_iff.mp hnone
    have hlast := isBlank_getLast?_of_suffix (List.dropWhile_suffix (!isBlank ·)) hs.last
    rw [← List.getLast?_eq_none_iff, Option.eq_none_iff_forall_not_mem]
    intro c hc
    have hc' := hblank c (List.mem_of_getLast? hc)
    rw [hlast c hc] at hc'
    cases hc'
  have hsplit := List.takeWhile_append_dropWhile (p := (!isBlank ·)) (l := s)
  rw [hrest, List.append_nil] at hsplit
  rw [hwords, hsplit, ← Text.afterWord, hafter]

/-! ### Splitting -/

/-- There is one list that a text is split into. -/
theorem IsSplit.unique {s : List Char} {limit : Nat} {parts others : List (List Char)}
    (hparts : IsSplit s limit parts) (hothers : IsSplit s limit others) : parts = others := by
  unfold IsSplit at hparts hothers
  split_ifs at hparts hothers
  · rw [hparts, hothers]
  · obtain ⟨rest, hsuffix, hhead, hwords, rfl⟩ := hparts
    obtain ⟨rest', hsuffix', hhead', hwords', rfl⟩ := hothers
    rw [eq_of_words_eq hsuffix hsuffix' hhead hhead' (hwords.trans hwords'.symm)]

theorem isSplit_nil (limit : Nat) : IsSplit [] limit [] := by
  simp [IsSplit, words, wordsFrom]

/-- Blanks around a text do not matter. -/
theorem isSplit_trim_iff {s : List Char} {limit : Nat} {parts : List (List Char)} :
    IsSplit (trim s) limit parts ↔ IsSplit s limit parts := by
  rw [IsSplit, IsSplit, words_trim, (isTrimmed_trim s).trim_eq]

/-- With room for one part the text stays whole. -/
theorem IsTrimmed.isSplit_one {s : List Char} (hs : IsTrimmed s) (hne : s ≠ []) :
    IsSplit s 1 [s] := by
  unfold IsSplit
  by_cases hfits : (words s).length ≤ 1
  · rw [if_pos (Or.inr hfits)]
    exact (hs.words_eq_of_length_le hne hfits).symm
  · rw [if_neg (by simpa using hfits), hs.trim_eq]
    exact ⟨s, List.suffix_rfl, hs.head, rfl, rfl⟩

/-- With more room the first word is split off, and the rest is split with the room that is left. -/
theorem IsTrimmed.isSplit_cons {s : List Char} (hs : IsTrimmed s) (hne : s ≠ []) {room : Nat}
    (hroom : room ≠ 1) {parts : List (List Char)}
    (hparts : IsSplit (Text.afterWord s) (room - 1) parts) :
    IsSplit s room (s.takeWhile (!isBlank ·) :: parts) := by
  have hwords : words s = s.takeWhile (!isBlank ·) :: words (Text.afterWord s) :=
    words_of_head hne hs.head
  unfold IsSplit at hparts ⊢
  rw [hwords, List.length_cons]
  split_ifs at hparts with hfits
  · rw [if_pos (by omega), hparts]
  · obtain ⟨rest, hsuffix, hhead, hrest, rfl⟩ := hparts
    obtain ⟨k, rfl⟩ : ∃ k, room = k + 2 := ⟨room - 2, by omega⟩
    rw [if_neg (by omega)]
    refine ⟨rest, ?_, hhead, by simpa using hrest, by simp⟩
    rw [hs.afterWord.trim_eq] at hsuffix
    rw [hs.trim_eq]
    exact hsuffix.trans (afterWord_suffix s)

end Text

namespace Placeholder

open Text

theorem isSplit_splitWithin {limit fuel count : Nat} {s : List Char} (hs : IsTrimmed s)
    (hfuel : s.length < fuel) (hcount : limit = 0 ∨ count < limit) :
    IsSplit s (limit - count) (splitWithin limit fuel count s) := by
  induction fuel generalizing count s with
  | zero => exact absurd hfuel (Nat.not_lt_zero _)
  | succ fuel ih =>
    rw [splitWithin]
    split_ifs with hempty hlast
    · rw [List.isEmpty_iff.mp hempty]
      exact isSplit_nil _
    · have hne : s ≠ [] := by simpa using hempty
      rw [show limit - count = 1 by omega]
      exact hs.isSplit_one hne
    · have hne : s ≠ [] := by simpa using hempty
      refine hs.isSplit_cons hne (by omega) ?_
      rw [Nat.sub_sub]
      exact ih hs.afterWord ((length_afterWord_lt hne hs.head).trans_le (Nat.le_of_lt_succ hfuel))
        (by omega)

/-- The splitter finds the list that a text is split into. -/
theorem isSplit_iff {s : List Char} {limit : Nat} {parts : List (List Char)} :
    IsSplit s limit parts ↔ parts = splitLimited s limit := by
  have hsplit : IsSplit s limit (splitLimited s limit) := by
    have htrim : (trim s).length ≤ (trimStart s).length :=
      List.IsPrefix.length_le <| trimEnd_prefix _
    have hlength : (trim s).length < s.length + 1 :=
      Nat.lt_succ_of_le (htrim.trans (trimStart_suffix s).length_le)
    have htrimmed := isSplit_splitWithin (isTrimmed_trim s) hlength (Nat.eq_zero_or_pos limit)
    rwa [Nat.sub_zero, isSplit_trim_iff] at htrimmed
  exact ⟨fun h ↦ h.unique hsplit, fun h ↦ h ▸ hsplit⟩

/-- The part of a message that `argument` gives. For every text and limit there is one list that
the text is split into (`Text.IsSplit`), and it is the one that the splitter finds. A placeholder
`argument` with two numbers that fit into a machine word, the limit and the place of a part (from
zero), expands to that part of the message, and to nothing where the list has no such part. Where
one of the numbers does not fit it expands to nothing. No randomness is drawn. -/
theorem argument_is_part :
    (∀ (s : List Char) (limit : Nat) (parts : List (List Char)),
      IsSplit s limit parts ↔ parts = splitLimited s limit) ∧
    ∀ (ctx : TemplateContext) (s : List Char) (parts : Parts) (d : Draws),
      (Shape.pair "argument" false).parts? s = some parts →
        ∃ out, builtin.expand ctx (Template.asking s) d = (out, d) ∧
          match word? (parts.part 1), word? (parts.part 2) with
          | some limit, some place => ∀ list, IsSplit ctx.message.toList limit.toNat list →
              out = list.getD place.toNat []
          | _, _ => out = [] := by
  refine ⟨fun s limit parts ↦ isSplit_iff, fun ctx s parts d hparts ↦ ?_⟩
  have hdefn : ∃ defn ∈ builtin, defn.shape = .pair "argument" false ∧
      defn.handler = pure argument := ⟨builtin[3], List.getElem_mem _, rfl, rfl⟩
  obtain ⟨defn, hmem, hshape, hhandler⟩ := hdefn
  refine ⟨argument ctx parts, ?_, ?_⟩
  · rw [expand_asking hmem (hshape ▸ hparts), hhandler, pure]
  · unfold argument
    cases word? (parts.part 1) with
    | none => rfl
    | some limit =>
      cases word? (parts.part 2) with
      | none => rfl
      | some place =>
        intro list hlist
        rw [isSplit_iff.mp hlist, List.getD_eq_getElem?_getD]

/-- The second of at most two parts keeps the blanks between its words. -/
theorem argument_is_part_rest :
    ∃ ctx : TemplateContext, ctx.message = "  a b  c d " ∧
      (Shape.pair "argument" false).parts? "argument 2,1".toList =
        some [some "argument 2,1".toList, some "2".toList, some "1".toList] ∧
      ∀ d, builtin.expand ctx (Template.asking "argument 2,1".toList) d =
        ("b  c d".toList, d) := by
  let ctx : TemplateContext :=
    { sender := "ann", message := "  a b  c d ", today := ⟨2024, 5, 10⟩ }
  have hparts : (Shape.pair "argument" false).parts? "argument 2,1".toList =
      some [some "argument 2,1".toList, some "2".toList, some "1".toList] := by decide +kernel
  refine ⟨ctx, rfl, hparts, fun d ↦ ?_⟩
  obtain ⟨hsplit, hargument⟩ := argument_is_part
  obtain ⟨out, hexpand, hout⟩ := hargument ctx _ _ d hparts
  have hlist := (hsplit ctx.message.toList 2 ["a".toList, "b  c d".toList]).mpr (by decide +kernel)
  rw [hexpand, show out = "b  c d".toList from hout _ hlist]

end Placeholder

end Guildhall
