import Guildhall.Pattern.Reader
import Guildhall.Proofs.Words
import Mathlib.Data.Nat.Basic
import Mathlib.Order.Basic

/-!
Patterns that are pasted into larger ones. A text that is read as a pattern on its own is read the
same way where a larger pattern goes on after it: what a reader answers of a text it answers of the
text with the closing after it (`Carries`, one lemma for each reader), except that a comment runs
on over the closing (`Continues.swallowed`).
-/

set_option autoImplicit false

namespace Guildhall.Pattern

open Text

/-- What stands after the pattern in the larger one. -/
def closing : List Char := [')', '$']

/-- Whether a text goes on as another one does and then has the closing, which a comment may have
run over. -/
inductive Continues : List Char → List Char → Prop
  | closing : Continues [] closing
  | swallowed : Continues [] []
  | cons (c : Char) {s s' : List Char} (hrest : Continues s s') : Continues (c :: s) (c :: s')

/-- Whether one computation gives an answer wherever the other one does, a related one. -/
def Carries {α β : Type} (related : α → β → Prop) (x : Option α) (y : Option β) : Prop :=
  ∀ a ∈ x, ∃ b ∈ y, related a b

/-- Whether two pairs have the same first part and related second ones. Readers answer with what is
left of the text at the end. -/
def Beside {α β : Type} (related : β → β → Prop) (p p' : α × β) : Prop :=
  p.1 = p'.1 ∧ related p.2 p'.2

/-! ### Texts that go on -/

namespace Continues

variable {s s' : List Char}

theorem refl (s : List Char) : Continues s s := by
  induction s with
  | nil => exact .swallowed
  | cons c s ih => exact .cons c ih

theorem append_closing (s : List Char) : Continues s (s ++ Pattern.closing) := by
  induction s with
  | nil => exact .closing
  | cons c s ih => exact .cons c ih

theorem length_le (h : Continues s s') : s.length ≤ s'.length := by
  induction h with
  | closing | swallowed => exact Nat.zero_le _
  | cons c _ ih => exact Nat.succ_le_succ ih

/-- The beginning is the same or the end has come. -/
theorem head?_eq_or (h : Continues s s') :
    s'.head? = s.head? ∨ s = [] ∧ s'.head? = some ')' := by
  cases h with
  | closing => exact .inr ⟨rfl, rfl⟩
  | swallowed | cons => exact .inl rfl

theorem head?_eq_iff (h : Continues s s') {c : Char} (hc : c ≠ ')') :
    s'.head? = some c ↔ s.head? = some c := by
  rcases h.head?_eq_or with heq | ⟨rfl, heq⟩
  · rw [heq]
  · simp [heq, hc.symm]

/-- A choice by the first character goes the same way. -/
theorem ite_head {α β : Type} {related : α → β → Prop} {x x' : α} {y y' : β} (h : Continues s s')
    {c : Char} (hc : c ≠ ')') (hpos : Continues s.tail s'.tail → related x y)
    (hneg : related x' y') :
    related (if s.head? = some c then x else x') (if s'.head? = some c then y else y') := by
  by_cases hhead : s.head? = some c
  · rw [if_pos hhead, if_pos ((h.head?_eq_iff hc).mpr hhead)]
    cases h with
    | closing | swallowed => simp at hhead
    | cons _ hrest => exact hpos hrest
  · rw [if_neg hhead, if_neg (mt (h.head?_eq_iff hc).mp hhead)]
    exact hneg

/-- A text that goes on begins with a character of the closing or as the text itself. -/
theorem exists_of_cons {c : Char} {t' : List Char} (h : Continues s (c :: t')) (hc : c ≠ ')') :
    ∃ t, s = c :: t ∧ Continues t t' := by
  cases h with
  | closing => exact absurd rfl hc
  | cons _ hrest => exact ⟨_, rfl, hrest⟩

/-- A text that goes on begins with a mark if it did so on its own. -/
theorem append_left (mark : List Char) (h : Continues (mark ++ s) s') :
    ∃ t', s' = mark ++ t' ∧ Continues s t' := by
  induction mark generalizing s' with
  | nil => exact ⟨s', rfl, h⟩
  | cons c mark ih =>
    cases h with
    | cons _ hrest =>
      obtain ⟨t', rfl, ht'⟩ := ih hrest
      exact ⟨t', rfl, ht'⟩

theorem exists_of_append {mark t' : List Char} (h : Continues s (mark ++ t')) (hmark : ')' ∉ mark) :
    ∃ t, s = mark ++ t ∧ Continues t t' := by
  induction mark generalizing s with
  | nil => exact ⟨s, rfl, h⟩
  | cons c mark ih =>
    rw [List.mem_cons, not_or] at hmark
    obtain ⟨hc, hmark⟩ := hmark
    obtain ⟨t, rfl, ht⟩ := h.exists_of_cons (Ne.symm hc)
    obtain ⟨u, rfl, hu⟩ := ih ht hmark
    exact ⟨u, rfl, hu⟩

theorem dropWhile (h : Continues s s') {p : Char → Bool} (hp : p ')' = false) :
    Continues (s.dropWhile p) (s'.dropWhile p) := by
  induction h with
  | closing =>
    have hstays : Pattern.closing.dropWhile p = Pattern.closing :=
      List.dropWhile_cons_of_neg (by simp [hp])
    rw [hstays]
    exact .closing
  | swallowed => exact .swallowed
  | cons c hrest ih =>
    cases hc : p c with
    | true => simpa only [List.dropWhile_cons_of_pos hc] using ih
    | false =>
      have hc : ¬p c = true := by simp [hc]
      simpa only [List.dropWhile_cons_of_neg hc] using hrest.cons c

/-- A run of characters that ends in the text ends at the same place. -/
theorem takeWhile_eq (h : Continues s s') {p : Char → Bool} {c : Char} {rest : List Char}
    (hrest : s.dropWhile p = c :: rest) :
    s'.takeWhile p = s.takeWhile p ∧
      ∃ rest', s'.dropWhile p = c :: rest' ∧ Continues rest rest' := by
  induction h with
  | closing | swallowed => simp at hrest
  | cons d hmore ih =>
    cases hd : p d with
    | true =>
      rw [List.dropWhile_cons_of_pos hd] at hrest
      obtain ⟨htake, hdrop⟩ := ih hrest
      simp only [List.takeWhile_cons_of_pos hd, List.dropWhile_cons_of_pos hd, htake]
      exact ⟨trivial, hdrop⟩
    | false =>
      have hd : ¬p d = true := by simp [hd]
      rw [List.dropWhile_cons_of_neg hd] at hrest
      obtain ⟨rfl, rfl⟩ := List.cons.inj hrest
      simp only [List.takeWhile_cons_of_neg hd, List.dropWhile_cons_of_neg hd]
      exact ⟨trivial, _, rfl, hmore⟩

/-- A run of characters that goes on to the end of the text goes on over the closing. -/
theorem dropWhile_eq_nil (h : Continues s s') {p : Char → Bool} (hp : Pattern.closing.all p)
    (hrest : s.dropWhile p = []) : s'.dropWhile p = [] := by
  rw [List.dropWhile_eq_nil_iff] at hrest ⊢
  induction h with
  | closing => exact List.all_eq_true.mp hp
  | swallowed => exact hrest
  | cons c _ ih =>
    obtain ⟨hc, hrest⟩ := List.forall_mem_cons.mp hrest
    exact List.forall_mem_cons.mpr ⟨hc, ih hrest⟩

end Continues

/-! ### Answers that are carried over -/

namespace Carries

variable {α β γ δ : Type} {related : α → β → Prop} {others : γ → δ → Prop}

theorem none (y : Option β) : Carries related .none y := fun _ h ↦ absurd h (by simp)

theorem some {a : α} {b : β} (h : related a b) : Carries related (.some a) (.some b) := by
  rintro _ ⟨⟩
  exact ⟨b, rfl, h⟩

theorem bind {x : Option α} {y : Option β} {f : α → Option γ} {g : β → Option δ}
    (h : Carries related x y) (hnext : ∀ a b, related a b → Carries others (f a) (g b)) :
    Carries others (x >>= f) (y >>= g) := by
  intro c hc
  obtain ⟨a, ha, hc⟩ := Option.bind_eq_some_iff.mp hc
  obtain ⟨b, hb, hab⟩ := h a ha
  obtain ⟨d, hd, hcd⟩ := hnext a b hab c hc
  exact ⟨d, Option.bind_eq_some_iff.mpr ⟨b, hb, hd⟩, hcd⟩

/-- What does not depend on the text is the same on both sides. -/
theorem bind_same {x : Option α} {f : α → Option γ} {g : α → Option δ}
    (hnext : ∀ a, Carries others (f a) (g a)) : Carries others (x >>= f) (x >>= g) := by
  cases x with
  | none => exact .none _
  | some a => exact hnext a

theorem map {x : Option α} {y : Option β} {f : α → γ} {g : β → δ} (h : Carries related x y)
    (hnext : ∀ a b, related a b → others (f a) (g b)) : Carries others (x.map f) (y.map g) := by
  intro c hc
  obtain ⟨a, ha, rfl⟩ := Option.map_eq_some_iff.mp hc
  obtain ⟨b, hb, hab⟩ := h a ha
  exact ⟨g b, Option.map_eq_some_iff.mpr ⟨b, hb, rfl⟩, hnext a b hab⟩

theorem ite {x x' : Option α} {y y' : Option β} {p : Prop} [Decidable p]
    (hpos : p → Carries related x y) (hneg : ¬p → Carries related x' y') :
    Carries related (if p then x else x') (if p then y else y') := by
  by_cases hp : p
  · rw [if_pos hp, if_pos hp]
    exact hpos hp
  · rw [if_neg hp, if_neg hp]
    exact hneg hp

/-- A reader of one character. -/
theorem head {s s' : List Char} {f : Char → Option γ} {g : Char → Option δ} (h : Continues s s')
    (hnext : ∀ c t t', s = c :: t → s' = c :: t' → Continues t t' → Carries others (f c) (g c)) :
    Carries others (s.head? >>= f) (s'.head? >>= g) := by
  cases h with
  | closing | swallowed => exact .none _
  | cons c hrest => exact hnext c _ _ rfl rfl hrest

end Carries

section

variable {α β γ δ : Type} {related : α → β → Prop} {others : γ → δ → Prop}

theorem eq_none_of_rel {y : Option β} (h : Option.Rel related none y) : y = none := by
  cases h
  rfl

theorem exists_of_rel {a : α} {y : Option β} (h : Option.Rel related (some a) y) :
    ∃ b, y = some b ∧ related a b := by
  cases h with
  | some hab => exact ⟨_, rfl, hab⟩

theorem rel_bind {x : Option α} {y : Option β} {f : α → Option γ} {g : β → Option δ}
    (h : Option.Rel related x y) (hnext : ∀ a b, related a b → Option.Rel others (f a) (g b)) :
    Option.Rel others (x.bind f) (y.bind g) := by
  cases h with
  | none => exact .none
  | some hab => exact hnext _ _ hab

theorem rel_or {x x' : Option α} {y y' : Option β} (h : Option.Rel related x y)
    (h' : Option.Rel related x' y') : Option.Rel related (x.or x') (y.or y') := by
  cases h with
  | none => exact h'
  | some hab => exact .some hab

end

section

variable {s s' : List Char}

/-! ### Marks -/

theorem after?_eq_some_iff {mark s t : List Char} : after? mark s = some t ↔ s = mark ++ t := by
  rw [after?]
  constructor
  · intro hafter
    split_ifs at hafter with hmark
    obtain ⟨u, rfl⟩ := List.isPrefixOf_iff_prefix.mp hmark
    rw [List.drop_left, Option.some.injEq] at hafter
    rw [hafter]
  · rintro rfl
    rw [if_pos (List.isPrefixOf_iff_prefix.mpr (List.prefix_append mark t)), List.drop_left]

/-- A text with the closing after it begins with a mark if the text itself does. -/
theorem isPrefixOf_eq {mark : List Char} (h : Continues s s') (hmark : ')' ∉ mark) :
    mark.isPrefixOf s' = mark.isPrefixOf s := by
  rw [Bool.eq_iff_iff, List.isPrefixOf_iff_prefix, List.isPrefixOf_iff_prefix]
  constructor
  · rintro ⟨t', rfl⟩
    obtain ⟨t, rfl, -⟩ := h.exists_of_append hmark
    exact List.prefix_append mark t
  · rintro ⟨t, rfl⟩
    obtain ⟨t', rfl, -⟩ := h.append_left
    exact List.prefix_append mark t'

theorem any_isPrefixOf_eq {marks : List (List Char)} (h : Continues s s')
    (hmarks : ∀ mark ∈ marks, ')' ∉ mark) :
    marks.any (·.isPrefixOf s') = marks.any (·.isPrefixOf s) := by
  rw [Bool.eq_iff_iff, List.any_eq_true, List.any_eq_true]
  refine exists_congr fun mark ↦ and_congr_right fun hmark ↦ ?_
  rw [isPrefixOf_eq h (hmarks mark hmark)]

theorem rel_after? {mark : List Char} (h : Continues s s') (hmark : ')' ∉ mark) :
    Option.Rel Continues (after? mark s) (after? mark s') := by
  cases hafter : after? mark s with
  | some t =>
    obtain rfl := after?_eq_some_iff.mp hafter
    obtain ⟨t', rfl, ht'⟩ := h.append_left
    rw [after?_eq_some_iff.mpr rfl]
    exact .some ht'
  | none =>
    cases hafter' : after? mark s' with
    | some t' =>
      obtain rfl := after?_eq_some_iff.mp hafter'
      obtain ⟨t, rfl, -⟩ := h.exists_of_append hmark
      simp [after?_eq_some_iff.mpr] at hafter
    | none => exact .none

/-- Whether a text begins with a sign, and the text after it. -/
def sign (c : Char) (s : List Char) : Bool × List Char :=
  if s.head? = some c then (true, s.tail) else (false, s)

theorem sign_cons (c : Char) (s : List Char) : sign c (c :: s) = (true, s) := if_pos rfl

theorem sign_of_ne {c : Char} (hs : ∀ t, s = c :: t → False) : sign c s = (false, s) := by
  refine if_neg fun hhead ↦ ?_
  obtain ⟨t, ht⟩ := List.head?_eq_some_iff.mp hhead
  exact hs t ht

theorem beside_sign (h : Continues s s') {c : Char} (hc : c ≠ ')') :
    Beside Continues (sign c s) (sign c s') :=
  h.ite_head hc (fun hrest ↦ ⟨rfl, hrest⟩) ⟨rfl, h⟩

/-! ### Blanks and comments -/

theorem length_skipSpace_go (s : List Char) : (skipSpace.go s).length ≤ s.length := by
  induction s using skipSpace.go.induct with
  | case1 => simp [skipSpace.go]
  | case2 c s hblank ih =>
    rw [skipSpace.go, if_pos hblank]
    exact ih.trans (Nat.le_succ _)
  | case3 s hblank ih =>
    rw [skipSpace.go, if_neg hblank, if_pos rfl]
    exact (ih.trans (length_skipComment s)).trans (Nat.le_succ _)
  | case4 c s hblank hsign => rw [skipSpace.go, if_neg hblank, if_neg hsign]

theorem length_skipSpace (f : Flags) (s : List Char) : (skipSpace f s).length ≤ s.length := by
  rw [skipSpace]
  split_ifs
  · exact length_skipSpace_go s
  · exact le_rfl

theorem Continues.skipComment (h : Continues s s') :
    Continues (skipComment s) (skipComment s') := by
  induction h with
  | closing | swallowed => exact .swallowed
  | cons c hrest ih =>
    rw [Pattern.skipComment, Pattern.skipComment]
    split_ifs
    · exact hrest
    · exact ih

theorem Continues.skipSpace_go (h : Continues s s') :
    Continues (skipSpace.go s) (skipSpace.go s') := by
  induction s using skipSpace.go.induct generalizing s' with
  | case1 =>
    cases h with
    | closing =>
      have hstays : skipSpace.go Pattern.closing = Pattern.closing := by
        rw [Pattern.closing, skipSpace.go, if_neg (by decide), if_neg (by decide)]
      rw [skipSpace.go, hstays]
      exact .closing
    | swallowed => exact .refl _
  | case2 c s hblank ih =>
    cases h with
    | cons _ hrest =>
      rw [skipSpace.go, skipSpace.go, if_pos hblank, if_pos hblank]
      exact ih hrest
  | case3 s hblank ih =>
    cases h with
    | cons _ hrest =>
      rw [skipSpace.go, skipSpace.go, if_neg hblank, if_neg hblank, if_pos rfl, if_pos rfl]
      exact ih hrest.skipComment
  | case4 c s hblank hsign =>
    cases h with
    | cons _ hrest =>
      rw [skipSpace.go, skipSpace.go, if_neg hblank, if_neg hblank, if_neg hsign, if_neg hsign]
      exact hrest.cons c

theorem Continues.skipSpace (h : Continues s s') (f : Flags) :
    Continues (skipSpace f s) (skipSpace f s') := by
  rw [Pattern.skipSpace, Pattern.skipSpace]
  split_ifs
  · exact h.skipSpace_go
  · exact h

theorem peekSpace_go_eq_iff {d : Char} (hblank : isBlank d = false) (hsign : d ≠ '#')
    (hclose : d ≠ ')') {t t' : List Char} (ht : Continues t t')
    (hpassed : ∀ c ∈ t.head?, isBlank c = true ∨ c = '#') (first : Char) (h : Continues s s')
    (comment : Bool) :
    peekSpace.go (first :: t') comment s' = some d ↔
      peekSpace.go (first :: t) comment s = some d := by
  have hnot : t.head? ≠ some d := by
    intro hhead
    rcases hpassed d hhead with hd | rfl
    · simp [hblank] at hd
    · exact hsign rfl
  have hnot' : t'.head? ≠ some d := mt (ht.head?_eq_iff hclose).mp hnot
  induction h generalizing comment with
  | closing =>
    have hcloses : peekSpace.go (first :: t') comment closing = some ')' := by
      rw [closing, peekSpace.go, if_neg (by decide), if_neg (by decide +revert)]
    simpa [hcloses, peekSpace.go, hnot] using hclose.symm
  | swallowed => simp [peekSpace.go, hnot, hnot']
  | cons c _ ih =>
    rw [peekSpace.go, peekSpace.go]
    split_ifs
    · exact ih comment
    · exact ih true
    · rfl

/-- Whether the next character that counts is the one asked for does not depend on the closing. -/
theorem peekSpace_eq_iff (f : Flags) {d : Char} (hblank : isBlank d = false) (hsign : d ≠ '#')
    (hclose : d ≠ ')') (first : Char) (h : Continues s s') :
    peekSpace f (first :: s') = some d ↔ peekSpace f (first :: s) = some d := by
  rw [peekSpace, peekSpace]
  split_ifs with hignore
  · rw [List.tail_cons, List.tail_cons]
    cases h with
    | closing =>
      have hcloses : peekSpace.go (first :: closing) false closing = some ')' := by
        rw [closing, peekSpace.go, if_neg (by decide), if_neg (by decide)]
      simpa [hcloses, peekSpace.go] using hclose.symm
    | swallowed => rfl
    | cons c hrest =>
      by_cases hpassed : isBlank c = true ∨ c = '#'
      · exact peekSpace_go_eq_iff hblank hsign hclose (hrest.cons c) (by simpa using hpassed) first
          (hrest.cons c) false
      · obtain ⟨hc, hmark⟩ := not_or.mp hpassed
        simp [peekSpace.go, hc, hmark]
  · exact h.head?_eq_iff hclose

/-- A run of characters between which blanks are skipped, and the text after it. -/
def spacedRun (p : Char → Bool) (f : Flags) : Nat → List Char → List Char × List Char
  | 0, s => ([], s)
  | _ + 1, [] => ([], [])
  | fuel + 1, c :: s =>
    if p c then
      let (run, rest) := spacedRun p f fuel (skipSpace f s)
      (c :: run, rest)
    else ([], c :: s)

theorem spacedRun_end {p : Char → Bool} (hp : p ')' = false) (f : Flags) (fuel : Nat)
    (h : Continues [] s) : spacedRun p f fuel s = ([], s) := by
  cases h with
  | closing =>
    cases fuel with
    | zero => rfl
    | succ fuel => rw [closing, spacedRun, if_neg (by simp [hp])]
  | swallowed => cases fuel <;> rfl

/-- The run ends at the same place if there is enough fuel for it. -/
theorem beside_spacedRun {p : Char → Bool} (hp : p ')' = false) (f : Flags) {fuel fuel' : Nat}
    (hfuel : s.length ≤ fuel) (hfuel' : s'.length ≤ fuel') (h : Continues s s') :
    Beside Continues (spacedRun p f fuel s) (spacedRun p f fuel' s') := by
  induction fuel generalizing fuel' s s' with
  | zero =>
    obtain rfl : s = [] := List.eq_nil_of_length_eq_zero (Nat.le_zero.mp hfuel)
    rw [spacedRun_end hp f fuel' h]
    exact ⟨rfl, h⟩
  | succ fuel ih =>
    cases s with
    | nil =>
      rw [spacedRun_end hp f fuel' h]
      exact ⟨rfl, h⟩
    | cons c s =>
      cases h with
      | cons _ hrest =>
        obtain ⟨fuel', rfl⟩ := Nat.exists_eq_succ_of_ne_zero (Nat.ne_zero_of_lt hfuel')
        have hshort := (length_skipSpace f s).trans (Nat.le_of_succ_le_succ hfuel)
        have hshort' := (length_skipSpace f _).trans (Nat.le_of_succ_le_succ hfuel')
        obtain ⟨hrun, hmore⟩ := ih hshort hshort' (hrest.skipSpace f)
        rw [spacedRun, spacedRun]
        split_ifs
        · exact ⟨congrArg (c :: ·) hrun, hmore⟩
        · exact ⟨rfl, hrest.cons c⟩

/-! ### Flags -/

theorem carries_read (h : Continues s s') (f : Flags) (seen : List Char) :
    Carries (Beside (Beside (Beside Continues))) (f.read seen s) (f.read seen s') := by
  induction h generalizing f seen with
  | closing | swallowed => exact .none _
  | cons c hrest ih =>
    rw [Flags.read, Flags.read]
    refine .ite (fun _ ↦ .ite (fun _ ↦ .none _) fun _ ↦ .some ⟨rfl, rfl, rfl, hrest⟩)
      fun _ ↦ ?_
    refine .ite (fun _ ↦ .none _) fun _ ↦ .ite (fun _ ↦ ih _ _) fun _ ↦ ?_
    split
    · exact ih _ _
    · exact .none _

/-! ### Escapes -/

theorem carries_hexDigits? (f : Flags) (count value : Nat) (h : Continues s s') :
    Carries (Beside Continues) (hexDigits? f count value s) (hexDigits? f count value s') := by
  induction count generalizing value s s' with
  | zero => exact .some ⟨rfl, h⟩
  | succ count ih =>
    rw [hexDigits?, hexDigits?]
    refine .head h ?_
    rintro c t t' rfl rfl hrest
    exact .bind_same fun d ↦ ih _ (hrest.skipSpace f)

/-- The brace that closes the number is still to come. -/
theorem carries_hexBraced? (f : Flags) {fuel fuel' : Nat} (hfuel : fuel ≤ fuel')
    (count value : Nat) (h : Continues s s') :
    Carries (Beside (Beside fun r r' ↦ Continues r.tail r'.tail)) (hexBraced? f fuel count value s)
      (hexBraced? f fuel' count value s') := by
  induction fuel generalizing fuel' count value s s' with
  | zero => exact .none _
  | succ fuel ih =>
    obtain ⟨fuel', rfl⟩ := Nat.exists_eq_succ_of_ne_zero (Nat.ne_zero_of_lt hfuel)
    rw [hexBraced?, hexBraced?]
    refine .head h ?_
    rintro c t t' rfl rfl hrest
    refine .ite (fun _ ↦ .some ⟨rfl, rfl, hrest⟩) fun _ ↦ ?_
    exact .bind_same fun d ↦ ih (Nat.le_of_succ_le_succ hfuel) _ _ (hrest.skipSpace f)

theorem carries_hexEscape? (f : Flags) (kind : Char) (h : Continues s s') :
    Carries (Beside Continues) (hexEscape? f kind s) (hexEscape? f kind s') := by
  rw [hexEscape?, hexEscape?]
  refine .head (h.skipSpace f) ?_
  intro c t t' ht ht' hrest
  rw [ht, ht']
  refine .ite (fun _ ↦ ?_) fun _ ↦ ?_
  · have hlength := Nat.succ_le_succ hrest.length_le
    refine .bind (carries_hexBraced? f hlength 0 0 (hrest.skipSpace f)) ?_
    rintro ⟨count, value, r⟩ ⟨_, _, r'⟩ ⟨rfl, rfl, hr⟩
    refine .ite (fun _ ↦ .none _) fun _ ↦ ?_
    exact .bind_same fun d ↦ .some ⟨rfl, hr.skipSpace f⟩
  · refine .bind (carries_hexDigits? f _ 0 (hrest.cons c)) ?_
    rintro ⟨value, r⟩ ⟨_, r'⟩ ⟨rfl, hr⟩
    exact .bind_same fun d ↦ .some ⟨rfl, hr⟩

theorem carries_propertyName? (f : Flags) {fuel fuel' : Nat} (hfuel : fuel ≤ fuel')
    (h : Continues s s') :
    Carries (Beside Continues) (propertyName? f fuel s) (propertyName? f fuel' s') := by
  induction fuel generalizing fuel' s s' with
  | zero => exact .none _
  | succ fuel ih =>
    obtain ⟨fuel', rfl⟩ := Nat.exists_eq_succ_of_ne_zero (Nat.ne_zero_of_lt hfuel)
    rw [propertyName?, propertyName?]
    refine .head h ?_
    rintro c t t' rfl rfl hrest
    refine .ite (fun _ ↦ .some ⟨rfl, hrest⟩) fun _ ↦ ?_
    refine .bind (ih (Nat.le_of_succ_le_succ hfuel) (hrest.skipSpace f)) ?_
    rintro ⟨name, r⟩ ⟨_, r'⟩ ⟨rfl, hr⟩
    exact .some ⟨rfl, hr⟩

theorem carries_propertyEscape? (f : Flags) (negated : Bool) (h : Continues s s') :
    Carries (Beside Continues) (propertyEscape? f negated s) (propertyEscape? f negated s') := by
  rw [propertyEscape?, propertyEscape?]
  refine .head (h.skipSpace f) ?_
  intro c t t' ht ht' hrest
  rw [ht, ht']
  refine .ite (fun _ ↦ ?_) fun _ ↦ .ite (fun _ ↦ .none _) fun _ ↦ .some ⟨rfl, hrest.skipSpace f⟩
  refine .bind (carries_propertyName? f (Nat.succ_le_succ hrest.length_le) (hrest.skipSpace f)) ?_
  rintro ⟨name, r⟩ ⟨_, r'⟩ ⟨rfl, hr⟩
  dsimp only
  split
  · exact .some ⟨rfl, hr⟩
  · split <;> exact .some ⟨rfl, hr⟩

theorem boundaryName_eq (f : Flags) (fuel : Nat) (s : List Char) :
    boundaryName f fuel s = spacedRun (fun c ↦ c.isAlpha || c == '-') f fuel s := by
  induction fuel generalizing s with
  | zero => cases s <;> rfl
  | succ fuel ih =>
    cases s with
    | nil => rfl
    | cons c s => rw [boundaryName, spacedRun, ih]

theorem carries_boundaryEscape? (f : Flags) (h : Continues s s') :
    Carries (Beside Continues) (boundaryEscape? f s) (boundaryEscape? f s') := by
  rw [boundaryEscape?, boundaryEscape?]
  refine h.ite_head (by decide) (fun hrest ↦ ?_) (.some ⟨rfl, h⟩)
  refine .head (hrest.skipSpace f) fun c _ _ _ _ _ ↦ .ite (fun _ ↦ ?_) fun _ ↦ .some ⟨rfl, h⟩
  simp only [boundaryName_eq]
  obtain ⟨hname, hmore⟩ := beside_spacedRun (p := fun c ↦ c.isAlpha || c == '-') (by decide) f
    le_rfl le_rfl (hrest.skipSpace f)
  simp only [hname]
  refine hmore.ite_head (by decide) (fun hafter ↦ ?_) (.none _)
  split
  iterate 4 exact .some ⟨rfl, hafter⟩
  exact .none _

theorem carries_escape? (f : Flags) (h : Continues s s') :
    Carries (Beside Continues) (escape? f s) (escape? f s') := by
  rw [escape?, escape?]
  refine .head h ?_
  rintro c t t' rfl rfl hrest
  refine .ite (fun _ ↦ carries_hexEscape? f c hrest) fun _ ↦ ?_
  refine .ite (fun _ ↦ carries_propertyEscape? f _ hrest) fun _ ↦ ?_
  refine .ite (fun _ ↦ .some ⟨rfl, hrest⟩) fun _ ↦ ?_
  dsimp only [List.tail_cons]
  split <;> try exact .some ⟨rfl, hrest⟩
  · refine .bind (carries_boundaryEscape? f hrest) ?_
    rintro ⟨look, r⟩ ⟨_, r'⟩ ⟨rfl, hr⟩
    exact .some ⟨rfl, hr⟩
  · exact .none _

/-! ### Classes -/

theorem leadingMinus_eq (f : Flags) (fuel : Nat) (o : OpenClass) (s : List Char) :
    leadingMinus f fuel o s =
      ((spacedRun (· == '-') f fuel s).1.foldl (fun o _ ↦ o.push (.single '-') 0) o,
        (spacedRun (· == '-') f fuel s).2) := by
  induction fuel generalizing o s with
  | zero => cases s <;> rfl
  | succ fuel ih =>
    cases s with
    | nil => rfl
    | cons c s =>
      rw [leadingMinus, spacedRun]
      by_cases hc : c = '-'
      · simp [hc, ih]
      · simp [hc]

theorem beside_openClass (f : Flags) (h : Continues s s') :
    Beside Continues (openClass f s) (openClass f s') := by
  have hstart := h.skipSpace f
  have hnegated : Beside Continues
      (if (skipSpace f s).head? = some '^' then (true, skipSpace f (skipSpace f s).tail)
        else (false, skipSpace f s))
      (if (skipSpace f s').head? = some '^' then (true, skipSpace f (skipSpace f s').tail)
        else (false, skipSpace f s')) :=
    hstart.ite_head (by decide) (fun hrest ↦ ⟨rfl, hrest.skipSpace f⟩) ⟨rfl, hstart⟩
  rw [openClass, openClass]
  dsimp only
  generalize (if (skipSpace f s).head? = some '^' then (true, skipSpace f (skipSpace f s).tail)
    else (false, skipSpace f s)) = start at hnegated ⊢
  generalize (if (skipSpace f s').head? = some '^' then (true, skipSpace f (skipSpace f s').tail)
    else (false, skipSpace f s')) = start' at hnegated ⊢
  obtain ⟨negated, t⟩ := start
  obtain ⟨_, t'⟩ := start'
  obtain ⟨rfl, ht⟩ := hnegated
  obtain ⟨hminus, hu⟩ := beside_spacedRun (p := (· == '-')) (by decide) f le_rfl le_rfl ht
  simp only [leadingMinus_eq, hminus]
  generalize (spacedRun (· == '-') f t'.length t').1.foldl (fun o _ ↦ o.push (.single '-') 0)
    ({ negated } : OpenClass) = o
  by_cases hitems : o.items = 0
  · simp only [hitems, true_and]
    exact hu.ite_head (by decide) (fun hrest ↦ ⟨rfl, hrest.skipSpace f⟩) ⟨rfl, hu⟩
  · simp only [hitems, false_and]
    exact ⟨rfl, hu⟩

theorem match_caret (s : List Char) :
    (match s with
      | '^' :: t => (true, t)
      | t => (false, t)) = sign '^' s := by
  split
  · rw [sign_cons]
  · rename_i hcaret
    rw [sign_of_ne hcaret]

theorem match_classEnd {α : Type} (g : List Char → Option α) (s : List Char) :
    (match s with
      | ':' :: ']' :: rest => g rest
      | _ => none) = (after? [':', ']'] s).bind g := by
  split
  · rfl
  · rename_i hend
    cases hafter : after? [':', ']'] s with
    | some rest => exact absurd (after?_eq_some_iff.mp hafter) (hend rest)
    | none => rfl

/-- What a POSIX class is, in terms of the marks that it begins and ends with. -/
theorem posix?_eq (f : Flags) (s : List Char) :
    posix? f s = (after? ['[', ':'] s).bind fun t ↦
      (after? [':', ']'] ((sign '^' t).2.dropWhile (· != ':'))).bind fun rest ↦
        (posixClass? (String.ofList ((sign '^' t).2.takeWhile (· != ':')))).map fun c ↦
          (foldAndNegate f (sign '^' t).1 c, rest) := by
  cases hbegin : after? ['[', ':'] s with
  | some t =>
    obtain rfl := after?_eq_some_iff.mp hbegin
    rw [Option.bind_some, ← match_classEnd, ← drop_length_takeWhile, ← match_caret]
    rfl
  | none =>
    unfold posix?
    split
    · rename_i t
      have hmark : after? ['[', ':'] ('[' :: ':' :: t) = some t := after?_eq_some_iff.mpr rfl
      exact absurd (hbegin.symm.trans hmark) (by simp)
    · rfl

/-- A POSIX class is none with the closing after it if it is none without. -/
theorem rel_posix? (f : Flags) (h : Continues s s') :
    Option.Rel (Beside Continues) (posix? f s) (posix? f s') := by
  rw [posix?_eq, posix?_eq]
  refine rel_bind (rel_after? h (by decide)) fun t t' ht ↦ ?_
  obtain ⟨hnegated, hname⟩ := beside_sign ht (c := '^') (by decide)
  rw [hnegated]
  cases hrest : (sign '^' t).2.dropWhile (· != ':') with
  | nil =>
    rw [hname.dropWhile_eq_nil (by decide) hrest]
    exact .none
  | cons c rest =>
    obtain ⟨htake, rest', hrest', hmore⟩ := hname.takeWhile_eq hrest
    rw [hrest', htake]
    refine rel_bind (rel_after? (hmore.cons c) (by decide)) fun u u' hu ↦ ?_
    cases posixClass? _ with
    | none => exact .none
    | some set => exact .some ⟨rfl, hu⟩

theorem carries_classAtom? (f : Flags) (h : Continues s s') :
    Carries (Beside Continues) (classAtom? f s) (classAtom? f s') := by
  rw [classAtom?, classAtom?]
  refine .head h ?_
  rintro c t t' rfl rfl hrest
  exact .ite (fun _ ↦ carries_escape? f hrest) fun _ ↦ .some ⟨rfl, hrest⟩

theorem carries_classItem? (f : Flags) (h : Continues s s') :
    Carries (Beside Continues) (classItem? f s) (classItem? f s') := by
  rw [classItem?, classItem?]
  refine .bind (carries_classAtom? f h) ?_
  rintro ⟨first, t⟩ ⟨_, t'⟩ ⟨rfl, ht⟩
  refine .head (ht.skipSpace f) ?_
  intro c u u' hu hu' hrest
  have hbracket := peekSpace_eq_iff f (d := ']') (by decide) (by decide) (by decide) c hrest
  have hminus := peekSpace_eq_iff f (d := '-') (by decide) (by decide) (by decide) c hrest
  simp only [hu, hu', hbracket, hminus]
  refine .ite (fun _ ↦ ?_) fun _ ↦ ?_
  · split
    · exact .some ⟨rfl, hrest.cons c⟩
    · exact .bind_same fun set ↦ .some ⟨rfl, hrest.cons c⟩
  · refine .bind (carries_classAtom? f (hrest.skipSpace f)) ?_
    rintro ⟨second, r⟩ ⟨_, r'⟩ ⟨rfl, hr⟩
    refine .bind_same fun low ↦ .bind_same fun high ↦ ?_
    exact .ite (fun _ ↦ .some ⟨rfl, hr⟩) fun _ ↦ .none _

theorem carries_class? (f : Flags) {fuel fuel' : Nat} (hfuel : fuel ≤ fuel')
    (outer : List OpenClass) (o : OpenClass) (h : Continues s s') :
    Carries (Beside (Beside Continues)) (class? f fuel outer o s) (class? f fuel' outer o s') := by
  induction fuel generalizing fuel' outer o s s' with
  | zero => exact .none _
  | succ fuel ih =>
    obtain ⟨fuel', rfl⟩ := Nat.exists_eq_succ_of_ne_zero (Nat.ne_zero_of_lt hfuel)
    have hle := Nat.le_of_succ_le_succ hfuel
    unfold class?
    have hskip := h.skipSpace f
    generalize skipSpace f s = t at hskip ⊢
    generalize skipSpace f s' = t' at hskip ⊢
    -- In the order of `class?`: the end, an inner class, the closing bracket, the three operators
    -- and an item.
    split
    · exact .none _
    · obtain _ | _ | ⟨_, hrest⟩ := hskip
      dsimp only
      have hposix := rel_posix? f (hrest.cons '[')
      split
      · rename_i hread
        rw [hread] at hposix
        obtain ⟨⟨_, rest'⟩, hread', rfl, hmore⟩ := exists_of_rel hposix
        simp only [hread']
        exact ih hle _ _ hmore
      · exact .none _
      · rename_i hread
        rw [hread] at hposix
        obtain ⟨hinner, hmore⟩ := beside_openClass f hrest
        simp only [eq_none_of_rel hposix, hinner]
        exact ih hle _ _ hmore
    · obtain _ | _ | ⟨_, hrest⟩ := hskip
      dsimp only
      split
      · exact .none _
      · cases outer with
        | nil => exact .some ⟨rfl, rfl, hrest⟩
        | cons enclosing outer => exact ih hle _ _ hrest
    · obtain _ | _ | ⟨_, _ | _ | ⟨_, hrest⟩⟩ := hskip
      exact ih hle _ _ hrest
    · obtain _ | _ | ⟨_, _ | _ | ⟨_, hrest⟩⟩ := hskip
      exact ih hle _ _ hrest
    · obtain _ | _ | ⟨_, _ | _ | ⟨_, hrest⟩⟩ := hskip
      exact ih hle _ _ hrest
    · rename_i hend hopen hclose hinter hdiff hsymm
      cases hitem : classItem? f t with
      | none => exact .none _
      | some item =>
        obtain ⟨set, rest⟩ := item
        obtain ⟨⟨_, rest'⟩, hitem', rfl, hrest⟩ := carries_classItem? f hskip (set, rest) hitem
        dsimp only
        -- The text with the closing after it begins with no sign of a class either.
        split
        · obtain _ | _ := hskip
          exact absurd rfl hend
        · obtain ⟨u, rfl, -⟩ := hskip.exists_of_cons (by decide)
          exact absurd rfl (hopen u)
        · obtain ⟨u, rfl, -⟩ := hskip.exists_of_cons (by decide)
          exact absurd rfl (hclose u)
        · obtain ⟨u, rfl, -⟩ := hskip.exists_of_append (show ')' ∉ ['&', '&'] by decide)
          exact absurd rfl (hinter u)
        · obtain ⟨u, rfl, -⟩ := hskip.exists_of_append (show ')' ∉ ['-', '-'] by decide)
          exact absurd rfl (hdiff u)
        · obtain ⟨u, rfl, -⟩ := hskip.exists_of_append (show ')' ∉ ['~', '~'] by decide)
          exact absurd rfl (hsymm u)
        · rw [Option.mem_def.mp hitem']
          exact ih hle _ _ hrest

/-! ### Names and numbers -/

theorem carries_groupName? (h : Continues s s') :
    Carries (Beside Continues) (groupName? s) (groupName? s') := by
  rw [groupName?, groupName?]
  rw [drop_length_takeWhile, drop_length_takeWhile]
  cases hrest : s.dropWhile (· != '>') with
  | nil =>
    split
    · simp_all
    · exact .none _
  | cons c rest =>
    obtain ⟨htake, rest', hrest', hmore⟩ := h.takeWhile_eq hrest
    rw [hrest', htake]
    split
    · rename_i hname hcut
      obtain ⟨rfl, rfl⟩ := List.cons.inj hcut
      simp only [hname]
      exact .ite (fun _ ↦ .some ⟨rfl, hmore⟩) fun _ ↦ .none _
    · exact .none _

theorem decimal?_go_eq (f : Flags) (fuel : Nat) (s : List Char) :
    decimal?.go f fuel s = spacedRun isAsciiDigit f fuel s := by
  induction fuel generalizing s with
  | zero => cases s <;> rfl
  | succ fuel ih =>
    cases s with
    | nil => rfl
    | cons c s => rw [decimal?.go, spacedRun, ih]

theorem decimal?_skipBlanks_eq (f : Flags) (fuel : Nat) (s : List Char) :
    decimal?.skipBlanks f fuel s = (spacedRun isBlank f fuel s).2 := by
  induction fuel generalizing s with
  | zero => cases s <;> rfl
  | succ fuel ih =>
    cases s with
    | nil => rfl
    | cons c s =>
      rw [decimal?.skipBlanks, spacedRun, ih]
      split_ifs <;> rfl

theorem beside_decimal? (f : Flags) (h : Continues s s') :
    Beside Continues (decimal? f s) (decimal? f s') := by
  have hstart := h.dropWhile (p := isBlank) (by decide)
  obtain ⟨hdigits, hmore⟩ := beside_spacedRun (p := isAsciiDigit) (by decide) f le_rfl le_rfl hstart
  rw [decimal?, decimal?]
  simp only [decimal?_go_eq, decimal?_skipBlanks_eq, hdigits]
  refine ⟨rfl, ?_⟩
  dsimp only
  split_ifs
  · exact (beside_spacedRun (by decide) f le_rfl le_rfl hmore).2
  · exact hmore.dropWhile (by decide)

/-- The end of a counted repetition, from the closing brace on. -/
def countEnd? (f : Flags) (low : Nat) (high : Option Nat) (s : List Char) :
    Option (Nat × Option Nat × Bool × List Char) :=
  if s.head? = some '\x7d' then
    let t := skipSpace f s.tail
    if high.all (low ≤ ·) then some (low, high, !(sign '?' t).1, (sign '?' t).2) else none
  else none

theorem countEnd?_eq (f : Flags) (low : Nat) (high : Option Nat) (s : List Char) :
    countEnd? f low high s =
      if s.head? = some '\x7d' ∧ high.all (low ≤ ·) then
        match skipSpace f s.tail with
        | '?' :: rest => some (low, high, false, rest)
        | rest => some (low, high, true, rest)
      else none := by
  rw [countEnd?, ite_and]
  split_ifs
  · dsimp only
    split
    · rename_i hmark
      rw [hmark, sign_cons]
      rfl
    · rename_i hmark
      rw [sign_of_ne hmark]
      rfl
  · rfl
  · rfl

theorem counted?_eq (f : Flags) (s : List Char) :
    counted? f s =
      match (decimal? f (skipSpace f s)).2 with
      | ',' :: t =>
        if (skipSpace f t).head? = some '\x7d' then
          (decimal? f (skipSpace f s)).1.bind fun low ↦ countEnd? f low none (skipSpace f t)
        else
          (decimal? f (skipSpace f s)).1.bind fun low ↦
            (decimal? f (skipSpace f t)).1.bind fun high ↦
              countEnd? f low (some high) (decimal? f (skipSpace f t)).2
      | t =>
        (decimal? f (skipSpace f s)).1.bind fun low ↦
          (decimal? f (skipSpace f s)).1.bind fun high ↦ countEnd? f low (some high) t := by
  simp only [countEnd?_eq]
  rfl

theorem carries_countEnd? (f : Flags) (low : Nat) (high : Option Nat) (h : Continues s s') :
    Carries (Beside (Beside (Beside Continues))) (countEnd? f low high s)
      (countEnd? f low high s') := by
  refine h.ite_head (by decide) (fun hrest ↦ ?_) (.none _)
  obtain ⟨hgreedy, hmore⟩ := beside_sign (hrest.skipSpace f) (c := '?') (by decide)
  exact .ite (fun _ ↦ .some ⟨rfl, rfl, congrArg (!·) hgreedy, hmore⟩) fun _ ↦ .none _

theorem carries_counted? (f : Flags) (h : Continues s s') :
    Carries (Beside (Beside (Beside Continues))) (counted? f s) (counted? f s') := by
  obtain ⟨hlow, hrest⟩ := beside_decimal? f (h.skipSpace f)
  rw [counted?_eq, counted?_eq]
  simp only [hlow]
  generalize (decimal? f (skipSpace f s')).1 = low
  generalize (decimal? f (skipSpace f s)).2 = t at hrest ⊢
  generalize (decimal? f (skipSpace f s')).2 = t' at hrest ⊢
  split
  · obtain _ | _ | ⟨_, hrest⟩ := hrest
    have hskip := hrest.skipSpace f
    refine hskip.ite_head (by decide) (fun _ ↦ ?_) ?_
    · exact .bind_same fun low ↦ carries_countEnd? f low none hskip
    · obtain ⟨hhigh, hmore⟩ := beside_decimal? f hskip
      rw [hhigh]
      exact .bind_same fun low ↦ .bind_same fun high ↦ carries_countEnd? f low (some high) hmore
  · rename_i hcomma
    split
    · obtain ⟨u, rfl, -⟩ := hrest.exists_of_cons (by decide)
      exact absurd rfl (hcomma u)
    · exact .bind_same fun low ↦ .bind_same fun high ↦ carries_countEnd? f low (some high) hrest

/-! ### Pieces -/

/-- What the reader knows within a larger pattern, of which one more group is open. -/
def Reading.below (r : Reading) (g : OpenGroup) : Reading := { r with groups := r.groups ++ [g] }

@[simp]
theorem Reading.flags_below (r : Reading) (g : OpenGroup) : (r.below g).flags = r.flags := rfl

/-- Whether a reader in the larger pattern goes on as the one of the pattern itself does. -/
def BelowRead (g : OpenGroup) (p p' : Reading × List Char) : Prop :=
  p'.1 = p.1.below g ∧ Continues p.2 p'.2

section

variable {r : Reading} {g : OpenGroup}

theorem carries_repeatLast? (r : Reading) (g : OpenGroup) (min : Nat) (max : Option Nat)
    (greedy : Bool) :
    Carries (fun r₁ r₂ ↦ r₂ = r₁.below g) (r.repeatLast? min max greedy)
      ((r.below g).repeatLast? min max greedy) := by
  obtain ⟨groups, branches, pieces, flags, count, names⟩ := r
  obtain _ | ⟨_ | _, pieces⟩ := pieces
  · exact .none _
  · exact .some rfl
  · exact .none _

theorem carries_closeGroup? (r : Reading) (g : OpenGroup) :
    Carries (fun r₁ r₂ ↦ r₂ = r₁.below g) r.closeGroup? (r.below g).closeGroup? := by
  obtain ⟨groups, branches, pieces, flags, count, names⟩ := r
  cases groups with
  | nil => exact .none _
  | cons first groups => exact .some rfl

theorem carries_groupStart? (r : Reading) (g : OpenGroup) (h : Continues s s') :
    Carries (BelowRead g) (groupStart? r s) (groupStart? (r.below g) s') := by
  have hskip : Continues (skipSpace r.flags s) (skipSpace (r.below g).flags s') :=
    h.skipSpace r.flags
  unfold groupStart?
  dsimp only
  generalize skipSpace r.flags s = t at hskip ⊢
  generalize skipSpace (r.below g).flags s' = t' at hskip ⊢
  rw [any_isPrefixOf_eq hskip (by decide)]
  refine .ite (fun _ ↦ .none _) fun _ ↦ ?_
  have hname : Option.Rel Continues ((after? ['?', 'P', '<'] t).or (after? ['?', '<'] t))
      ((after? ['?', 'P', '<'] t').or (after? ['?', '<'] t')) :=
    rel_or (rel_after? hskip (by decide)) (rel_after? hskip (by decide))
  split
  · rename_i hread
    rw [hread] at hname
    obtain ⟨u', hread', hu⟩ := exists_of_rel hname
    rw [hread']
    refine .bind (carries_groupName? hu) ?_
    rintro ⟨name, v⟩ ⟨_, v'⟩ ⟨rfl, hv⟩
    exact .ite (fun _ ↦ .none _) fun _ ↦ .some ⟨rfl, hv⟩
  · rename_i hread
    rw [hread] at hname
    rw [eq_none_of_rel hname]
    dsimp only
    split
    · obtain _ | _ | ⟨_, hrest⟩ := hskip
      refine .bind (carries_read hrest r.flags []) ?_
      rintro ⟨flags, closing, any, u⟩ ⟨_, _, _, u'⟩ ⟨rfl, rfl, rfl, hu⟩
      refine .ite (fun _ ↦ .some ⟨rfl, hu⟩) fun _ ↦ ?_
      exact .ite (fun _ ↦ .some ⟨rfl, hu⟩) fun _ ↦ .none _
    · rename_i hmark
      split
      · obtain ⟨u, rfl, -⟩ := hskip.exists_of_cons (by decide)
        exact absurd rfl (hmark u)
      · exact .some ⟨rfl, hskip⟩

theorem uncounted?_eq (r : Reading) (min : Nat) (max : Option Nat) (s : List Char) :
    uncounted? r min max s =
      (r.repeatLast? min max !(sign '?' s).1).map (·, (sign '?' s).2) := by
  unfold uncounted?
  split
  · rw [sign_cons]
    rfl
  · rename_i hmark
    rw [sign_of_ne hmark]
    rfl

theorem carries_uncounted? (r : Reading) (g : OpenGroup) (min : Nat) (max : Option Nat)
    (h : Continues s s') :
    Carries (BelowRead g) (uncounted? r min max s) (uncounted? (r.below g) min max s') := by
  obtain ⟨hgreedy, hrest⟩ := beside_sign h (c := '?') (by decide)
  rw [uncounted?_eq, uncounted?_eq, hgreedy]
  exact (carries_repeatLast? r g min max _).map fun _ _ hr ↦ ⟨hr, hrest⟩

theorem carries_step? (r : Reading) (g : OpenGroup) (c : Char) (h : Continues s s') :
    Carries (BelowRead g) (step? r c s) (step? (r.below g) c s') := by
  unfold step?
  split
  · exact carries_groupStart? r g h
  · exact (carries_closeGroup? r g).map fun _ _ hr ↦ ⟨hr, h⟩
  · exact .some ⟨rfl, h⟩
  · obtain ⟨hclass, hrest⟩ := beside_openClass r.flags h
    dsimp only [Reading.flags_below]
    rw [hclass]
    refine .bind (carries_class? r.flags (Nat.succ_le_succ h.length_le) [] _ hrest) ?_
    rintro ⟨set, depth, t⟩ ⟨_, _, t'⟩ ⟨rfl, rfl, ht⟩
    exact .some ⟨rfl, ht⟩
  · exact carries_uncounted? r g _ _ h
  · exact carries_uncounted? r g _ _ h
  · exact carries_uncounted? r g _ _ h
  · refine .bind (carries_counted? r.flags h) ?_
    rintro ⟨min, max, greedy, t⟩ ⟨_, _, _, t'⟩ ⟨rfl, rfl, rfl, ht⟩
    exact .bind (carries_repeatLast? r g min max greedy) fun _ _ hr ↦ .some ⟨hr, ht⟩
  · refine .bind (carries_escape? r.flags h) ?_
    rintro ⟨atom, t⟩ ⟨_, t'⟩ ⟨rfl, ht⟩
    exact .bind_same fun node ↦ .some ⟨rfl, ht⟩
  · exact .bind_same fun node ↦ .some ⟨rfl, h⟩
  · exact .some ⟨rfl, h⟩
  · exact .some ⟨rfl, h⟩
  · exact .bind_same fun node ↦ .some ⟨rfl, h⟩

/-- The reader of the larger pattern comes to the end of the pattern within it. There it finds the
closing, unless a comment has run over it. -/
theorem readFrom_below {g : OpenGroup} {fuel : Nat} {r last : Reading}
    (hread : readFrom fuel r s = some last) (h : Continues s s') (more : Nat) :
    ∃ fuel' > more, ∃ rest, Continues [] (skipSpace last.flags rest) ∧
      readFrom (fuel + more) (r.below g) s' = readFrom fuel' (last.below g) rest := by
  induction fuel generalizing r s s' with
  | zero => simp [readFrom] at hread
  | succ fuel ih =>
    rw [readFrom] at hread
    have hskip := h.skipSpace r.flags
    split at hread
    · rename_i hend
      obtain rfl := Option.some.inj hread
      rw [hend] at hskip
      exact ⟨fuel + 1 + more, by omega, s', hskip, rfl⟩
    · rename_i c t hstep
      rw [hstep] at hskip
      obtain ⟨⟨r₁, s₁⟩, hone, hread⟩ := Option.bind_eq_some_iff.mp hread
      obtain ⟨t', ht', hrest⟩ := Continues.append_left [c] hskip
      obtain ⟨⟨_, s₁'⟩, hone', rfl, hs₁⟩ := carries_step? r g c hrest _ hone
      obtain ⟨fuel', hmore, rest, hend, hread'⟩ := ih hread hs₁
      refine ⟨fuel', hmore, rest, hend, ?_⟩
      rw [Nat.add_right_comm, readFrom, Reading.flags_below, ht', ← hread']
      dsimp only [List.cons_append, List.nil_append]
      rw [Option.mem_def.mp hone']
      rfl

end

end

end Guildhall.Pattern
