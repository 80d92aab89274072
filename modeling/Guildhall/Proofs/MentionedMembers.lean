import Guildhall.Policy.Rule
import Guildhall.Proofs.Numeral
import Guildhall.Proofs.StrippedMentions

/-!
The members that a text mentions. A token is described by its text (`Mention.IsMemberToken`), and
the members of a text by the places at which their tokens stand (`Mention.Members`). The reader
finds these and no others (`Mention.members_iff`): it passes over the tokens of roles and channels
and over digits that are no number of 64 bits, and inside of what it passes over no token begins.
-/

set_option autoImplicit false

namespace Guildhall.Mention

open Text

/-! ### The tokens of members -/

/-- A token of a member: between the sign and the bracket stand digits that spell the id. -/
def IsMemberToken (id : Id) (t : List Char) : Prop :=
  ∃ sign ∈ Kind.member.signs, ∃ digits, digits ≠ [] ∧ AllDigits digits ∧
    digitsValue digits = id.toNat ∧ t = sign ++ digits ++ ['>']

/-- The members of a text, in the order of the tokens that name them. -/
inductive Members : List Char → List Id → Prop
  | nil : Members [] []
  | token {id : Id} {t s : List Char} {ids : List Id} (ht : IsMemberToken id t)
    (hs : Members s ids) : Members (t ++ s) (id :: ids)
  | other {c : Char} {s : List Char} {ids : List Id}
    (hnone : ∀ id t, IsMemberToken id t → ¬ t <+: c :: s) (hs : Members s ids) :
    Members (c :: s) ids

theorem isDigit_of_isAsciiDigit {c : Char} (hc : isAsciiDigit c = true) : isDigit c = true := by
  have hall : asciiDigits.all isDigit = true := by decide
  exact List.all_eq_true.mp hall c (mem_asciiDigits hc)

/-- A token of a member is read as one, and its digits as the id. -/
theorem exists_memberToken_iff {id : Id} {s rest : List Char} :
    (∃ t, IsMemberToken id t ∧ s = t ++ rest) ↔
      ∃ digits, read? s = some (.member, digits, rest) ∧ word? digits = some id := by
  constructor
  · rintro ⟨_, ⟨sign, hsign, digits, hne, hdigits, hvalue, rfl⟩, rfl⟩
    exact ⟨digits, read?_eq_some_iff.mpr ⟨sign, hsign, hne, fun c hc ↦
      isDigit_of_isAsciiDigit (hdigits c hc), rfl⟩, word?_eq_some_iff.mpr ⟨hne, hdigits, hvalue⟩⟩
  · rintro ⟨digits, hread, hword⟩
    obtain ⟨sign, hsign, -, -, rfl⟩ := read?_eq_some_iff.mp hread
    obtain ⟨hne, hdigits, hvalue⟩ := word?_eq_some_iff.mp hword
    exact ⟨_, ⟨sign, hsign, digits, hne, hdigits, hvalue, rfl⟩, rfl⟩

/-! ### Reading the members of a text -/

theorem membersWithin_congr {n m : Nat} {s : List Char} (hn : s.length ≤ n) (hm : s.length ≤ m) :
    membersWithin n s = membersWithin m s := by
  induction n generalizing m s with
  | zero =>
    rw [List.eq_nil_of_length_eq_zero (Nat.le_zero.mp hn)]
    cases m <;> rfl
  | succ n ih =>
    cases s with
    | nil => cases m <;> rfl
    | cons c s =>
      obtain _ | m := m
      · simp at hm
      rw [List.length_cons] at hn hm
      rw [membersWithin, membersWithin]
      rcases hread : read? (c :: s) with _ | ⟨kind, digits, rest⟩
      · exact ih (by omega) (by omega)
      · have hlt := length_lt_of_read? hread
        rw [List.length_cons] at hlt
        have hrest : membersWithin n rest = membersWithin m rest := ih (by omega) (by omega)
        cases kind with
        | member => exact congrArg (digits :: ·) hrest
        | role => exact hrest
        | channel => exact hrest

theorem members_cons_of_none {c : Char} {s : List Char} (hread : read? (c :: s) = none) :
    members (c :: s) = members s := by
  rw [members, List.length_cons, membersWithin, hread]
  rfl

/-- A token is read as a whole. -/
theorem members_of_read? {s digits rest : List Char} {kind : Kind}
    (hread : read? s = some (kind, digits, rest)) :
    members s = if kind = .member then digits :: members rest else members rest := by
  have hlt := length_lt_of_read? hread
  obtain ⟨c, s, rfl⟩ := List.exists_cons_of_length_pos (Nat.zero_lt_of_lt hlt)
  rw [List.length_cons] at hlt
  have hrest : membersWithin s.length rest = members rest :=
    membersWithin_congr (by omega) le_rfl
  rw [members, List.length_cons, membersWithin, hread, ← hrest]
  cases kind <;> rfl

/-- No token begins where no opening bracket stands. -/
theorem members_append_of_notMem {u : List Char} (hu : '<' ∉ u) (s : List Char) :
    members (u ++ s) = members s := by
  induction u with
  | nil => rfl
  | cons c u ih =>
    obtain ⟨hc, hu⟩ : '<' ≠ c ∧ '<' ∉ u := by simpa using hu
    have hread : read? (c :: (u ++ s)) = none := by
      rw [Option.eq_none_iff_forall_ne_some]
      rintro ⟨kind, digits, rest⟩ hread
      obtain ⟨t, ht, htext⟩ := exists_token_of_read? hread
      obtain ⟨inner, rfl, -⟩ := ht.exists_inner
      exact hc (List.cons.inj htext).1.symm
    rw [List.cons_append, members_cons_of_none hread, ih hu]

/-- What follows a token is read alike from the second character of the token on. -/
theorem members_of_read?_cons {c : Char} {s digits rest : List Char} {kind : Kind}
    (hread : read? (c :: s) = some (kind, digits, rest)) : members rest = members s := by
  obtain ⟨t, ht, htext⟩ := exists_token_of_read? hread
  obtain ⟨inner, rfl, hinner⟩ := ht.exists_inner
  obtain rfl : s = inner ++ ['>'] ++ rest := (List.cons.inj htext).2
  refine (members_append_of_notMem ?_ rest).symm
  simpa using fun h ↦ (hinner _ h).1 rfl

/-! ### The ids that are read -/

theorem ids_token_append {id : Id} {t : List Char} (ht : IsMemberToken id t) (s : List Char) :
    (members (t ++ s)).filterMap word? = id :: (members s).filterMap word? := by
  obtain ⟨digits, hread, hword⟩ := exists_memberToken_iff.mp ⟨t, ht, rfl⟩
  rw [members_of_read? hread, if_pos rfl, List.filterMap_cons_some hword]

theorem ids_cons {c : Char} {s : List Char} (hnone : ∀ id t, IsMemberToken id t → ¬ t <+: c :: s) :
    (members (c :: s)).filterMap word? = (members s).filterMap word? := by
  rcases hread : read? (c :: s) with _ | ⟨kind, digits, rest⟩
  · rw [members_cons_of_none hread]
  rw [members_of_read? hread, ← members_of_read?_cons hread]
  split_ifs with hkind
  · -- Digits that spell an id would make a token of it.
    subst hkind
    refine List.filterMap_cons_none (Option.eq_none_iff_forall_ne_some.mpr fun id hword ↦ ?_)
    obtain ⟨t, ht, htext⟩ := exists_memberToken_iff.mpr ⟨digits, hread, hword⟩
    exact hnone id t ht ⟨rest, htext.symm⟩
  · rfl

theorem members_ids (s : List Char) : Members s ((members s).filterMap word?) := by
  -- The induction is on the length: a token that is read may be of any length.
  induction hlength : s.length using Nat.strong_induction_on generalizing s with
  | h n ih =>
    by_cases htoken : ∃ id t, IsMemberToken id t ∧ t <+: s
    · obtain ⟨id, t, ht, rest, rfl⟩ := htoken
      have hpos : rest.length < n := by
        obtain ⟨_, hread, -⟩ := exists_memberToken_iff.mp ⟨t, ht, rfl⟩
        rw [← hlength]
        exact length_lt_of_read? hread
      rw [ids_token_append ht]
      exact .token ht (ih rest.length hpos rest rfl)
    · have hnone : ∀ id t, IsMemberToken id t → ¬ t <+: s :=
        fun id t ht hbegins ↦ htoken ⟨id, t, ht, hbegins⟩
      cases s with
      | nil => exact .nil
      | cons c s =>
        rw [ids_cons hnone]
        rw [List.length_cons] at hlength
        exact .other hnone (ih s.length (by omega) s rfl)

/-- The digits that are read of a text and that fit into 64 bits are the members of the text. -/
theorem members_iff {s : List Char} {ids : List Id} :
    Members s ids ↔ ids = (members s).filterMap word? := by
  constructor
  · intro hmembers
    induction hmembers with
    | nil => rfl
    | token ht _ ih => rw [ids_token_append ht, ih]
    | other hnone _ ih => rw [ids_cons hnone, ih]
  · rintro rfl
    exact members_ids s

end Guildhall.Mention
