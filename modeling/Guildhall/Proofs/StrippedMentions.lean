import Guildhall.Proofs.Words
import Guildhall.Template.Placeholder

/-!
What is left of the mentions of a message. Tokens are cut out from left to right, and what is
joined is not read again (`Mention.strip_token_append`, `Mention.strip_cons`). So a text without
its tokens has a token exactly if a token of the text was spread: written with whole tokens between
its characters (`Mention.Spread`, `Mention.hasToken_strip_iff`). The text that a placeholder shows
of a message is trimmed, which neither makes nor breaks a token (`Placeholder.mention_is_left_iff`).
-/

set_option autoImplicit false

namespace Guildhall

open Text

namespace Mention

/-! ### Tokens -/

/-- What a token can begin with. -/
def signs : List (List Char) := [['<', '@', '!'], ['<', '@', '&'], ['<', '@'], ['<', '#']]

/-- A mention token: a sign, one or more digits, and a closing bracket. -/
def IsToken (t : List Char) : Prop :=
  ∃ sign ∈ signs, ∃ digits, digits ≠ [] ∧ (∀ c ∈ digits, isDigit c = true) ∧
    t = sign ++ digits ++ ['>']

/-- Whether a token stands anywhere in a text. -/
def HasToken (s : List Char) : Prop := ∃ t, IsToken t ∧ t <:+: s

theorem ne_of_isDigit {c d : Char} (hc : isDigit c = true) (hd : isDigit d = false) : c ≠ d := by
  rintro rfl
  rw [hc] at hd
  contradiction

/-- Only the first character of a token opens one, and only the last one closes one. -/
theorem IsToken.exists_inner {t : List Char} (ht : IsToken t) :
    ∃ inner, t = '<' :: (inner ++ ['>']) ∧ ∀ c ∈ inner, c ≠ '<' ∧ c ≠ '>' := by
  obtain ⟨sign, hsign, digits, -, hdigits, rfl⟩ := ht
  have hsigns : ∀ sign ∈ signs,
      '<' :: sign.tail = sign ∧ ∀ c ∈ sign.tail, c ≠ '<' ∧ c ≠ '>' := by simp [signs]
  obtain ⟨hhead, htail⟩ := hsigns sign hsign
  refine ⟨sign.tail ++ digits, ?_, fun c hc ↦ ?_⟩
  · rw [← List.cons_append, ← List.cons_append, hhead]
  · rcases List.mem_append.mp hc with hc | hc
    · exact htail c hc
    · exact ⟨ne_of_isDigit (hdigits c hc) (by decide), ne_of_isDigit (hdigits c hc) (by decide)⟩

/-! ### Reading a token -/

/-- The signs that the tokens of a kind begin with. -/
def Kind.signs : Kind → List (List Char)
  | .member => [['<', '@', '!'], ['<', '@']]
  | .role => [['<', '@', '&']]
  | .channel => [['<', '#']]

theorem mem_signs_iff (sign : List Char) : sign ∈ signs ↔ ∃ kind : Kind, sign ∈ kind.signs := by
  constructor
  · intro hsign
    simp only [signs, List.mem_cons, List.not_mem_nil, or_false] at hsign
    rcases hsign with rfl | rfl | rfl | rfl
    · exact ⟨.member, by simp [Kind.signs]⟩
    · exact ⟨.role, by simp [Kind.signs]⟩
    · exact ⟨.member, by simp [Kind.signs]⟩
    · exact ⟨.channel, by simp [Kind.signs]⟩
  · rintro ⟨kind, hsign⟩
    have hall : ∀ sign ∈ kind.signs, sign ∈ signs := by cases kind <;> decide
    exact hall sign hsign

theorem exists_sign_of_sign? {s rest : List Char} {kind : Kind}
    (hsign : sign? s = some (kind, rest)) : ∃ sign ∈ kind.signs, s = sign ++ rest := by
  unfold sign? at hsign
  split at hsign
  · cases hsign
    exact ⟨['<', '@', '!'], by decide, rfl⟩
  · cases hsign
    exact ⟨['<', '@', '&'], by decide, rfl⟩
  · cases hsign
    exact ⟨['<', '@'], by decide, rfl⟩
  · cases hsign
    exact ⟨['<', '#'], by decide, rfl⟩
  · cases hsign

theorem sign?_append {kind : Kind} {sign : List Char} (hsign : sign ∈ kind.signs) {c : Char}
    (hc : isDigit c = true) (rest : List Char) :
    sign? (sign ++ c :: rest) = some (kind, c :: rest) := by
  cases kind with
  | member =>
    simp only [Kind.signs, List.mem_cons, List.not_mem_nil, or_false] at hsign
    rcases hsign with rfl | rfl
    · rfl
    · -- The shorter sign is read only because the next character makes none of the longer ones.
      rw [List.cons_append, List.cons_append, List.nil_append, sign?]
      · exact fun _ h ↦ ne_of_isDigit hc (by decide) (List.cons.inj h).1
      · exact fun _ h ↦ ne_of_isDigit hc (by decide) (List.cons.inj h).1
  | role =>
    obtain rfl := List.mem_singleton.mp hsign
    rfl
  | channel =>
    obtain rfl := List.mem_singleton.mp hsign
    rfl

/-- A token is read where a sign of its kind, one or more digits and a closing bracket stand. -/
theorem read?_eq_some_iff {s digits rest : List Char} {kind : Kind} :
    read? s = some (kind, digits, rest) ↔ ∃ sign ∈ kind.signs, digits ≠ [] ∧
      (∀ c ∈ digits, isDigit c = true) ∧ s = sign ++ digits ++ ['>'] ++ rest := by
  constructor
  · intro hread
    obtain ⟨⟨found, after⟩, hsign, hrest⟩ := Option.bind_eq_some_iff.mp hread
    obtain ⟨sign, hmem, rfl⟩ := exists_sign_of_sign? hsign
    have hsplit : after.takeWhile isDigit ++ after.dropWhile isDigit = after :=
      List.takeWhile_append_dropWhile
    simp only [drop_length_takeWhile] at hrest
    split at hrest
    · rename_i hclosed
      split_ifs at hrest with hempty
      obtain ⟨rfl, rfl, rfl⟩ : found = kind ∧ after.takeWhile isDigit = digits ∧ _ = rest := by
        simpa using hrest
      refine ⟨sign, hmem, by simpa using hempty, fun c hc ↦ List.mem_takeWhile_imp hc, ?_⟩
      calc sign ++ after = sign ++ (after.takeWhile isDigit ++ after.dropWhile isDigit) := by
            rw [hsplit]
        _ = sign ++ after.takeWhile isDigit ++ ['>'] ++ _ := by simp [hclosed]
    · contradiction
  · rintro ⟨sign, hsign, hne, hdigits, rfl⟩
    obtain ⟨c, others, rfl⟩ := List.exists_cons_of_ne_nil hne
    have hkind := sign?_append hsign (hdigits c (by simp)) (others ++ '>' :: rest)
    have hclose : isDigit '>' = false := by decide
    have htake : (c :: (others ++ '>' :: rest)).takeWhile isDigit = c :: others :=
      (takeWhile_append_eq hdigits (by simp [hclose])).1
    have hdrop : (c :: (others ++ '>' :: rest)).drop (c :: others).length = '>' :: rest := by
      rw [← List.cons_append, List.drop_left]
    have htext : sign ++ c :: others ++ ['>'] ++ rest = sign ++ c :: (others ++ '>' :: rest) := by
      simp
    rw [htext, read?, hkind]
    simp only [Option.bind_eq_bind, Option.bind_some, htake, hdrop]
    rfl

/-- What is read as a token is one, and what is answered as the rest follows it. -/
theorem exists_token_of_read? {s digits rest : List Char} {kind : Kind}
    (hread : read? s = some (kind, digits, rest)) : ∃ t, IsToken t ∧ s = t ++ rest := by
  obtain ⟨sign, hsign, hne, hdigits, rfl⟩ := read?_eq_some_iff.mp hread
  exact ⟨_, ⟨sign, (mem_signs_iff sign).mpr ⟨kind, hsign⟩, digits, hne, hdigits, rfl⟩, rfl⟩

theorem read?_token_append {t : List Char} (ht : IsToken t) (rest : List Char) :
    ∃ kind digits, read? (t ++ rest) = some (kind, digits, rest) := by
  obtain ⟨sign, hsign, digits, hne, hdigits, rfl⟩ := ht
  obtain ⟨kind, hkind⟩ := (mem_signs_iff sign).mp hsign
  exact ⟨kind, digits, read?_eq_some_iff.mpr ⟨sign, hkind, hne, hdigits, rfl⟩⟩

theorem IsToken.length_pos {t : List Char} (ht : IsToken t) : 0 < t.length := by
  obtain ⟨inner, rfl, -⟩ := ht.exists_inner
  simp

theorem length_lt_of_read? {s digits rest : List Char} {kind : Kind}
    (hread : read? s = some (kind, digits, rest)) : rest.length < s.length := by
  obtain ⟨t, ht, rfl⟩ := exists_token_of_read? hread
  have hpos := ht.length_pos
  rw [List.length_append]
  omega

/-! ### Cutting tokens out -/

theorem stripWithin_congr {n m : Nat} {s : List Char} (hn : s.length ≤ n) (hm : s.length ≤ m) :
    stripWithin n s = stripWithin m s := by
  induction n generalizing m s with
  | zero =>
    rw [List.eq_nil_of_length_eq_zero (Nat.le_zero.mp hn)]
    cases m <;> rfl
  | succ n ih =>
    cases s with
    | nil => cases m <;> rfl
    | cons c s =>
      obtain _ | m := m
      · simp at hm
      rw [List.length_cons] at hn hm
      rw [stripWithin, stripWithin]
      cases hread : read? (c :: s) with
      | none => exact congrArg (c :: ·) (ih (by omega) (by omega))
      | some found =>
        have hlt := length_lt_of_read? hread
        rw [List.length_cons] at hlt
        exact ih (by omega) (by omega)

theorem strip_nil : strip [] = [] := rfl

/-- A token is cut out, and what follows it is read on. -/
theorem strip_token_append {t : List Char} (ht : IsToken t) (s : List Char) :
    strip (t ++ s) = strip s := by
  obtain ⟨kind, digits, hread⟩ := read?_token_append ht s
  have hlt := length_lt_of_read? hread
  obtain ⟨c, rest, htext⟩ := List.exists_cons_of_length_pos (Nat.zero_lt_of_lt hlt)
  rw [htext] at hread hlt ⊢
  rw [List.length_cons] at hlt
  rw [strip, List.length_cons, stripWithin, hread]
  exact stripWithin_congr (by omega) le_rfl

/-- A character that no token begins with is kept. -/
theorem strip_cons {c : Char} {s : List Char} (hnone : ∀ t, IsToken t → ¬ t <+: c :: s) :
    strip (c :: s) = c :: strip s := by
  rw [strip, List.length_cons, stripWithin]
  cases hread : read? (c :: s) with
  | none => rfl
  | some found =>
    obtain ⟨t, ht, htext⟩ := exists_token_of_read? hread
    exact absurd ⟨_, htext.symm⟩ (hnone t ht)

theorem strip_tokens_append {ts : List (List Char)} (hts : ∀ t ∈ ts, IsToken t) (s : List Char) :
    strip (ts.flatten ++ s) = strip s := by
  induction ts with
  | nil => rfl
  | cons t ts ih =>
    obtain ⟨ht, hts⟩ := List.forall_mem_cons.mp hts
    rw [List.flatten_cons, List.append_assoc, strip_token_append ht, ih hts]

/-- What is kept of a text begins with a character that only tokens stand before, and that no token
begins with. -/
theorem exists_of_strip_eq_cons {s kept : List Char} {c : Char} (hstrip : strip s = c :: kept) :
    ∃ (ts : List (List Char)) (rest : List Char), (∀ t ∈ ts, IsToken t) ∧
      s = ts.flatten ++ c :: rest ∧ (∀ t, IsToken t → ¬ t <+: c :: rest) ∧ strip rest = kept := by
  -- The induction is on the length: a token that is cut out may be of any length.
  induction hlength : s.length using Nat.strong_induction_on generalizing s with
  | h n ih =>
    by_cases htoken : ∃ t, IsToken t ∧ t <+: s
    · obtain ⟨t, ht, after, rfl⟩ := htoken
      rw [strip_token_append ht] at hstrip
      have hpos := ht.length_pos
      obtain ⟨ts, rest, hts, rfl, hnone, hrest⟩ :=
        ih after.length (by rw [← hlength, List.length_append]; omega) hstrip rfl
      refine ⟨t :: ts, rest, List.forall_mem_cons.mpr ⟨ht, hts⟩, ?_, hnone, hrest⟩
      rw [List.flatten_cons, List.append_assoc]
    · have hnone : ∀ t, IsToken t → ¬ t <+: s := fun t ht hbegins ↦ htoken ⟨t, ht, hbegins⟩
      cases s with
      | nil => simp [strip_nil] at hstrip
      | cons d s =>
        rw [strip_cons hnone] at hstrip
        obtain ⟨rfl, hkept⟩ := List.cons.inj hstrip
        exact ⟨[], s, by simp, rfl, hnone, hkept⟩

/-- Every place in what is kept of a text is a place of the text. -/
theorem exists_of_strip_eq_append {s before kept : List Char} {c : Char}
    (hstrip : strip s = before ++ c :: kept) :
    ∃ first rest, s = first ++ c :: rest ∧ (∀ t, IsToken t → ¬ t <+: c :: rest) ∧
      strip rest = kept := by
  induction before generalizing s with
  | nil =>
    obtain ⟨ts, rest, -, hs, hnone, hrest⟩ := exists_of_strip_eq_cons hstrip
    exact ⟨ts.flatten, rest, hs, hnone, hrest⟩
  | cons d before ih =>
    obtain ⟨ts, rest, -, rfl, -, hrest⟩ := exists_of_strip_eq_cons hstrip
    obtain ⟨first, rest, rfl, hnone, hkept⟩ := ih hrest
    exact ⟨ts.flatten ++ d :: first, rest, by simp, hnone, hkept⟩

/-! ### Tokens between the characters of a text -/

/-- Whether `w` is the text `s` with whole tokens set between its characters. -/
inductive Spread : List Char → List Char → Prop
  | last (c : Char) : Spread [c] [c]
  | cons (c : Char) {ts : List (List Char)} {s w : List Char} (hts : ∀ t ∈ ts, IsToken t)
    (hspread : Spread s w) : Spread (c :: s) (c :: (ts.flatten ++ w))

/-- What is kept of a text, from any place on, is spread in the text. -/
theorem exists_spread_of_strip {c : Char} {s rest after : List Char}
    (hstrip : strip rest = s ++ after) :
    ∃ w last, c :: rest = w ++ last ∧ Spread (c :: s) w := by
  induction s generalizing c rest with
  | nil => exact ⟨[c], rest, rfl, .last c⟩
  | cons d s ih =>
    obtain ⟨ts, rest, hts, rfl, -, hrest⟩ := exists_of_strip_eq_cons hstrip
    obtain ⟨w, last, hw, hspread⟩ := ih (c := d) hrest
    refine ⟨c :: (ts.flatten ++ w), last, ?_, .cons c hts hspread⟩
    rw [hw, List.cons_append, List.append_assoc]

/-- A character that opens no token is kept. -/
theorem strip_cons_of_ne {c : Char} (hc : c ≠ '<') (s : List Char) :
    strip (c :: s) = c :: strip s := by
  refine strip_cons fun t ht hbegins ↦ ?_
  obtain ⟨inner, rfl, -⟩ := ht.exists_inner
  exact hc (List.cons_prefix_cons.mp hbegins).1.symm

/-- A text without an opening bracket is what is kept of it where it is spread. -/
theorem Spread.strip_append {s w : List Char} (hspread : Spread s w) (hopen : '<' ∉ s)
    (after : List Char) : strip (w ++ after) = s ++ strip after := by
  induction hspread with
  | last c => exact strip_cons_of_ne (by simpa [eq_comm] using hopen) after
  | cons c hts _ ih =>
    obtain ⟨hc, hs⟩ : '<' ≠ c ∧ '<' ∉ _ := by simpa using hopen
    rw [List.cons_append, strip_cons_of_ne hc.symm, List.append_assoc, strip_tokens_append hts,
      ih hs, List.cons_append]

/-- A text that is not spread as it is has a token before its last character. -/
theorem Spread.exists_open {s w : List Char} (hspread : Spread s w) (hne : w ≠ s)
    (hclose : '>' ∉ s.dropLast) : ∃ first rest, w = first ++ '<' :: rest ∧ first ≠ [] ∧
      '>' ∉ first := by
  induction hspread with
  | last c => exact absurd rfl hne
  | @cons c ts s w hts hspread ih =>
    have hs : s ≠ [] := by cases hspread <;> simp
    rw [List.dropLast_cons_of_ne_nil hs, List.mem_cons, not_or] at hclose
    cases ts with
    | nil =>
      obtain ⟨first, rest, rfl, -, hfirst⟩ := ih (fun h ↦ hne (by simp [h])) hclose.2
      exact ⟨c :: first, rest, rfl, by simp, by simp [hclose.1, hfirst]⟩
    | cons t ts =>
      obtain ⟨inner, rfl, -⟩ := (hts t (by simp)).exists_inner
      exact ⟨[c], _, rfl, by simp, by simpa using hclose.1⟩

/-- A token that begins before an opening bracket ends before it. -/
theorem IsToken.prefix_of_append {t first rest : List Char} (ht : IsToken t)
    (hbegins : t <+: first ++ '<' :: rest) (hne : first ≠ []) : t <+: first := by
  obtain hshort | ⟨later, rfl⟩ :=
    List.prefix_or_prefix_of_prefix hbegins (List.prefix_append first _)
  · exact hshort
  · cases later with
    | nil => simp
    | cons d later =>
      have hd : d = '<' := (List.cons_prefix_cons.mp
        ((List.prefix_append_right_inj first).mp hbegins)).1
      obtain ⟨inner, htext, hinner⟩ := ht.exists_inner
      obtain ⟨c, first, rfl⟩ := List.exists_cons_of_ne_nil hne
      have hmem : '<' ∈ inner ++ ['>'] := by
        rw [← (List.cons.inj htext).2, hd]
        simp
      have hin : '<' ∈ inner := by simpa using hmem
      exact absurd rfl (hinner '<' hin).1

/-- What stands before an opening bracket is read on its own. -/
theorem strip_append_open (first rest : List Char) :
    strip (first ++ '<' :: rest) = strip first ++ strip ('<' :: rest) := by
  induction hlength : first.length using Nat.strong_induction_on generalizing first with
  | h n ih =>
    cases first with
    | nil => rfl
    | cons c first =>
      by_cases htoken : ∃ t, IsToken t ∧ t <+: c :: first
      · obtain ⟨t, ht, after, htext⟩ := htoken
        have hpos := ht.length_pos
        have hsum : t.length + after.length = n := by
          rw [← hlength, ← htext, List.length_append]
        rw [← htext, List.append_assoc, strip_token_append ht, strip_token_append ht,
          ih after.length (by omega) after rfl]
      · have hnone : ∀ t, IsToken t → ¬ t <+: c :: first :=
          fun t ht hbegins ↦ htoken ⟨t, ht, hbegins⟩
        have hlater : ∀ t, IsToken t → ¬ t <+: c :: (first ++ '<' :: rest) :=
          fun t ht hbegins ↦ hnone t ht (ht.prefix_of_append hbegins (by simp))
        rw [List.length_cons] at hlength
        rw [List.cons_append, strip_cons hlater, strip_cons hnone,
          ih first.length (by omega) first rfl, List.cons_append]

/-- A text without its tokens has a token exactly if one is spread in the text, with a token between
its characters. -/
theorem hasToken_strip_iff (s : List Char) :
    HasToken (strip s) ↔ ∃ t w, IsToken t ∧ Spread t w ∧ w ≠ t ∧ w <:+: s := by
  constructor
  · rintro ⟨t, ht, before, after, hstrip⟩
    obtain ⟨inner, htext, -⟩ := ht.exists_inner
    have hkept : strip s = before ++ '<' :: (inner ++ ['>'] ++ after) := by
      rw [← hstrip, htext]
      simp
    obtain ⟨first, rest, rfl, hnone, hrest⟩ := exists_of_strip_eq_append hkept
    obtain ⟨w, last, hw, hspread⟩ := exists_spread_of_strip (c := '<') hrest
    rw [← htext] at hspread
    refine ⟨t, w, ht, hspread, ?_, first, last, by rw [hw, List.append_assoc]⟩
    rintro rfl
    exact hnone w ht ⟨last, hw.symm⟩
  · rintro ⟨t, w, ht, hspread, hne, before, after, rfl⟩
    obtain ⟨inner, rfl, hinner⟩ := ht.exists_inner
    have hclose : '>' ∉ ('<' :: (inner ++ ['>'])).dropLast := by
      rw [← List.cons_append, List.dropLast_concat]
      simpa using fun h ↦ (hinner _ h).2 rfl
    have hopen : '<' ∉ inner ++ ['>'] := by simpa using fun h ↦ (hinner _ h).1 rfl
    obtain ⟨first, rest, hw, hfirst, hclosed⟩ := hspread.exists_open hne hclose
    -- A token at the beginning of `w` would end before the first token that is set into it.
    have hnone : ∀ u, IsToken u → ¬ u <+: w ++ after := by
      intro u hu hbegins
      rw [hw, List.append_assoc] at hbegins
      have hshort := hu.prefix_of_append hbegins hfirst
      obtain ⟨inner, rfl, -⟩ := hu.exists_inner
      exact hclosed (hshort.subset (by simp))
    refine ⟨'<' :: (inner ++ ['>']), ht, strip before, strip after, ?_⟩
    generalize inner ++ ['>'] = kept at hspread hne hopen ⊢
    cases hspread with
    | last c => exact absurd rfl hne
    | @cons _ ts _ w hts hspread =>
      rw [List.append_assoc before, List.cons_append, strip_append_open]
      rw [List.cons_append] at hnone
      rw [strip_cons hnone, List.append_assoc ts.flatten, strip_tokens_append hts,
        hspread.strip_append hopen, List.append_assoc, List.cons_append]

end Mention

/-! ### Trimming -/

namespace Text

/-- What begins with no blank stays in a text that is trimmed at its beginning. -/
theorem infix_trimStart {s t : List Char} (hpart : t <:+: s) {c : Char} (hhead : t.head? = some c)
    (hc : isBlank c = false) : t <:+: trimStart s := by
  obtain ⟨before, after, rfl⟩ := hpart
  induction before with
  | nil =>
    rw [List.nil_append, trimStart_eq_self]
    · exact List.infix_append [] t after
    · intro d hd
      rw [List.head?_append, hhead] at hd
      exact Option.some.inj hd ▸ hc
  | cons d before ih =>
    rw [List.cons_append, List.cons_append, trimStart, List.dropWhile_cons]
    split_ifs
    · exact ih
    · exact ⟨d :: before, after, rfl⟩

/-- What ends with no blank stays in a text that is trimmed at its end. -/
theorem infix_trimEnd {s t : List Char} (hpart : t <:+: s) {c : Char} (hlast : t.getLast? = some c)
    (hc : isBlank c = false) : t <:+: trimEnd s := by
  have hreverse : t.reverse <:+: trimStart s.reverse :=
    infix_trimStart (List.reverse_infix.mpr hpart) (by rw [List.head?_reverse, hlast]) hc
  rw [trimEnd, ← trimStart, ← List.reverse_infix, List.reverse_reverse]
  exact hreverse

end Text

namespace Mention

theorem hasToken_trim_iff (s : List Char) : HasToken (trim s) ↔ HasToken s := by
  constructor
  · rintro ⟨t, ht, hpart⟩
    have hkept : trim s <:+: trimStart s := List.IsPrefix.isInfix <| trimEnd_prefix (trimStart s)
    exact ⟨t, ht, hpart.trans (hkept.trans (trimStart_suffix s).isInfix)⟩
  · rintro ⟨t, ht, hpart⟩
    obtain ⟨inner, rfl, -⟩ := ht.exists_inner
    refine ⟨_, ht, infix_trimEnd (c := '>') (infix_trimStart (c := '<') hpart rfl (by decide)) ?_
      (by decide)⟩
    rw [← List.cons_append, List.getLast?_concat]

end Mention

namespace Placeholder

theorem evaluate?_messageText (ctx : TemplateContext) (d : Draws) :
    builtin.evaluate? ctx "messageText".toList d = some (messageText ctx, d) := rfl

/-- The text that the placeholder shows of a message has no mention exactly if every token of the
message is whole: what has tokens between the characters of a token is nowhere in the message. It
neither begins nor ends with a blank. -/
theorem mention_is_left_iff (ctx : TemplateContext) (d : Draws) :
    ∃ shown, builtin.evaluate? ctx "messageText".toList d = some (shown, d) ∧
      ((∀ t, Mention.IsToken t → ¬ t <:+: shown) ↔
        ∀ t w, Mention.IsToken t → Mention.Spread t w → w <:+: ctx.message.toList → w = t) ∧
      (∀ c ∈ shown.head?, isBlank c = false) ∧ ∀ c ∈ shown.getLast?, isBlank c = false := by
  refine ⟨messageText ctx, evaluate?_messageText ctx d, ?_, isBlank_head?_trim _,
    isBlank_getLast?_trimEnd _⟩
  have hleft : Mention.HasToken (messageText ctx) ↔ _ :=
    (Mention.hasToken_trim_iff _).trans (Mention.hasToken_strip_iff ctx.message.toList)
  constructor
  · intro hnone t w ht hspread hpart
    by_contra hne
    obtain ⟨u, hu, hleft⟩ := hleft.mpr ⟨t, w, ht, hspread, hne, hpart⟩
    exact hnone u hu hleft
  · intro hwhole t ht hshown
    obtain ⟨u, w, hu, hspread, hne, hpart⟩ := hleft.mp ⟨t, ht, hshown⟩
    exact hne (hwhole u w hu hspread hpart)

/-- A mention with another one inside is left where that one is cut out. -/
theorem interrupted_mention_is_left :
    let ctx : TemplateContext :=
      { sender := "ann", message := "<@<@1>2>", today := ⟨2024, 5, 10⟩ }
    builtin.evaluate? ctx "messageText".toList {} = some ("<@2>".toList, {}) ∧
      Mention.IsToken "<@2>".toList :=
  ⟨by decide, ['<', '@'], by decide, ['2'], by decide, List.forall_mem_singleton.mpr (by decide),
    by decide⟩

end Placeholder

end Guildhall
