import Guildhall.Proofs.Escaping
import Guildhall.Proofs.FullMatches
import Guildhall.Proofs.PatternTexts
import Mathlib.Data.List.Pairwise
import Mathlib.Data.List.Perm.Basic

/-!
The built-in placeholders do not shadow each other. Each has a pattern (`Shape.source`), which
begins with a name and goes on with a blank or not at all, and its shape fits exactly the texts that
the pattern matches in full (`Shape.isSome_parts?_iff_matches`). So the first word of a text says
which of them matches, if any does, and the order in which they are asked does not matter
(`Placeholder.builtin_order_is_free`).
-/

set_option autoImplicit false

namespace Guildhall

open Text Pattern

/-! ### Sets of characters -/

/-- Every character. -/
def anyCharacter : Charset := [(0, Charset.maxCode)]

theorem has_anyCharacter (c : Char) : anyCharacter.has c = true := by
  have hvalid : c.toNat ≤ Charset.maxCode := by
    have hc : c.toNat < 0xD800 ∨ 0xDFFF < c.toNat ∧ c.toNat < 0x110000 := c.valid
    rw [Charset.maxCode]
    omega
  simpa [anyCharacter, Ranges.has, Ranges.hasCode] using hvalid

theorem has_blanks (c : Char) : blanks.has c = isBlank c := by
  rw [Bool.eq_iff_iff]
  simp only [blanks, Ranges.has, Ranges.hasCode, isBlank, List.any_cons, List.any_nil,
    Bool.or_eq_true, Bool.and_eq_true, decide_eq_true_eq, beq_iff_eq, Bool.false_eq_true,
    or_false]
  omega

/-- No digit of any script is blank. -/
theorem isBlank_of_isDigit {c : Char} (hc : isDigit c = true) : isBlank c = false := by
  have hapart : ∀ r ∈ decimalDigits, ∀ t ∈ blanks, r.2 < t.1 ∨ t.2 < r.1 := by decide +kernel
  rw [← has_blanks, Bool.eq_false_iff]
  intro hblank
  obtain ⟨r, hr, hlow, hhigh⟩ := (Ranges.hasCode_iff _ _).mp hc
  obtain ⟨t, ht, hlow', hhigh'⟩ := (Ranges.hasCode_iff _ _).mp hblank
  have := hapart r hr t ht
  omega

namespace Shape

/-! ### Patterns of shapes -/

/-- The pattern of a number, which may have a minus sign if `signed`. -/
def numberSource (signed : Bool) : String := if signed then "-?\\d+" else "\\d+"

/-- The pattern that a shape stands for. -/
def source : Shape → String
  | word name => name
  | text name required => name ++ "\\s+(." ++ (if required then "+" else "*") ++ ")"
  | pair name signed =>
    name ++ "\\s+(" ++ numberSource signed ++ ")\\s*,\\s*(" ++ numberSource signed ++ ")"
  | pattern compiled => compiled.source

/-- The name that the texts of a shape begin with. -/
def name? : Shape → Option String
  | word name | text name _ | pair name _ => some name
  | pattern _ => none

def numberNode (signed : Bool) : Node :=
  .concat ((if signed then [.loop 0 (some 1) true (.one (.single '-'))] else []) ++
    [.many 1 decimalDigits])

/-- What a pattern has after the name. -/
def nodesAfterName : Shape → List Node
  | word _ | pattern _ => []
  | text _ required =>
    [.many 1 blanks, .group 1 (.many (if required then 1 else 0) anyCharacter)]
  | pair _ signed =>
    [.many 1 blanks, .group 1 (numberNode signed), .many 0 blanks, .one (.single ','),
      .many 0 blanks, .group 2 (numberNode signed)]

/-- The node of a shape that has a name. -/
def node? (shape : Shape) : Option Node :=
  shape.name?.map fun name ↦ .concat (Node.literal name ++ shape.nodesAfterName)

/-! ### Texts of shapes -/

/-- Whether a text is a run of digits, after a minus sign if `signed` and there is one. -/
def IsNumber (signed : Bool) (w : List Char) : Prop :=
  ∃ sign digits, w = sign ++ digits ∧ (sign = [] ∨ signed = true ∧ sign = ['-']) ∧
    digits ≠ [] ∧ ∀ c ∈ digits, isDigit c = true

theorem isNumber_false_iff {w : List Char} :
    IsNumber false w ↔ w ≠ [] ∧ ∀ c ∈ w, isDigit c = true := by
  constructor
  · rintro ⟨_, digits, rfl, rfl | ⟨hsigned, -⟩, h⟩
    · exact h
    · cases hsigned
  · exact fun h ↦ ⟨[], w, rfl, .inl rfl, h⟩

theorem isNumber_true_iff {w : List Char} :
    IsNumber true w ↔ IsNumber false w ∨ ∃ v, w = '-' :: v ∧ IsNumber false v := by
  constructor
  · rintro ⟨_, digits, rfl, rfl | ⟨-, rfl⟩, h⟩
    · exact .inl (isNumber_false_iff.mpr h)
    · exact .inr ⟨digits, rfl, isNumber_false_iff.mpr h⟩
  · rintro (h | ⟨v, rfl, h⟩)
    · exact ⟨[], w, rfl, .inl rfl, isNumber_false_iff.mp h⟩
    · exact ⟨['-'], v, rfl, .inr ⟨rfl, rfl⟩, isNumber_false_iff.mp h⟩

theorem spells_digits_iff {w : List Char} :
    (Node.many 1 decimalDigits).Spells w ↔ w ≠ [] ∧ ∀ c ∈ w, isDigit c = true := by
  rw [Node.spells_many_iff, Nat.one_le_iff_ne_zero, Ne, List.length_eq_zero_iff]
  rfl

theorem spells_numberNode_iff {signed : Bool} {w : List Char} :
    (numberNode signed).Spells w ↔ IsNumber signed w := by
  cases signed with
  | false => exact spells_digits_iff.trans isNumber_false_iff.symm
  | true =>
    refine Node.spells_concat_cons.trans ⟨?_, ?_⟩
    · rintro ⟨sign, digits, hsign, hdigits, rfl⟩
      refine ⟨sign, digits, rfl, ?_, spells_digits_iff.mp hdigits⟩
      rcases Node.spells_optional_iff.mp hsign with rfl | ⟨c, rfl, hc⟩
      · exact .inl rfl
      · exact .inr ⟨rfl, by rw [Node.has_single_iff.mp hc]⟩
    · rintro ⟨sign, digits, rfl, hsign, hdigits⟩
      refine ⟨sign, digits, Node.spells_optional_iff.mpr ?_, spells_digits_iff.mpr hdigits, rfl⟩
      rcases hsign with rfl | ⟨-, rfl⟩
      · exact .inl rfl
      · exact .inr ⟨'-', rfl, Node.has_single_iff.mpr rfl⟩

/-- A number begins with a digit or a minus sign. -/
theorem IsNumber.isBlank_head? {signed : Bool} {w : List Char} (h : IsNumber signed w)
    (t : List Char) : ∀ c ∈ (w ++ t).head?, isBlank c = false := by
  obtain ⟨sign, digits, rfl, hsign, hne, hdigits⟩ := h
  obtain ⟨d, digits, rfl⟩ := List.exists_cons_of_ne_nil hne
  rcases hsign with rfl | ⟨-, rfl⟩
  · rintro _ ⟨⟩
    exact isBlank_of_isDigit (hdigits d List.mem_cons_self)
  · rintro _ ⟨⟩
    decide

theorem blanks?_cons (c : Char) (s : List Char) :
    blanks? (c :: s) = if isBlank c then some (s.dropWhile isBlank) else none := rfl

theorem blanks?_eq_some_iff {s t : List Char} :
    blanks? s = some t ↔ ∃ b, b ≠ [] ∧ (∀ c ∈ b, isBlank c = true) ∧ s = b ++ t ∧
      ∀ c ∈ t.head?, isBlank c = false := by
  constructor
  · intro hread
    cases s with
    | nil => cases hread
    | cons c s =>
      rw [blanks?_cons] at hread
      split_ifs at hread with hc
      obtain rfl := Option.some.inj hread
      refine ⟨c :: s.takeWhile isBlank, by simp, List.forall_mem_cons.mpr ⟨hc, ?_⟩, ?_,
        head?_dropWhile_eq_false isBlank s⟩
      · exact fun d hd ↦ List.mem_takeWhile_imp hd
      · rw [List.cons_append, List.takeWhile_append_dropWhile]
  · rintro ⟨b, hne, hb, rfl, ht⟩
    obtain ⟨c, b, rfl⟩ := List.exists_cons_of_ne_nil hne
    obtain ⟨hc, hb⟩ := List.forall_mem_cons.mp hb
    rw [List.cons_append, blanks?_cons, if_pos hc, (takeWhile_append_eq hb ht).2]

theorem number?_false (s : List Char) :
    number? false s = if (s.takeWhile isDigit).isEmpty then none
      else some (s.takeWhile isDigit, s.dropWhile isDigit) := by
  rw [← drop_length_takeWhile]
  rfl

theorem number?_minus (s : List Char) :
    number? true ('-' :: s) = (number? false s).map fun p ↦ ('-' :: p.1, p.2) := by
  rw [number?_false, ← drop_length_takeWhile]
  change (if (s.takeWhile isDigit).isEmpty then none
    else some ('-' :: s.takeWhile isDigit, s.drop (s.takeWhile isDigit).length)) = _
  split_ifs <;> rfl

theorem number?_of_ne {s : List Char} (hs : s.head? ≠ some '-') :
    number? true s = number? false s := by
  cases s with
  | nil => rfl
  | cons c s =>
    have hc : c ≠ '-' := fun hc ↦ hs (by rw [hc]; rfl)
    simp [number?, hc]

theorem number?_false_eq_some_iff {s w t : List Char} :
    number? false s = some (w, t) ↔ s = w ++ t ∧ w ≠ [] ∧ (∀ c ∈ w, isDigit c = true) ∧
      ∀ c ∈ t.head?, isDigit c = false := by
  rw [number?_false]
  constructor
  · intro hread
    split_ifs at hread with hempty
    obtain ⟨rfl, rfl⟩ := Prod.mk.inj (Option.some.inj hread)
    exact ⟨List.takeWhile_append_dropWhile.symm, by simpa using hempty,
      fun c hc ↦ List.mem_takeWhile_imp hc, head?_dropWhile_eq_false isDigit s⟩
  · rintro ⟨rfl, hne, hw, ht⟩
    obtain ⟨htake, hdrop⟩ := takeWhile_append_eq hw ht
    rw [htake, hdrop, if_neg (by simpa using hne)]

theorem number?_eq_some_iff {signed : Bool} {s w t : List Char} :
    number? signed s = some (w, t) ↔ s = w ++ t ∧ IsNumber signed w ∧
      ∀ c ∈ t.head?, isDigit c = false := by
  have hunsigned {s w : List Char} : number? false s = some (w, t) ↔
      s = w ++ t ∧ IsNumber false w ∧ ∀ c ∈ t.head?, isDigit c = false := by
    rw [number?_false_eq_some_iff, isNumber_false_iff, and_assoc]
  cases signed with
  | false => exact hunsigned
  | true =>
    rw [isNumber_true_iff]
    constructor
    · intro hread
      by_cases hminus : s.head? = some '-'
      · obtain ⟨u, rfl⟩ := List.head?_eq_some_iff.mp hminus
        rw [number?_minus] at hread
        obtain ⟨⟨v, t'⟩, hv, hread⟩ := Option.map_eq_some_iff.mp hread
        obtain ⟨rfl, rfl⟩ := Prod.mk.inj hread
        obtain ⟨rfl, hnumber, ht⟩ := hunsigned.mp hv
        exact ⟨rfl, .inr ⟨v, rfl, hnumber⟩, ht⟩
      · rw [number?_of_ne hminus] at hread
        obtain ⟨hs, hnumber, ht⟩ := hunsigned.mp hread
        exact ⟨hs, .inl hnumber, ht⟩
    · rintro ⟨rfl, hnumber | ⟨v, rfl, hnumber⟩, ht⟩
      · rw [number?_of_ne, hunsigned]
        · exact ⟨rfl, hnumber, ht⟩
        · -- A digit is no minus sign.
          obtain ⟨hne, hdigits⟩ := isNumber_false_iff.mp hnumber
          obtain ⟨c, w, rfl⟩ := List.exists_cons_of_ne_nil hne
          rintro ⟨⟩
          exact absurd (hdigits '-' List.mem_cons_self) (by decide)
      · rw [List.cons_append, number?_minus, hunsigned.mpr ⟨rfl, hnumber, ht⟩]
        rfl

/-- Blanks, at least one, and a text that may have to have a character. -/
theorem spells_text_iff {required : Bool} {s : List Char} :
    (Node.concat (nodesAfterName (.text "" required))).Spells s ↔
      ∃ c t, s = c :: t ∧ isBlank c = true ∧ (required = true → t ≠ []) := by
  have hparts : (Node.concat (nodesAfterName (.text "" required))).Spells s ↔
      ∃ b t, (Node.many 1 blanks).Spells b ∧
        (Node.many (if required then 1 else 0) anyCharacter).Spells t ∧ s = b ++ t := Iff.rfl
  simp only [hparts, Node.spells_many_iff, has_blanks, has_anyCharacter]
  constructor
  · rintro ⟨b, t, ⟨hb, hblank⟩, ⟨ht, -⟩, rfl⟩
    obtain ⟨c, b, rfl⟩ := List.exists_cons_of_length_pos hb
    refine ⟨c, b ++ t, rfl, hblank c List.mem_cons_self, fun hrequired hempty ↦ ?_⟩
    obtain ⟨-, rfl⟩ := List.append_eq_nil_iff.mp hempty
    simp [hrequired] at ht
  · rintro ⟨c, t, rfl, hc, hrequired⟩
    refine ⟨[c], t, ⟨le_rfl, List.forall_mem_singleton.mpr hc⟩, ⟨?_, fun _ _ ↦ trivial⟩, rfl⟩
    split_ifs with h
    · exact List.length_pos_iff.mpr (hrequired h)
    · exact Nat.zero_le _

theorem isSome_textAfterBlanks?_iff {required : Bool} {s : List Char} :
    (textAfterBlanks? required s).isSome ↔
      (Node.concat (nodesAfterName (.text "" required))).Spells s := by
  rw [spells_text_iff]
  cases s with
  | nil => simp [textAfterBlanks?, blanks?]
  | cons c t =>
    have hread : textAfterBlanks? required (c :: t) = (blanks? (c :: t)).bind fun rest ↦
        if required && rest.isEmpty then
          if 2 ≤ (c :: t).length then (c :: t).getLast?.map ([·]) else none
        else some rest := rfl
    have hshape : (∃ c' t', c :: t = c' :: t' ∧ isBlank c' = true ∧ (required = true → t' ≠ [])) ↔
        isBlank c = true ∧ (required = true → t ≠ []) := by
      constructor
      · rintro ⟨_, _, ⟨⟩, h⟩
        exact h
      · exact fun h ↦ ⟨c, t, rfl, h⟩
    rw [hread, blanks?_cons, hshape]
    by_cases hc : isBlank c = true
    · rw [if_pos hc, Option.bind_some]
      cases t with
      | nil => cases required <;> simp [hc]
      | cons d t =>
        have hlong : 2 ≤ (c :: d :: t).length := by simp
        rw [if_pos hlong]
        split_ifs <;> simp [hc]
    · simp [hc]

/-- The two numbers of a pair are those that stand before and after the comma. -/
theorem pairAfterBlanks?_eq_some_iff {signed : Bool} {s x y : List Char} :
    pairAfterBlanks? signed s = some (x, y) ↔ ∃ b b' b'', b ≠ [] ∧ (∀ c ∈ b, isBlank c = true) ∧
      (∀ c ∈ b', isBlank c = true) ∧ (∀ c ∈ b'', isBlank c = true) ∧ IsNumber signed x ∧
      IsNumber signed y ∧ s = b ++ (x ++ (b' ++ ',' :: (b'' ++ y))) := by
  constructor
  · intro hread
    obtain ⟨t, hblanks, hread⟩ := Option.bind_eq_some_iff.mp hread
    obtain ⟨⟨first, u⟩, hfirst, hread⟩ := Option.bind_eq_some_iff.mp hread
    dsimp only at hread
    split at hread
    · rename_i v hcomma
      obtain ⟨⟨second, w⟩, hsecond, hread⟩ := Option.bind_eq_some_iff.mp hread
      dsimp only at hread
      split_ifs at hread with hend
      cases hread
      obtain rfl := List.isEmpty_iff.mp hend
      obtain ⟨b, hne, hb, rfl, -⟩ := blanks?_eq_some_iff.mp hblanks
      obtain ⟨rfl, hx, -⟩ := number?_eq_some_iff.mp hfirst
      obtain ⟨hv, hy, -⟩ := number?_eq_some_iff.mp hsecond
      refine ⟨b, u.takeWhile isBlank, v.takeWhile isBlank, hne, hb,
        fun c hc ↦ List.mem_takeWhile_imp hc, fun c hc ↦ List.mem_takeWhile_imp hc, hx, hy, ?_⟩
      rw [List.append_nil] at hv
      rw [← hv, List.takeWhile_append_dropWhile, ← hcomma, List.takeWhile_append_dropWhile]
    · cases hread
  · rintro ⟨b, b', b'', hne, hb, hb', hb'', hx, hy, rfl⟩
    have hblanks : blanks? (b ++ (x ++ (b' ++ ',' :: (b'' ++ y)))) =
        some (x ++ (b' ++ ',' :: (b'' ++ y))) :=
      blanks?_eq_some_iff.mpr ⟨b, hne, hb, rfl, hx.isBlank_head? _⟩
    have hfirst : number? signed (x ++ (b' ++ ',' :: (b'' ++ y))) =
        some (x, b' ++ ',' :: (b'' ++ y)) := by
      refine number?_eq_some_iff.mpr ⟨rfl, hx, ?_⟩
      cases b' with
      | nil =>
        rintro _ ⟨⟩
        decide
      | cons d b' =>
        rintro _ ⟨⟩
        rw [Bool.eq_false_iff]
        intro hdigit
        simp [isBlank_of_isDigit hdigit] at hb'
    have hsecond : number? signed y = some (y, []) :=
      number?_eq_some_iff.mpr ⟨(List.append_nil y).symm, hy, by simp⟩
    have hcomma : (b' ++ ',' :: (b'' ++ y)).dropWhile isBlank = ',' :: (b'' ++ y) :=
      (takeWhile_append_eq hb' (by rintro _ ⟨⟩; decide)).2
    have hbegin : ∀ c ∈ y.head?, isBlank c = false := by simpa using hy.isBlank_head? []
    have hskip : (b'' ++ y).dropWhile isBlank = y := (takeWhile_append_eq hb'' hbegin).2
    refine Option.bind_eq_some_iff.mpr ⟨_, hblanks, ?_⟩
    refine Option.bind_eq_some_iff.mpr ⟨_, hfirst, ?_⟩
    simp only [hcomma, hskip]
    exact Option.bind_eq_some_iff.mpr ⟨_, hsecond, rfl⟩

theorem isSome_pairAfterBlanks?_iff {signed : Bool} {s : List Char} :
    (pairAfterBlanks? signed s).isSome ↔
      (Node.concat (nodesAfterName (.pair "" signed))).Spells s := by
  have hparts : (Node.concat (nodesAfterName (.pair "" signed))).Spells s ↔
      ∃ b u, (Node.many 1 blanks).Spells b ∧ (∃ x v, (numberNode signed).Spells x ∧
        (∃ b' w, (Node.many 0 blanks).Spells b' ∧
          (∃ m z, (Node.one (.single ',')).Spells m ∧
            (∃ b'' y, (Node.many 0 blanks).Spells b'' ∧ (numberNode signed).Spells y ∧
              z = b'' ++ y) ∧ w = m ++ z) ∧ v = b' ++ w) ∧ u = x ++ v) ∧ s = b ++ u := Iff.rfl
  simp only [Option.isSome_iff_exists, Prod.exists, pairAfterBlanks?_eq_some_iff, hparts,
    Node.spells_many_iff, has_blanks, spells_numberNode_iff]
  constructor
  · rintro ⟨x, y, b, b', b'', hne, hb, hb', hb'', hx, hy, rfl⟩
    exact ⟨b, _, ⟨List.length_pos_iff.mpr hne, hb⟩, ⟨x, _, hx, ⟨b', _, ⟨Nat.zero_le _, hb'⟩,
      ⟨[','], _, ⟨',', rfl, Node.has_single_iff.mpr rfl⟩,
        ⟨b'', y, ⟨Nat.zero_le _, hb''⟩, hy, rfl⟩, rfl⟩, rfl⟩, rfl⟩, rfl⟩
  · rintro ⟨b, _, ⟨hne, hb⟩, ⟨x, _, hx, ⟨b', _, ⟨-, hb'⟩, ⟨_, _, ⟨c, rfl, hc⟩,
      ⟨b'', y, ⟨-, hb''⟩, hy, rfl⟩, rfl⟩, rfl⟩, rfl⟩, rfl⟩
    obtain rfl := Node.has_single_iff.mp hc
    exact ⟨x, y, b, b', b'', List.length_pos_iff.mp hne, hb, hb', hb'', hx, hy, rfl⟩

/-! ### Shapes and their patterns -/

variable {shape : Shape} {n : Node} {name : String} {s : List Char}

theorem lookFree_node? (hn : shape.node? = some n) : n.LookFree := by
  have hnumber (signed : Bool) : (numberNode signed).LookFree := by
    cases signed
    · trivial
    · exact ⟨trivial, trivial⟩
  obtain ⟨name, -, rfl⟩ := Option.map_eq_some_iff.mp hn
  refine Node.lookFree_concat fun m hm ↦ ?_
  rcases List.mem_append.mp hm with hm | hm
  · exact Node.lookFree_literal name m hm
  · cases shape with
    | word | pattern => simp [nodesAfterName] at hm
    | text =>
      simp only [nodesAfterName, List.mem_cons, List.not_mem_nil, or_false] at hm
      rcases hm with rfl | rfl <;> trivial
    | pair name signed =>
      simp only [nodesAfterName, List.mem_cons, List.not_mem_nil, or_false] at hm
      rcases hm with rfl | rfl | rfl | rfl | rfl | rfl <;> first | trivial | exact hnumber signed

theorem matches_iff_exists (hname : shape.name? = some name) (hn : shape.node? = some n) :
    n.Matches s ↔ ∃ v, s = name.toList ++ v ∧ (Node.concat shape.nodesAfterName).Spells v := by
  rw [Node.matches_iff_spells (lookFree_node? hn)]
  rw [node?, hname] at hn
  obtain rfl := Option.some.inj hn
  exact Node.spells_literal_append

theorem isSome_bind_named?_iff {β : Type} {f : List Char → Option β} :
    ((named? name s).bind f).isSome ↔ ∃ v, s = name.toList ++ v ∧ (f v).isSome := by
  simp only [Option.isSome_iff_exists, Option.bind_eq_some_iff, named?, after?_eq_some_iff]
  constructor
  · rintro ⟨b, v, hv, hb⟩
    exact ⟨v, hv, b, hb⟩
  · rintro ⟨v, hv, b, hb⟩
    exact ⟨b, v, hv, hb⟩

/-- A shape with a name fits the texts that its pattern matches in full. -/
theorem isSome_parts?_iff_matches (hn : shape.node? = some n) :
    (shape.parts? s).isSome ↔ n.Matches s := by
  obtain ⟨name, hname, -⟩ := Option.map_eq_some_iff.mp hn
  rw [matches_iff_exists hname hn]
  cases shape with
  | word =>
    obtain rfl := Option.some.inj hname
    rw [parts?]
    split_ifs with hs
    · exact iff_of_true rfl ⟨[], by rw [hs, List.append_nil], rfl⟩
    · refine iff_of_false (by simp) ?_
      rintro ⟨_, hv, rfl⟩
      exact hs (by rw [hv, List.append_nil])
  | text _ required =>
    obtain rfl := Option.some.inj hname
    refine isSome_bind_named?_iff.trans (exists_congr fun v ↦ and_congr_right fun _ ↦ ?_)
    exact Iff.trans (by cases textAfterBlanks? required v <;> simp) isSome_textAfterBlanks?_iff
  | pair _ signed =>
    obtain rfl := Option.some.inj hname
    refine isSome_bind_named?_iff.trans (exists_congr fun v ↦ and_congr_right fun _ ↦ ?_)
    exact Iff.trans (by cases pairAfterBlanks? signed v <;> simp) isSome_pairAfterBlanks?_iff
  | pattern => cases hname

/-- After the name the pattern goes on with a blank, or it ends. -/
theorem isBlank_of_spells {v : List Char} (hv : (Node.concat shape.nodesAfterName).Spells v) :
    ∀ c ∈ v.head?, isBlank c = true := by
  cases shape with
  | word | pattern =>
    obtain rfl : v = [] := hv
    simp
  | text _ required =>
    obtain ⟨c, t, rfl, hc, -⟩ := spells_text_iff.mp hv
    simpa using hc
  | pair _ signed =>
    obtain ⟨⟨x, y⟩, hread⟩ := Option.isSome_iff_exists.mp (isSome_pairAfterBlanks?_iff.mpr hv)
    obtain ⟨b, _, _, hne, hb, -, -, -, -, rfl⟩ := pairAfterBlanks?_eq_some_iff.mp hread
    obtain ⟨c, b, rfl⟩ := List.exists_cons_of_ne_nil hne
    simpa using hb c List.mem_cons_self

/-- The first word of a text that a pattern matches is the name. -/
theorem takeWhile_eq_of_matches (hname : shape.name? = some name) (hn : shape.node? = some n)
    (hletters : ∀ c ∈ name.toList, (!isBlank c) = true) (h : n.Matches s) :
    s.takeWhile (!isBlank ·) = name.toList := by
  obtain ⟨v, rfl, hv⟩ := (matches_iff_exists hname hn).mp h
  have hend : ∀ c ∈ v.head?, (!isBlank c) = false :=
    fun c hc ↦ by rw [isBlank_of_spells hv c hc]; rfl
  exact (takeWhile_append_eq hletters hend).1

end Shape

/-- Whether the pattern of a definition matches the whole of a text. -/
def Definition.Matches (defn : Definition) (s : List Char) : Prop :=
  ∃ n, Node.read? .ofDefinition defn.shape.source.toList = some n ∧ n.Matches s

/-- The patterns of the built-in placeholders, read. -/
theorem Placeholder.read?_builtin : ∀ defn ∈ builtin,
    Node.read? .ofDefinition defn.shape.source.toList = defn.shape.node? ∧
      defn.shape.node?.isSome := by
  decide +kernel

example : Placeholder.builtin.map (·.shape.source) =
    ["choice\\s+(.*)", "rng\\s+(-?\\d+)\\s*,\\s*(-?\\d+)", "message",
      "argument\\s+(\\d+)\\s*,\\s*(\\d+)", "messageText", "mentions", "sender", "channel",
      "randomEventMember\\s+(.+)", "daysSince\\s+(.+)", "upper\\s+(.*)", "lower\\s+(.*)"] := by
  decide +kernel

theorem Placeholder.isBlank_name_builtin : ∀ defn ∈ builtin,
    defn.shape.name?.all fun name ↦ name.toList.all (!isBlank ·) := by
  decide +kernel

theorem Placeholder.names_builtin :
    builtin.Pairwise fun a b ↦ a.shape.name? ≠ b.shape.name? := by
  decide +kernel

/-! ### The built-in placeholders -/

/-- Whatever the order, at most one of the elements gives an answer. -/
theorem findSome?_perm {α β : Type} {f : α → Option β} {l l' : List α} (hperm : l.Perm l')
    (hapart : l.Pairwise fun a b ↦ ¬((f a).isSome ∧ (f b).isSome)) :
    l.findSome? f = l'.findSome? f := by
  induction hperm with
  | nil => rfl
  | cons a hperm ih =>
    rw [List.findSome?_cons, List.findSome?_cons, ih (List.pairwise_cons.mp hapart).2]
  | swap a b l =>
    have hboth := (List.pairwise_cons.mp hapart).1 a List.mem_cons_self
    rw [List.findSome?_cons, List.findSome?_cons, List.findSome?_cons, List.findSome?_cons]
    cases ha : f a with
    | none => rfl
    | some x =>
      cases hb : f b with
      | none => rfl
      | some y => exact absurd ⟨by rw [hb]; rfl, by rw [ha]; rfl⟩ hboth
  | trans hperm _ ih ih' =>
    have hsymm {a b : α} (h : ¬((f a).isSome ∧ (f b).isSome)) :
        ¬((f b).isSome ∧ (f a).isSome) := fun hboth ↦ h hboth.symm
    exact (ih hapart).trans (ih' ((hperm.pairwise_iff hsymm).mp hapart))

namespace Placeholder

/-- A built-in placeholder is handled by a definition exactly if the definition's pattern matches
the whole of it. -/
theorem handles_iff_matches {defn : Definition} (hdefn : defn ∈ builtin) (s : List Char) :
    (defn.shape.parts? s).isSome ↔ defn.Matches s := by
  obtain ⟨hread, hnode⟩ := read?_builtin defn hdefn
  obtain ⟨n, hn⟩ := Option.isSome_iff_exists.mp hnode
  rw [Shape.isSome_parts?_iff_matches hn]
  constructor
  · exact fun h ↦ ⟨n, hread.trans hn, h⟩
  · rintro ⟨m, hm, h⟩
    obtain rfl := Option.some.inj (hm.symm.trans (hread.trans hn))
    exact h

/-- The first word of a text that a built-in pattern matches is the definition's name. -/
theorem exists_name_of_matches {defn : Definition} (hdefn : defn ∈ builtin) {s : List Char}
    (h : defn.Matches s) :
    ∃ name, defn.shape.name? = some name ∧ s.takeWhile (!isBlank ·) = name.toList := by
  obtain ⟨n, hn, hmatches⟩ := h
  rw [(read?_builtin defn hdefn).1] at hn
  obtain ⟨name, hname, -⟩ := Option.map_eq_some_iff.mp hn
  have hletters := isBlank_name_builtin defn hdefn
  rw [hname, Option.all_some, List.all_eq_true] at hletters
  exact ⟨name, hname, Shape.takeWhile_eq_of_matches hname hn hletters hmatches⟩

/-- No text is matched by two of the built-in patterns. -/
theorem pairwise_matches (s : List Char) :
    builtin.Pairwise fun a b ↦ ¬(a.Matches s ∧ b.Matches s) := by
  refine names_builtin.imp_of_mem fun {a b} ha hb hnames ⟨hmatches, hmatches'⟩ ↦ ?_
  obtain ⟨name, hname, hword⟩ := exists_name_of_matches ha hmatches
  obtain ⟨name', hname', hword'⟩ := exists_name_of_matches hb hmatches'
  obtain rfl := String.toList_injective (hword.symm.trans hword')
  exact hnames (hname.trans hname'.symm)

/-- Between braces a text is answered by the built-in definition whose shape fits it. -/
theorem expand_asking {defn : Definition} (hdefn : defn ∈ builtin) {s : List Char} {parts : Parts}
    (hparts : defn.shape.parts? s = some parts) (ctx : TemplateContext) (d : Draws) :
    builtin.expand ctx (Template.asking s) d = defn.handler ctx parts d := by
  rw [Definitions.expand_asking]
  obtain ⟨before, first, after, parts', heq, -, hparts', hanswer⟩ | ⟨hnone, -⟩ :=
    Definitions.substitute_cases ctx s d builtin
  · have hfirst : first ∈ builtin := by simp [heq]
    have hboth : first.Matches s ∧ defn.Matches s := by
      rw [← handles_iff_matches hfirst, ← handles_iff_matches hdefn, hparts, hparts']
      exact ⟨rfl, rfl⟩
    have : Std.Symm fun a b : Definition ↦ ¬(a.Matches s ∧ b.Matches s) :=
      ⟨fun _ _ hapart h ↦ hapart h.symm⟩
    obtain rfl : first = defn := by
      by_contra hne
      exact (pairwise_matches s).forall hfirst hdefn hne hboth
    rw [hparts] at hparts'
    rw [hanswer, Option.some.inj hparts']
  · rw [hnone defn hdefn] at hparts
    cases hparts

/-- At most one of the built-in patterns matches a text in full, so that in whatever order they are
asked the text gets the same answer and the same randomness is drawn for it. -/
theorem builtin_order_is_free :
    (∀ s, builtin.Pairwise fun a b ↦ ¬(a.Matches s ∧ b.Matches s)) ∧
      ∀ defs : Definitions, defs.Perm builtin → ∀ ctx s d,
        defs.evaluate? ctx s d = builtin.evaluate? ctx s d := by
  refine ⟨pairwise_matches, fun defs hperm ctx s d ↦ ?_⟩
  refine (findSome?_perm hperm.symm ?_).symm
  refine (pairwise_matches s).imp_of_mem fun {a b} ha hb hapart ↦ ?_
  rw [Option.isSome_map, Option.isSome_map, handles_iff_matches ha, handles_iff_matches hb]
  exact hapart

/-- Asked from the last one to the first, the definitions give `messageText` its own answer. -/
theorem builtin_order_is_free_reverse :
    let ctx : TemplateContext := { sender := "ann", message := "<@1> hi", today := ⟨2024, 5, 10⟩ }
    (builtin.reverse : Definitions).Perm builtin ∧
      Definitions.evaluate? builtin.reverse ctx "messageText".toList {} =
        some ("hi".toList, {}) := by
  intro ctx
  have hperm : (builtin.reverse : Definitions).Perm builtin := List.reverse_perm builtin
  refine ⟨hperm, ?_⟩
  rw [builtin_order_is_free.2 _ hperm]
  decide +kernel

end Placeholder

end Guildhall
