import Guildhall.Guild.Keywords
import Guildhall.Proofs.CaseFolding
import Guildhall.Proofs.PatternSearches
import Guildhall.Proofs.PatternTexts
import Guildhall.Proofs.SoundPatterns

/-!
Keywords whose pattern is no regular expression. The literal text that is compiled for such a
pattern is read back as its characters, with a boundary at each end that belongs to a word
(`Keyword.read?_literalSource`), and it matches where the pattern stands in a text up to case and
the boundaries hold (`Keyword.isMatch_literal_iff`). An end gets a boundary if it is a letter or a
number of any kind, but the boundary holds beside a character of a word, and a number such as a
superscript is none: a pattern with such an end does not match its own text
(`Keyword.literal_finds_itself_iff`).
-/

set_option autoImplicit false

namespace Guildhall

open Pattern

namespace Pattern.Reading

/-- Adds nodes without depth to what has been read. -/
def pushAll (r : Reading) (nodes : List Node) : Reading := nodes.foldl (·.push · 0) r

theorem pushAll_eq (r : Reading) (nodes : List Node) :
    r.pushAll nodes = { r with pieces := (nodes.map (Piece.node · 0)).reverse ++ r.pieces } := by
  induction nodes generalizing r with
  | nil => rfl
  | cons n nodes ih =>
    rw [pushAll, List.foldl_cons, ← pushAll, ih]
    simp [push]

theorem body_pushAll (f : Flags) (nodes : List Node) :
    (({ flags := f } : Reading).pushAll nodes).body.1 = .concat nodes ∧
      (({ flags := f } : Reading).pushAll nodes).body.2 ≤ depthLimit := by
  have hflat : ∀ ns : List Node, (ns.map fun _ ↦ 0).foldl max 0 = 0 := by
    intro ns
    induction ns with
    | nil => rfl
    | cons n ns ih => exact ih
  rw [pushAll_eq]
  constructor
  · simp [body, branch, Node.choice, List.filterMap_map, Function.comp_def]
  · simp only [body, branch, List.append_nil, List.reverse_reverse, List.map_map,
      Function.comp_def, hflat, List.reverse_cons, List.reverse_nil, List.nil_append,
      List.map_cons, List.map_nil, List.length_singleton, List.foldl_cons, List.foldl_nil]
    split_ifs <;> simp [depthLimit]

end Pattern.Reading

namespace Pattern.Node

variable {s : List Char} {first last : Nat}

theorem reads_concat_cons {n : Node} {ns : List Node} :
    (concat (n :: ns)).Reads s first last ↔
      ∃ place, n.Reads s first place ∧ (concat ns).Reads s place last := by
  cases ns with
  | nil => simp [concat, Reads]
  | cons m ns => rfl

theorem reads_concat_append {ns ms : List Node} :
    (concat (ns ++ ms)).Reads s first last ↔
      ∃ place, (concat ns).Reads s first place ∧ (concat ms).Reads s place last := by
  induction ns generalizing first with
  | nil => simp [concat, Reads]
  | cons n ns ih =>
    simp only [List.cons_append, reads_concat_cons, ih]
    constructor
    · rintro ⟨second, hn, place, hns, hms⟩
      exact ⟨place, ⟨second, hn, hns⟩, hms⟩
    · rintro ⟨place, ⟨second, hn, hns⟩, hms⟩
      exact ⟨second, hn, place, hns, hms⟩

end Pattern.Node

namespace Keyword

/-! ### Reading the literal text -/

/-- Whether a text is read as nodes one after the other, whatever was read before it. -/
def Takes (text : List Char) (nodes : List Node) : Prop :=
  ∀ (fuel : Nat) (r : Reading), r.flags = { ignoreCase := true } → text.length < fuel →
    readFrom fuel r text = some (r.pushAll nodes)

/-- What a character is read as regardless of case. -/
def letterNode (c : Char) : Node := .one (.ofCodeFolded c.toNat)

/-- The boundary at an end that is part of a word, as it is written. -/
def edgeSource (edge : Option Char) : List Char := if isWordEdge edge then ['\\', 'b'] else []

/-- The boundary at an end that is part of a word. -/
def edgeNodes (edge : Option Char) : List Node :=
  if isWordEdge edge then [.look (.boundary false)] else []

theorem literalSource_eq (s : List Char) :
    literalSource s = edgeSource s.head? ++ (escape s ++ edgeSource s.getLast?) := by
  rw [literalSource, List.append_assoc]
  rfl

theorem literalNode_eq (s : List Char) :
    literalNode s =
      .concat (edgeNodes s.head? ++ (s.map letterNode ++ edgeNodes s.getLast?)) := by
  rw [← List.append_assoc]
  rfl

section

variable {r : Reading} {c : Char} {s text rest : List Char} {nodes : List Node}

theorem takes_nil : Takes [] [] := by
  intro fuel r hflags hfuel
  obtain ⟨fuel, rfl⟩ := Nat.exists_eq_succ_of_ne_zero (Nat.ne_zero_of_lt hfuel)
  have hskip : skipSpace r.flags [] = [] := by rw [hflags]; rfl
  rw [readFrom, hskip]
  rfl

theorem Takes.cons {n : Node} (h : Takes rest nodes) (hlength : rest.length ≤ text.length)
    (hstep : ∀ r : Reading, r.flags = { ignoreCase := true } →
      step? r c text = some (r.push n 0, rest)) :
    Takes (c :: text) (n :: nodes) := by
  intro fuel r hflags hfuel
  obtain ⟨fuel, rfl⟩ := Nat.exists_eq_succ_of_ne_zero (Nat.ne_zero_of_lt hfuel)
  have hskip : skipSpace r.flags (c :: text) = c :: text := by rw [hflags]; rfl
  rw [readFrom, hskip]
  dsimp only
  rw [hstep r hflags]
  exact h fuel (r.push n 0) hflags (hlength.trans_lt (Nat.lt_of_succ_lt_succ hfuel))

theorem step?_plain (hflags : r.flags = { ignoreCase := true }) (hc : c ∉ metaCharacters) :
    step? r c s = some (r.push (letterNode c) 0, s) := by
  unfold step?
  split
  all_goals first
    | exact absurd (by decide) hc
    | rw [charNode?, hflags]; rfl

theorem step?_escaped (hflags : r.flags = { ignoreCase := true }) (hc : c ∈ metaCharacters) :
    step? r '\\' (c :: s) = some (r.push (letterNode c) 0, s) := by
  have hcode : ¬(c = 'x' ∨ c = 'u' ∨ c = 'U') := by
    rintro (rfl | rfl | rfl) <;> exact absurd hc (by decide)
  have hproperty : ¬(c = 'p' ∨ c = 'P') := by
    rintro (rfl | rfl) <;> exact absurd hc (by decide)
  have hescapable : isEscapable c = true := by simp [isEscapable, hc]
  have hatom : escape? r.flags (c :: s) = some (.char c false, s) := by
    simp only [escape?, List.head?_cons, Option.bind_eq_bind, Option.bind_some, List.tail_cons,
      if_neg hcode, if_neg hproperty, hescapable, if_true]
  rw [step?, hatom, Option.bind_eq_bind, Option.bind_some]
  simp only [Atom.node?, charNode?, hflags]
  rfl

theorem step?_bound (hflags : r.flags = { ignoreCase := true }) (hs : s.head? ≠ some '\x7b') :
    step? r '\\' ('b' :: s) = some (r.push (.look (.boundary false)) 0, s) := by
  have hbound : boundaryEscape? r.flags s = some (.boundary false, s) := by
    rw [boundaryEscape?, if_neg hs, hflags]
    rfl
  have hatom : escape? r.flags ('b' :: s) = some (.look (.boundary false), s) := by
    have hescapable : isEscapable 'b' = false := by decide
    simp [escape?, hescapable, hbound]
  rw [step?, hatom]
  rfl

theorem escape_cons (c : Char) (s : List Char) :
    escape (c :: s) = (if metaCharacters.contains c then ['\\', c] else [c]) ++ escape s := rfl

/-- An escaped text does not begin with a brace, which a boundary before it would take to be its
name. -/
theorem head?_escape_append (s : List Char) (hrest : rest.head? ≠ some '\x7b') :
    (escape s ++ rest).head? ≠ some '\x7b' := by
  cases s with
  | nil => exact hrest
  | cons c s =>
    rw [escape_cons]
    split_ifs with hmeta
    · simp
    · rintro hhead
      obtain rfl : c = '\x7b' := by simpa using hhead
      exact hmeta (by decide)

theorem Takes.escape_append (h : Takes rest nodes) (s : List Char) :
    Takes (escape s ++ rest) (s.map letterNode ++ nodes) := by
  induction s with
  | nil => exact h
  | cons c s ih =>
    rw [escape_cons, List.map_cons, List.cons_append]
    split_ifs with hmeta
    · have hc : c ∈ metaCharacters := List.contains_iff_mem.mp hmeta
      exact ih.cons (by simp) fun r hflags ↦ step?_escaped hflags hc
    · have hc : c ∉ metaCharacters := fun hc ↦ hmeta (List.contains_iff_mem.mpr hc)
      exact ih.cons le_rfl fun r hflags ↦ step?_plain hflags hc

theorem Takes.edge_append (h : Takes rest nodes) (hrest : rest.head? ≠ some '\x7b')
    (edge : Option Char) : Takes (edgeSource edge ++ rest) (edgeNodes edge ++ nodes) := by
  rw [edgeSource, edgeNodes]
  split_ifs
  · exact h.cons (by simp) fun r hflags ↦ step?_bound hflags hrest
  · exact h

/-- The literal text of a pattern is read as its characters and the boundaries at its ends. -/
theorem read?_literalSource (s : List Char) :
    Node.read? { ignoreCase := true } (literalSource s) = some (literalNode s) := by
  have hlast : Takes (edgeSource s.getLast?) (edgeNodes s.getLast?) := by
    simpa using takes_nil.edge_append (by simp) s.getLast?
  have hbrace : (edgeSource s.getLast?).head? ≠ some '\x7b' := by
    rw [edgeSource]
    split_ifs <;> simp
  have htakes := (hlast.escape_append s).edge_append (head?_escape_append s hbrace) s.head?
  rw [← literalSource_eq] at htakes
  have hread := htakes _ { flags := { ignoreCase := true } } rfl (Nat.lt_succ_self _)
  obtain ⟨hnode, hdepth⟩ := Reading.body_pushAll { ignoreCase := true }
    (edgeNodes s.head? ++ (s.map letterNode ++ edgeNodes s.getLast?))
  rw [Node.read?, hread, Option.bind_eq_bind, Option.bind_some]
  dsimp only
  rw [if_pos ⟨by rw [Reading.pushAll_eq]; rfl, hdepth⟩, hnode, literalNode_eq]

end

/-! ### Where a literal pattern stands -/

/-- Whether two texts are the same up to case. -/
def EqUpToCase (word same : List Char) : Prop :=
  word.map (fun c ↦ foldCode c.toNat) = same.map fun c ↦ foldCode c.toNat

instance (word same : List Char) : Decidable (EqUpToCase word same) :=
  inferInstanceAs (Decidable (_ = _))

/-- Whether there is a boundary of a word between two parts of a text. -/
def AtBoundary (before after : List Char) : Prop :=
  inWord false before.getLast? ≠ inWord false after.head?

section

variable {before rest word same : List Char} {last : Nat}

theorem spells_letters :
    (Node.concat (word.map letterNode)).Spells same ↔ EqUpToCase word same := by
  induction word generalizing same with
  | nil => simp [Node.concat, Node.Spells, EqUpToCase, eq_comm (a := [])]
  | cons c word ih =>
    rw [List.map_cons, Node.spells_concat_cons]
    constructor
    · rintro ⟨_, v, ⟨d, rfl, hd⟩, hv, rfl⟩
      have hcode := (Charset.hasCode_ofCodeFolded c.toNat d.toNat).mp hd
      exact congrArg₂ List.cons hcode.symm (ih.mp hv)
    · intro hsame
      cases same with
      | nil => simp [EqUpToCase] at hsame
      | cons d v =>
        obtain ⟨hcode, hv⟩ := List.cons.inj hsame
        have hd := (Charset.hasCode_ofCodeFolded c.toNat d.toNat).mpr hcode.symm
        exact ⟨[d], v, ⟨d, rfl, hd⟩, ih.mpr hv, rfl⟩

theorem reads_edgeNodes {edge : Option Char} :
    (Node.concat (edgeNodes edge)).Reads (before ++ rest) before.length last ↔
      last = before.length ∧ (isWordEdge edge = true → AtBoundary before rest) := by
  have hlook : (Look.boundary false).HoldsAt (before ++ rest) before.length ↔
      AtBoundary before rest := by
    rw [Look.HoldsAt, List.take_left, List.drop_left]
    exact bne_iff_ne
  rw [edgeNodes, eq_comm (a := last)]
  split_ifs with hedge
  · simp only [Node.concat, Node.Reads, hlook, hedge, true_imp_iff, and_comm]
  · simp only [Node.concat, Node.Reads, hedge, Bool.false_eq_true, false_imp_iff, and_true]

/-- The literal node reads the pattern up to case, with a boundary at each end that asks for one. -/
theorem reads_literalNode_iff :
    (literalNode word).Reads (before ++ rest) before.length last ↔
      ∃ same after, rest = same ++ after ∧ EqUpToCase word same ∧
        last = (before ++ same).length ∧
        (isWordEdge word.head? = true → AtBoundary before rest) ∧
        (isWordEdge word.getLast? = true → AtBoundary (before ++ same) after) := by
  have hletters : (Node.concat (word.map letterNode)).LookFree :=
    Node.lookFree_concat fun n hn ↦ by
      obtain ⟨c, -, rfl⟩ := List.mem_map.mp hn
      trivial
  rw [literalNode_eq, Node.reads_concat_append]
  constructor
  · rintro ⟨_, hhead, hrest⟩
    obtain ⟨rfl, hfirst⟩ := reads_edgeNodes.mp hhead
    obtain ⟨_, hword, hlast⟩ := Node.reads_concat_append.mp hrest
    obtain ⟨same, hsame, ⟨after, hafter⟩, rfl⟩ := (Node.reads_iff_spells hletters _ _ _).mp hword
    rw [List.drop_left] at hafter
    subst hafter
    rw [← List.append_assoc, ← List.length_append] at hlast
    obtain ⟨rfl, hsecond⟩ := reads_edgeNodes.mp hlast
    exact ⟨same, after, rfl, spells_letters.mp hsame, rfl, hfirst, hsecond⟩
  · rintro ⟨same, after, rfl, hsame, rfl, hfirst, hsecond⟩
    refine ⟨before.length, reads_edgeNodes.mpr ⟨rfl, hfirst⟩, ?_⟩
    refine Node.reads_concat_append.mpr ⟨(before ++ same).length, ?_, ?_⟩
    · refine (Node.reads_iff_spells hletters _ _ _).mpr ⟨same, spells_letters.mpr hsame, ?_, ?_⟩
      · rw [List.drop_left]
        exact List.prefix_append same after
      · exact List.length_append
    · rw [← List.append_assoc]
      exact reads_edgeNodes.mpr ⟨rfl, hsecond⟩

end

/-! ### Patterns that are compiled literally -/

variable {pattern : String} {c : Compiled}

theorem of_compile? (hinvalid : Compiled.ofSource? { ignoreCase := true } pattern = none)
    (hcompiled : compile? pattern = some c) :
    c.source = String.ofList (literalSource pattern.toList) ∧
      Program.ofNode? (literalNode pattern.toList) = some c.program := by
  rw [compile?, hinvalid, Option.none_or] at hcompiled
  obtain ⟨program, hprogram, rfl⟩ := Option.map_eq_some_iff.mp hcompiled
  exact ⟨rfl, hprogram⟩

/-- What is compiled for a pattern that is no regular expression is its literal text, compiled as
any pattern is. -/
theorem ofSource?_source (hinvalid : Compiled.ofSource? { ignoreCase := true } pattern = none)
    (hcompiled : compile? pattern = some c) :
    Compiled.ofSource? { ignoreCase := true } c.source = some c := by
  obtain ⟨hsource, hprogram⟩ := of_compile? hinvalid hcompiled
  rw [Compiled.ofSource?, hsource, String.toList_ofList, read?_literalSource,
    Option.bind_eq_bind, Option.bind_some, Compiled.ofNode?, hprogram, Option.map_some, ← hsource]

/-- A pattern that is no regular expression matches where it stands up to case, with a boundary at
each end that asks for one. -/
theorem isMatch_literal_iff (hinvalid : Compiled.ofSource? { ignoreCase := true } pattern = none)
    (hcompiled : compile? pattern = some c) (text : String) :
    c.isMatch text = true ↔ ∃ before same after, text.toList = before ++ (same ++ after) ∧
      EqUpToCase pattern.toList same ∧
      (isWordEdge pattern.toList.head? = true → AtBoundary before (same ++ after)) ∧
      (isWordEdge pattern.toList.getLast? = true → AtBoundary (before ++ same) after) := by
  obtain ⟨-, hprogram⟩ := of_compile? hinvalid hcompiled
  have hsound := Node.sound_of_read? (read?_literalSource pattern.toList)
  rw [Compiled.isMatch, Program.isMatch_iff hsound.loops hprogram]
  constructor
  · rintro ⟨first, hfirst, last, hreads⟩
    obtain ⟨before, rest, htext, rfl⟩ : ∃ before rest : List Char,
        text.toList = before ++ rest ∧ before.length = first :=
      ⟨_, _, (List.take_append_drop first _).symm, List.length_take_of_le hfirst⟩
    rw [htext] at hreads ⊢
    obtain ⟨same, after, rfl, hsame, -, hedges⟩ := reads_literalNode_iff.mp hreads
    exact ⟨before, same, after, rfl, hsame, hedges⟩
  · rintro ⟨before, same, after, htext, hsame, hfirst, hlast⟩
    rw [htext]
    exact ⟨before.length, by simp, _,
      reads_literalNode_iff.mpr ⟨same, after, rfl, hsame, rfl, hfirst, hlast⟩⟩

/-! ### Patterns that find themselves -/

/-- Whether a word stands in a text, up to case, with no character of a word directly before or
after it. -/
def StandsAlone (word text : List Char) : Prop :=
  ∃ before same after, text = before ++ (same ++ after) ∧ EqUpToCase word same ∧
    inWord false before.getLast? = false ∧ inWord false after.head? = false

/-- Whether each end that gets a boundary is part of a word where the boundary is tested. -/
structure EdgesAgree (word : List Char) : Prop where
  head : isWordEdge word.head? = true → inWord false word.head? = true
  last : isWordEdge word.getLast? = true → inWord false word.getLast? = true

section

variable {before word same after : List Char}

theorem inWord_eq_of_fold {a b : Option Char}
    (h : a.map (fun c ↦ foldCode c.toNat) = b.map fun c ↦ foldCode c.toNat) :
    inWord false a = inWord false b := by
  cases a with
  | none =>
    obtain rfl := Option.map_eq_none_iff.mp h.symm
    rfl
  | some c =>
    obtain ⟨d, rfl, hcode⟩ := Option.map_eq_some_iff.mp h.symm
    exact isWord_eq_of_foldCode hcode.symm

theorem inWord_or {a b : Option Char} (h : inWord false a = true) :
    inWord false (a.or b) = true := by
  cases a with
  | none => simp [inWord] at h
  | some c => exact h

theorem EqUpToCase.inWord_head (h : EqUpToCase word same) :
    inWord false word.head? = inWord false same.head? :=
  inWord_eq_of_fold (by rw [← List.head?_map, h, List.head?_map])

theorem EqUpToCase.inWord_last (h : EqUpToCase word same) :
    inWord false word.getLast? = inWord false same.getLast? :=
  inWord_eq_of_fold (by rw [← List.getLast?_map, h, List.getLast?_map])

theorem atBoundary_head (hbefore : inWord false before.getLast? = false)
    (hsame : inWord false same.head? = true) : AtBoundary before (same ++ after) := by
  rw [AtBoundary, hbefore, List.head?_append, inWord_or hsame]
  exact Bool.false_ne_true

theorem atBoundary_last (hafter : inWord false after.head? = false)
    (hsame : inWord false same.getLast? = true) : AtBoundary (before ++ same) after := by
  rw [AtBoundary, hafter, List.getLast?_append, inWord_or hsame]
  exact Bool.false_ne_true.symm

theorem standsAlone_self (word : List Char) : StandsAlone word word :=
  ⟨[], word, [], by simp, rfl, rfl, rfl⟩

theorem isMatch_of_standsAlone
    (hinvalid : Compiled.ofSource? { ignoreCase := true } pattern = none)
    (hcompiled : compile? pattern = some c) (hedges : EdgesAgree pattern.toList) {text : String}
    (hstands : StandsAlone pattern.toList text.toList) : c.isMatch text = true := by
  obtain ⟨before, same, after, htext, hsame, hbefore, hafter⟩ := hstands
  refine (isMatch_literal_iff hinvalid hcompiled text).mpr
    ⟨before, same, after, htext, hsame, fun hedge ↦ ?_, fun hedge ↦ ?_⟩
  · exact atBoundary_head hbefore (hsame.inWord_head ▸ hedges.head hedge)
  · exact atBoundary_last hafter (hsame.inWord_last ▸ hedges.last hedge)

theorem edgesAgree_of_isMatch
    (hinvalid : Compiled.ofSource? { ignoreCase := true } pattern = none)
    (hcompiled : compile? pattern = some c) (hmatch : c.isMatch pattern = true) :
    EdgesAgree pattern.toList := by
  obtain ⟨before, same, after, htext, hsame, hfirst, hlast⟩ :=
    (isMatch_literal_iff hinvalid hcompiled pattern).mp hmatch
  -- What is matched is as long as the pattern, and so the whole of its text.
  have hlength : pattern.toList.length = same.length := by
    simpa using congrArg List.length hsame
  have hsum := congrArg List.length htext
  rw [List.length_append, List.length_append] at hsum
  obtain rfl : before = [] := List.eq_nil_of_length_eq_zero (by omega)
  obtain rfl : after = [] := List.eq_nil_of_length_eq_zero (by omega)
  obtain rfl : pattern.toList = same := by simpa using htext
  constructor
  · intro hedge
    have hbound := hfirst hedge
    rw [List.append_nil] at hbound
    exact Bool.eq_true_of_not_eq_false hbound.symm
  · exact fun hedge ↦ Bool.eq_true_of_not_eq_false (hlast hedge)

end

/-- A pattern that is no regular expression is compiled as its literal text. It matches wherever it
stands alone, its own text included, exactly if every end of it that gets a boundary is part of a
word where the boundary is tested. -/
theorem literal_finds_itself_iff
    (hinvalid : Compiled.ofSource? { ignoreCase := true } pattern = none)
    (hcompiled : compile? pattern = some c) :
    Compiled.ofSource? { ignoreCase := true } c.source = some c ∧
      ((∀ text : String, StandsAlone pattern.toList text.toList → c.isMatch text = true) ↔
        EdgesAgree pattern.toList) ∧
      (c.isMatch pattern = true ↔ EdgesAgree pattern.toList) := by
  refine ⟨ofSource?_source hinvalid hcompiled, ⟨fun hall ↦ ?_, fun hedges text hstands ↦ ?_⟩,
    edgesAgree_of_isMatch hinvalid hcompiled, fun hedges ↦ ?_⟩
  · exact edgesAgree_of_isMatch hinvalid hcompiled (hall pattern (standsAlone_self _))
  · exact isMatch_of_standsAlone hinvalid hcompiled hedges hstands
  · exact isMatch_of_standsAlone hinvalid hcompiled hedges (standsAlone_self _)

theorem literal_finds_itself_iff_cpp :
    ∃ c, compile? "c++ (" = some c ∧ c.isMatch "I write C++ ( daily" = true := by
  have hinvalid : Compiled.ofSource? { ignoreCase := true } "c++ (" = none :=
    Option.isNone_iff_eq_none.mp (by decide +kernel)
  have hletter : letterNode 'c' = .one [(0x43, 0x43), (0x63, 0x63)] := by
    have hcode : foldCode 'c'.toNat = 0x43 := by decide +kernel
    have hothers : (foldPairs.filterMap fun p ↦ if p.2 == 0x43 then some (p.1, p.1) else none) =
        [(0x63, 0x63)] := by decide +kernel
    rw [letterNode, Charset.ofCodeFolded, hcode, hothers, Charset.normalize,
      List.mergeSort_of_pairwise (by simp)]
    rfl
  have hnode : literalNode "c++ (".toList = .concat ([.look (.boundary false)] ++
      .one [(0x43, 0x43), (0x63, 0x63)] :: "++ (".toList.map letterNode) := by
    have hfirst : edgeNodes "c++ (".toList.head? = [.look (.boundary false)] := by
      decide +kernel
    have hlast : edgeNodes "c++ (".toList.getLast? = [] := by decide +kernel
    rw [← hletter, literalNode_eq, hfirst, hlast, List.append_nil]
    rfl
  have hroom : (compile? "c++ (").isSome = true := by
    rw [compile?, hinvalid, hnode]
    decide +kernel
  obtain ⟨c, hcompiled⟩ := Option.isSome_iff_exists.mp hroom
  have hedges : EdgesAgree "c++ (".toList := ⟨by decide +kernel, by decide +kernel⟩
  have hstands : StandsAlone "c++ (".toList "I write C++ ( daily".toList :=
    ⟨"I write ".toList, "C++ (".toList, " daily".toList, rfl, by decide +kernel,
      by decide +kernel, by decide +kernel⟩
  exact ⟨c, hcompiled, (literal_finds_itself_iff hinvalid hcompiled).2.1.mpr hedges _ hstands⟩

/-- A superscript is a number but no part of a word: the boundary before it does not hold. -/
theorem superscript_edge_misses_itself :
    Compiled.ofSource? { ignoreCase := true } "²(" = none ∧ ∃ c, compile? "²(" = some c ∧
      StandsAlone "²(".toList "²(".toList ∧ c.isMatch "²(" = false := by
  have hinvalid : (Compiled.ofSource? { ignoreCase := true } "²(").isNone = true := by
    decide +kernel
  have hmisses : (compile? "²(").map (·.isMatch "²(") = some false := by decide +kernel
  obtain ⟨c, hcompiled, hmatch⟩ := Option.map_eq_some_iff.mp hmisses
  exact ⟨Option.isNone_iff_eq_none.mp hinvalid, c, hcompiled, standsAlone_self _, hmatch⟩

end Keyword

end Guildhall
