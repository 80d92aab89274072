import Guildhall.Pattern.Meaning
import Mathlib.Data.List.Basic
import Mathlib.Data.Nat.Basic

/-!
The texts that patterns read. Without looks it does not matter to a node where in a larger text it
reads (`Node.reads_iff_spells`), so that the texts of a pattern are put together from those of its
parts: a literal, a character, a run of characters of one set, and what follows them.
-/

set_option autoImplicit false

namespace Guildhall.Pattern

theorem append_prefix_drop_iff {s u v : List Char} {place : Nat} :
    u ++ v <+: s.drop place ↔ u <+: s.drop place ∧ v <+: s.drop (place + u.length) := by
  constructor
  · rintro ⟨rest, hrest⟩
    refine ⟨⟨v ++ rest, by rw [← hrest, List.append_assoc]⟩, rest, ?_⟩
    rw [← List.drop_drop, ← hrest, List.append_assoc, List.drop_left]
  · rintro ⟨⟨rest, hrest⟩, more, hmore⟩
    refine ⟨more, ?_⟩
    rw [← List.drop_drop, ← hrest, List.drop_left] at hmore
    rw [← hrest, ← hmore, List.append_assoc]

theorem singleton_prefix_drop_iff {s : List Char} {c : Char} {place : Nat} :
    [c] <+: s.drop place ↔ s[place]? = some c := by
  rw [← List.head?_drop]
  cases s.drop place <;> simp [eq_comm]

/-- Whether what `texts` has stands between two places. -/
def Spans (texts : List Char → Prop) (s : List Char) (first last : Nat) : Prop :=
  ∃ w, texts w ∧ w <+: s.drop first ∧ last = first + w.length

section

variable {s : List Char} {texts others : List Char → Prop} {reads : Nat → Nat → Prop}

theorem Spans.mono {first last : Nat} (h : Spans texts s first last)
    (hothers : ∀ w, texts w → others w) : Spans others s first last := by
  obtain ⟨w, hw, hspan⟩ := h
  exact ⟨w, hothers w hw, hspan⟩

/-- Two texts stand one after the other if their parts do. -/
theorem spans_append {first last : Nat} :
    Spans (fun w ↦ ∃ u v, texts u ∧ others v ∧ w = u ++ v) s first last ↔
      ∃ place, Spans texts s first place ∧ Spans others s place last := by
  constructor
  · rintro ⟨_, ⟨u, v, hu, hv, rfl⟩, hboth, rfl⟩
    obtain ⟨hfirst, hsecond⟩ := append_prefix_drop_iff.mp hboth
    refine ⟨first + u.length, ⟨u, hu, hfirst, rfl⟩, v, hv, hsecond, ?_⟩
    rw [List.length_append, Nat.add_assoc]
  · rintro ⟨_, ⟨u, hu, hfirst, rfl⟩, v, hv, hsecond, rfl⟩
    refine ⟨u ++ v, ⟨u, v, hu, hv, rfl⟩, append_prefix_drop_iff.mpr ⟨hfirst, hsecond⟩, ?_⟩
    rw [List.length_append, Nat.add_assoc]

theorem repeats_iff_spans (hreads : ∀ first last, reads first last ↔ Spans texts s first last)
    (count first last : Nat) :
    Repeats reads count first last ↔
      Spans (fun w ↦ ∃ ws : List (List Char), ws.length = count ∧ (∀ v ∈ ws, texts v) ∧
        w = ws.flatten) s first last := by
  induction count generalizing first with
  | zero =>
    constructor
    · rintro rfl
      exact ⟨[], ⟨[], rfl, by simp, rfl⟩, List.nil_prefix, rfl⟩
    · rintro ⟨_, ⟨ws, hws, -, rfl⟩, -, rfl⟩
      obtain rfl := List.eq_nil_of_length_eq_zero hws
      rfl
  | succ count ih =>
    have hparts : Repeats reads (count + 1) first last ↔ ∃ place, Spans texts s first place ∧
        Repeats reads count place last :=
      exists_congr fun place ↦ and_congr_left fun _ ↦ hreads first place
    simp only [ih, ← spans_append] at hparts
    rw [hparts]
    constructor
    · refine fun h ↦ h.mono ?_
      rintro _ ⟨u, _, hu, ⟨ws, rfl, hws, rfl⟩, rfl⟩
      exact ⟨u :: ws, rfl, List.forall_mem_cons.mpr ⟨hu, hws⟩, rfl⟩
    · refine fun h ↦ h.mono ?_
      rintro _ ⟨ws, hlength, hws, rfl⟩
      obtain ⟨u, ws, rfl⟩ := List.exists_of_length_succ ws hlength
      obtain ⟨hu, hws⟩ := List.forall_mem_cons.mp hws
      exact ⟨u, ws.flatten, hu, ⟨ws, Nat.succ.inj hlength, hws, rfl⟩, rfl⟩

/-- A node without looks reads between two places what it spells. -/
theorem Node.reads_iff_spells {n : Node} (hn : n.LookFree) (s : List Char) (first last : Nat) :
    n.Reads s first last ↔ Spans n.Spells s first last := by
  induction n generalizing first last with
  | empty => simp [Reads, Spells, Spans, eq_comm]
  | one set =>
    constructor
    · rintro ⟨⟨c, hc, hset⟩, rfl⟩
      exact ⟨[c], ⟨c, rfl, hset⟩, singleton_prefix_drop_iff.mpr hc, rfl⟩
    · rintro ⟨_, ⟨c, rfl, hset⟩, hc, rfl⟩
      exact ⟨⟨c, singleton_prefix_drop_iff.mp hc, hset⟩, rfl⟩
  | look l => exact hn.elim
  | loop min max greedy body ih =>
    constructor
    · rintro ⟨count, hmin, hmax, hrepeats⟩
      refine ((repeats_iff_spans (ih hn) count first last).mp hrepeats).mono ?_
      rintro _ ⟨ws, rfl, hws, rfl⟩
      exact ⟨ws, hmin, hmax, hws, rfl⟩
    · rintro ⟨_, ⟨ws, hmin, hmax, hws, rfl⟩, hspan⟩
      refine ⟨ws.length, hmin, hmax, (repeats_iff_spans (ih hn) ws.length first last).mpr ?_⟩
      exact ⟨ws.flatten, ⟨ws, rfl, hws, rfl⟩, hspan⟩
  | group index body ih => exact ih hn first last
  | cat a b iha ihb =>
    have hparts : (a.cat b).Reads s first last ↔
        ∃ place, Spans a.Spells s first place ∧ Spans b.Spells s place last :=
      exists_congr fun place ↦ and_congr (iha hn.1 first place) (ihb hn.2 place last)
    rw [hparts, ← spans_append]
    rfl
  | alt a b iha ihb =>
    rw [Reads, iha hn.1, ihb hn.2]
    simp only [Spans, Spells, or_and_right, exists_or]

theorem Node.matches_iff_spells {n : Node} (hn : n.LookFree) : n.Matches s ↔ n.Spells s := by
  rw [Matches, reads_iff_spells hn]
  constructor
  · rintro ⟨w, hw, hbegins, hlength⟩
    rw [Nat.zero_add] at hlength
    obtain rfl := hbegins.eq_of_length hlength.symm
    exact hw
  · intro hs
    exact ⟨s, hs, List.prefix_rfl, (Nat.zero_add _).symm⟩

end

/-! ### Patterns by their parts -/

namespace Node

/-- The nodes of a text that stands for itself. -/
def literal (text : String) : List Node := text.toList.map fun c ↦ .one (.single c)

/-- As many characters of a set as there are, of which there have to be `min`. -/
def many (min : Nat) (set : Charset) : Node := .loop min none true (.one set)

theorem spells_concat_cons {n : Node} {ns : List Node} {w : List Char} :
    (concat (n :: ns)).Spells w ↔ ∃ u v, n.Spells u ∧ (concat ns).Spells v ∧ w = u ++ v := by
  cases ns with
  | nil => simp [concat, Spells]
  | cons m ns => rfl

theorem lookFree_concat {ns : List Node} (h : ∀ n ∈ ns, n.LookFree) : (concat ns).LookFree :=
  concat_induction trivial (fun _ _ ↦ And.intro) h

theorem lookFree_literal (text : String) : ∀ n ∈ literal text, n.LookFree := by
  intro n hn
  obtain ⟨c, -, rfl⟩ := List.mem_map.mp hn
  trivial

theorem has_single_iff {c d : Char} : (Charset.single c).has d = true ↔ d = c := by
  rw [Charset.single, Text.Ranges.has, Text.Ranges.hasCode_iff]
  constructor
  · rintro ⟨_, hr, hlow, hhigh⟩
    obtain rfl := List.mem_singleton.mp hr
    exact Char.toNat_inj.mp (Nat.le_antisymm hhigh hlow)
  · rintro rfl
    exact ⟨_, List.mem_singleton_self _, le_rfl, le_rfl⟩

theorem spells_literal_append {text : String} {ns : List Node} {w : List Char} :
    (concat (literal text ++ ns)).Spells w ↔ ∃ v, w = text.toList ++ v ∧ (concat ns).Spells v := by
  rw [literal]
  generalize text.toList = s
  induction s generalizing w with
  | nil => simp
  | cons c s ih =>
    rw [List.map_cons, List.cons_append, spells_concat_cons]
    constructor
    · rintro ⟨_, v, ⟨d, rfl, hd⟩, hv, rfl⟩
      obtain rfl := has_single_iff.mp hd
      obtain ⟨rest, rfl, hrest⟩ := ih.mp hv
      exact ⟨rest, rfl, hrest⟩
    · rintro ⟨v, rfl, hv⟩
      exact ⟨[c], s ++ v, ⟨c, rfl, has_single_iff.mpr rfl⟩, ih.mpr ⟨v, rfl, hv⟩, rfl⟩

theorem exists_of_singletons {P : Char → Prop} {ws : List (List Char)}
    (hws : ∀ v ∈ ws, ∃ c, v = [c] ∧ P c) : ∃ w : List Char, ws = w.map ([·]) ∧ ∀ c ∈ w, P c := by
  induction ws with
  | nil => exact ⟨[], rfl, by simp⟩
  | cons v ws ih =>
    obtain ⟨⟨c, rfl, hc⟩, hrest⟩ := List.forall_mem_cons.mp hws
    obtain ⟨w, rfl, hw⟩ := ih hrest
    exact ⟨c :: w, rfl, List.forall_mem_cons.mpr ⟨hc, hw⟩⟩

theorem flatten_map_singleton (w : List Char) : (w.map ([·])).flatten = w := by
  rw [← List.flatMap_def, List.flatMap_singleton']

theorem spells_many_iff {min : Nat} {set : Charset} {w : List Char} :
    (many min set).Spells w ↔ min ≤ w.length ∧ ∀ c ∈ w, set.has c = true := by
  constructor
  · rintro ⟨ws, hmin, -, hws, rfl⟩
    obtain ⟨w, rfl, hw⟩ := exists_of_singletons hws
    rw [List.length_map] at hmin
    rw [flatten_map_singleton]
    exact ⟨hmin, hw⟩
  · rintro ⟨hmin, hw⟩
    refine ⟨w.map ([·]), by rwa [List.length_map], by simp, ?_, (flatten_map_singleton w).symm⟩
    intro v hv
    obtain ⟨c, hc, rfl⟩ := List.mem_map.mp hv
    exact ⟨c, rfl, hw c hc⟩

theorem spells_optional_iff {set : Charset} {w : List Char} :
    (Node.loop 0 (some 1) true (.one set)).Spells w ↔ w = [] ∨ ∃ c, w = [c] ∧ set.has c = true := by
  constructor
  · rintro ⟨ws, -, hmax, hws, rfl⟩
    obtain ⟨w, rfl, hw⟩ := exists_of_singletons hws
    have hlength : w.length ≤ 1 := by simpa using hmax
    rw [flatten_map_singleton]
    obtain _ | ⟨c, _ | ⟨d, w⟩⟩ := w
    · exact .inl rfl
    · exact .inr ⟨c, rfl, hw c (List.mem_singleton_self c)⟩
    · simp at hlength
  · rintro (rfl | ⟨c, rfl, hc⟩)
    · exact ⟨[], le_rfl, by simp, by simp, rfl⟩
    · exact ⟨[[c]], Nat.zero_le 1, by simp, List.forall_mem_singleton.mpr ⟨c, rfl, hc⟩, rfl⟩

end Node

end Guildhall.Pattern
