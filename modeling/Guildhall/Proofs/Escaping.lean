import Guildhall.Proofs.Template

/-!
Texts as templates. Every text has a template that stands for it: the text with a backslash before
each character that a template would read (`Template.escape`). Wherever such a template stands in a
larger one, it is read as the characters of the text, and what follows it is read as if it stood
alone (`Template.read_escape_append`). So the template alone expands to the text, and between braces
the text is what the definitions are asked for (`Definitions.escaped_text_is_literal`).
-/

set_option autoImplicit false

namespace Guildhall

namespace Template

/-- Whether a template reads more than itself in a character: it escapes, opens or closes. -/
def IsSpecial (c : Char) : Prop := c = '\\' ∨ c = '\x7b' ∨ c = '\x7d'

instance : DecidablePred IsSpecial := fun c ↦
  inferInstanceAs (Decidable (c = '\\' ∨ c = '\x7b' ∨ c = '\x7d'))

/-- A text with a backslash before every backslash and every brace. -/
def escape (s : List Char) : List Char := s.flatMap fun c ↦ if IsSpecial c then ['\\', c] else [c]

/-- The template that asks the definitions for a text: the text between braces, escaped. -/
def asking (s : List Char) : List Char := '\x7b' :: escape s ++ ['\x7d']

/-- The tree in which the characters of a text come before another tree. -/
def ofText (s : List Char) (t : Template) : Template := s.foldr literal t

/-! ### Reading -/

theorem read_escaped (c : Char) (s : List Char) :
    read ('\\' :: c :: s) = (literal c (read s).1, (read s).2) := by
  rw [read]

theorem read_plain {c : Char} (hc : ¬ IsSpecial c) (s : List Char) :
    read (c :: s) = (literal c (read s).1, (read s).2) := by
  obtain ⟨hescape, hopen, hclose⟩ : c ≠ '\\' ∧ c ≠ '\x7b' ∧ c ≠ '\x7d' := by
    simpa [IsSpecial] using hc
  rw [read]
  · exact fun h _ ↦ hescape h
  · exact fun _ _ h _ ↦ hescape h
  · exact hclose
  · exact hopen

/-- An escaped text is read as its characters, whatever follows it. -/
theorem read_escape_append (s rest : List Char) :
    read (escape s ++ rest) = (ofText s (read rest).1, (read rest).2) := by
  induction s with
  | nil => rfl
  | cons c s ih =>
    rw [escape, List.flatMap_cons, ← escape, List.append_assoc]
    by_cases hc : IsSpecial c
    · rw [if_pos hc]
      change read ('\\' :: c :: (escape s ++ rest)) = _
      rw [read_escaped, ih]
      rfl
    · rw [if_neg hc]
      change read (c :: (escape s ++ rest)) = _
      rw [read_plain hc, ih]
      rfl

/-- Between braces an escaped text is a group of its characters. -/
theorem read_braces_escape (s : List Char) :
    read ('\x7b' :: escape s ++ ['\x7d']) = (group (ofText s nil) nil, []) := by
  have hread : read (escape s ++ ['\x7d']) = (ofText s nil, [nil]) := read_escape_append s ['\x7d']
  rw [List.cons_append, read, hread]

/-! ### Evaluation -/

variable (defs : Definitions) (ctx : TemplateContext)

/-- Characters stand for themselves and draw nothing. -/
theorem evaluate_ofText (s : List Char) (t : Template) (d : Draws) :
    (ofText s t).evaluate defs ctx d =
      (s ++ (t.evaluate defs ctx d).1, (t.evaluate defs ctx d).2) := by
  induction s with
  | nil => rfl
  | cons c s ih =>
    change (literal c (ofText s t)).evaluate defs ctx d = _
    rw [evaluate, ih]
    rfl

theorem evaluate_ofText_nil (s : List Char) (d : Draws) :
    (ofText s nil).evaluate defs ctx d = (s, d) := by
  rw [evaluate_ofText, evaluate, List.append_nil]

end Template

namespace Definitions

variable (ctx : TemplateContext) (s : List Char) (d : Draws)

/-- A text gives way to what the first definition that fits makes of it, or stays where none
fits. -/
theorem substitute_cases (defs : Definitions) :
    (∃ before defn after parts, defs = before ++ defn :: after ∧
      (∀ other ∈ before, other.shape.parts? s = none) ∧ defn.shape.parts? s = some parts ∧
      defs.substitute ctx s d = defn.handler ctx parts d) ∨
    ((∀ defn ∈ defs, defn.shape.parts? s = none) ∧ defs.substitute ctx s d = (s, d)) := by
  induction defs with
  | nil => exact Or.inr ⟨by simp, rfl⟩
  | cons first defs ih =>
    rw [substitute]
    cases hfits : first.shape.parts? s with
    | some parts => exact Or.inl ⟨[], first, defs, parts, rfl, by simp, hfits, rfl⟩
    | none =>
      obtain ⟨before, defn, after, parts, rfl, hbefore, hparts, houtput⟩ | ⟨hnone, houtput⟩ := ih
      · exact Or.inl ⟨first :: before, defn, after, parts, rfl,
          List.forall_mem_cons.mpr ⟨hfits, hbefore⟩, hparts, houtput⟩
      · exact Or.inr ⟨List.forall_mem_cons.mpr ⟨hfits, hnone⟩, houtput⟩

/-- A template in which every closing brace closes a group expands to the value of its reading. -/
theorem expand_of_read (defs : Definitions) {template : List Char} {t : Template}
    (hread : Template.read template = (t, [])) :
    defs.expand ctx template d = t.evaluate defs ctx d := by
  have hresult : defs.expand ctx template d = _ :=
    Expansion.result_foldl_step defs ctx (e := { draws := d }) template rfl
  rw [hresult, hread, Expansion.resume]
  simp [Expansion.result, Expansion.write, Expansion.text]

/-- A template that asks for a text expands to what the text gives way to. -/
theorem expand_asking (defs : Definitions) :
    defs.expand ctx (Template.asking s) d = defs.substitute ctx s d := by
  rw [Template.asking, expand_of_read ctx d defs (Template.read_braces_escape s),
    Template.evaluate, Template.evaluate_ofText_nil]
  simp [Template.evaluate]

/-- Any text can be written as a template. Whatever the definitions and the context, a text with its
backslashes and braces escaped expands to the text and draws nothing. Between braces it expands to
what the first definition that fits the text makes of it, and to the text where none fits. -/
theorem escaped_text_is_literal (defs : Definitions) :
    defs.expand ctx (Template.escape s) d = (s, d) ∧
      ((∃ before defn after parts, defs = before ++ defn :: after ∧
          (∀ other ∈ before, other.shape.parts? s = none) ∧ defn.shape.parts? s = some parts ∧
          defs.expand ctx ('\x7b' :: Template.escape s ++ ['\x7d']) d = defn.handler ctx parts d) ∨
        ((∀ defn ∈ defs, defn.shape.parts? s = none) ∧
          defs.expand ctx ('\x7b' :: Template.escape s ++ ['\x7d']) d = (s, d))) := by
  have htext : Template.read (Template.escape s) = (Template.ofText s .nil, []) := by
    simpa [Template.read] using Template.read_escape_append s []
  have hgroup : defs.expand ctx ('\x7b' :: Template.escape s ++ ['\x7d']) d =
      defs.substitute ctx s d := by
    rw [expand_of_read ctx d defs (Template.read_braces_escape s), Template.evaluate,
      Template.evaluate_ofText_nil]
    simp [Template.evaluate]
  constructor
  · rw [expand_of_read ctx d defs htext, Template.evaluate_ofText_nil]
  · rw [hgroup]
    exact substitute_cases ctx s d defs

end Definitions

end Guildhall
