import Guildhall.Proofs.Template

/-!
Templates one after the other. How a template leaves off is read from its characters alone: how
many groups are still open, and whether an escape is pending (`Template.ending`). The machine that
expands the template leaves off in the same way, whatever the definitions, the context and the
randomness (`Expansion.ending_foldl_step`). Where no group is open and no escape pending, the one
buffer that is left only grows, so that what follows is expanded as if it stood alone
(`Definitions.expand_append`).
-/

set_option autoImplicit false

namespace Guildhall

namespace Template

/-- How a text leaves off: the number of groups that it leaves open, and whether the next character
would be literal. -/
structure Ending where
  groups : Nat := 0
  escape : Bool := false
  deriving Repr, DecidableEq

namespace Ending

/-- How a text leaves off after one more character. A closing brace closes the innermost group, if
there is one. -/
def step (e : Ending) (c : Char) : Ending :=
  if e.escape then { e with escape := false }
  else
    match c with
    | '\\' => { e with escape := true }
    | '\x7b' => { e with groups := e.groups + 1 }
    | '\x7d' => { e with groups := e.groups - 1 }
    | _ => e

end Ending

def ending (s : List Char) : Ending := s.foldl Ending.step {}

/-- Whether a text leaves no group open and no escape pending. -/
def IsClosed (s : List Char) : Prop := ending s = {}

instance : DecidablePred IsClosed := fun s ↦ inferInstanceAs (Decidable (ending s = {}))

end Template

namespace Expansion

variable (defs : Definitions) (ctx : TemplateContext)

/-- How the text that was expanded so far leaves off. -/
def ending (e : Expansion) : Template.Ending := ⟨e.outer.length, e.escaped⟩

@[simp] theorem ending_push (e : Expansion) (c : Char) : (e.push c).ending = e.ending := rfl

@[simp] theorem ending_enter (e : Expansion) :
    e.enter.ending = { e.ending with groups := e.ending.groups + 1 } := rfl

theorem ending_close (e : Expansion) :
    (e.close defs ctx).ending = { e.ending with groups := e.ending.groups - 1 } := by
  unfold close
  cases houter : e.outer <;> simp [ending, push, houter]

theorem ending_step (e : Expansion) (c : Char) :
    (e.step defs ctx c).ending = e.ending.step c := by
  cases hescaped : e.escaped with
  | true =>
    rw [step_of_escaped defs ctx e hescaped]
    simp [Template.Ending.step, ending, push, hescaped]
  | false =>
    have hpending : e.ending.escape = false := hescaped
    by_cases hescape : c = '\\'
    · rw [hescape, step_escape defs ctx hescaped]
      simp [Template.Ending.step, ending, hescaped]
    by_cases hopen : c = '\x7b'
    · rw [hopen, step_open defs ctx hescaped, ending_enter]
      simp [Template.Ending.step, hpending]
    by_cases hclose : c = '\x7d'
    · rw [hclose, step_close defs ctx hescaped, ending_close]
      simp [Template.Ending.step, hpending]
    · rw [step_literal defs ctx hescaped hescape hopen hclose, ending_push]
      simp [Template.Ending.step, hpending]

/-- The machine leaves off as the text does, whatever the definitions and the context. -/
theorem ending_foldl_step (s : List Char) (e : Expansion) :
    (s.foldl (step defs ctx) e).ending = s.foldl Template.Ending.step e.ending := by
  induction s generalizing e with
  | nil => rfl
  | cons c s ih => rw [List.foldl_cons, List.foldl_cons, ih, ending_step]

/-- Where no group is open, what a text comes to stands after what has been written, as the value
of its tree. -/
theorem result_foldl_step_of_closed {e : Expansion} (hclosed : e.ending = {}) (s : List Char) :
    (s.foldl (step defs ctx) e).result =
      (e.text ++ ((Template.parse s).evaluate defs ctx e.draws).1,
        ((Template.parse s).evaluate defs ctx e.draws).2) := by
  have houter : e.outer = [] :=
    List.eq_nil_of_length_eq_zero (congrArg Template.Ending.groups hclosed)
  have hescaped : e.escaped = false := congrArg Template.Ending.escape hclosed
  rw [result_foldl_step defs ctx s hescaped, resume_eq_write_joined defs ctx houter]
  simp [result, write, text, houter, Template.parse]

end Expansion

namespace Definitions

variable (defs : Definitions) (ctx : TemplateContext)

/-- A template that leaves no group open and no escape pending expands on its own: whatever template
follows it, the one expands before the other, which draws from what the first has left of the
randomness. -/
theorem expand_append {a : List Char} (hclosed : Template.IsClosed a) (b : List Char) (d : Draws) :
    defs.expand ctx (a ++ b) d =
      let first := defs.expand ctx a d
      let second := defs.expand ctx b first.2
      (first.1 ++ second.1, second.2) := by
  let e := a.foldl (Expansion.step defs ctx) { draws := d }
  have hending : e.ending = {} :=
    (Expansion.ending_foldl_step defs ctx a { draws := d }).trans hclosed
  have hsecond : defs.expand ctx b e.draws = (Template.parse b).evaluate defs ctx e.draws :=
    Expansion.result_foldl_step_of_closed defs ctx (e := { draws := e.draws }) rfl b
  have hboth : defs.expand ctx (a ++ b) d = (b.foldl (Expansion.step defs ctx) e).result := by
    rw [expand, List.foldl_append]
    rfl
  have hfirst : defs.expand ctx a d = (e.text, e.draws) := rfl
  rw [hboth, Expansion.result_foldl_step_of_closed defs ctx hending, ← hsecond, hfirst]

/-- An unmatched closing brace leaves nothing open, and what follows may leave groups open. -/
theorem expand_append_sender :
    let ctx : TemplateContext := { sender := "ann", message := "", today := ⟨2024, 5, 10⟩ }
    Template.IsClosed "\x7d\x7bsender\x7d".toList ∧
      Placeholder.builtin.expand ctx ("\x7d\x7bsender\x7d".toList ++ "\x7bhi\\".toList) {} =
        ("\x7dannhi".toList, {}) := by
  intro ctx
  have hclosed : Template.IsClosed "\x7d\x7bsender\x7d".toList := by decide
  refine ⟨hclosed, ?_⟩
  rw [expand_append Placeholder.builtin ctx hclosed]
  decide

end Definitions

end Guildhall
