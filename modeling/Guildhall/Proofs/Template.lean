import Guildhall.Template.Tree

/-!
Expansion in one pass is reading and then evaluating. The machine that expands a template keeps
the buffers of the groups that are still open; a tree that was read can be written into its
innermost buffer (`Expansion.write`), and a closing brace that closes no group of the tree closes
that buffer (`Expansion.resume`). Whatever buffers are open, running over a text comes to what
writing its reading comes to (`Expansion.result_foldl_step`), so that a template expands to the
value of its tree (`Definitions.expand_eq_evaluate_parse`).
-/

set_option autoImplicit false

namespace Guildhall

theorem Definitions.substitute_eq (ctx : TemplateContext) (s : List Char) (d : Draws)
    (defs : Definitions) :
    defs.substitute ctx s d = (defs.evaluate? ctx s d).getD (s, d) := by
  induction defs with
  | nil => rfl
  | cons defn defs ih =>
    rw [evaluate?, List.findSome?_cons, substitute]
    cases defn.shape.parts? s with
    | some parts => rfl
    | none => exact ih

namespace Template

variable (defs : Definitions) (ctx : TemplateContext)

theorem evaluate_append (t u : Template) (d : Draws) :
    (t.append u).evaluate defs ctx d =
      let first := t.evaluate defs ctx d
      let second := u.evaluate defs ctx first.2
      (first.1 ++ second.1, second.2) := by
  induction t generalizing d with
  | nil => rfl
  | literal c rest ih => simp only [append, evaluate, ih, List.cons_append]
  | group body rest _ ih => simp only [append, evaluate, ih, List.append_assoc]

end Template

namespace Expansion

variable (defs : Definitions) (ctx : TemplateContext) (e : Expansion)

/-! ### Writing a tree into a buffer -/

/-- Writes the value of a tree at the end of the innermost buffer. -/
def write (t : Template) : Expansion :=
  let (text, draws) := t.evaluate defs ctx e.draws
  { e with buffer := text.reverse ++ e.buffer, draws }

/-- Begins a buffer for a group. -/
def enter : Expansion := { e with buffer := [], outer := e.buffer :: e.outer }

@[simp] theorem escaped_close : (e.close defs ctx).escaped = e.escaped := by
  unfold close
  cases e.outer <;> rfl

@[simp] theorem write_nil : e.write defs ctx .nil = e := rfl

theorem write_literal (c : Char) (t : Template) :
    e.write defs ctx (.literal c t) = (e.push c).write defs ctx t := by
  simp [write, push, Template.evaluate]

theorem write_append (t u : Template) :
    e.write defs ctx (t.append u) = (e.write defs ctx t).write defs ctx u := by
  simp [write, Template.evaluate_append]

/-- A group is written by writing its body into a buffer of its own and closing that. -/
theorem write_group (body t : Template) :
    e.write defs ctx (.group body t) =
      ((e.enter.write defs ctx body).close defs ctx).write defs ctx t := by
  simp [write, enter, close, Template.evaluate, Definitions.substitute_eq]

/-- Where no group is open, a closing brace is literal. -/
theorem close_of_outer_eq_nil (houter : e.outer = []) : e.close defs ctx = e.push '\x7d' := by
  simp only [close, houter]

/-! ### Writing a reading -/

/-- Writes the first piece of a reading, and each later one after the brace before it has closed
the innermost buffer. -/
def resume (e : Expansion) : Template → List Template → Expansion
  | t, [] => e.write defs ctx t
  | t, u :: later => resume ((e.write defs ctx t).close defs ctx) u later

theorem resume_literal (c : Char) (t : Template) (later : List Template) :
    resume defs ctx e (.literal c t) later = resume defs ctx (e.push c) t later := by
  cases later with
  | nil => exact write_literal defs ctx e c t
  | cons u later => rw [resume, resume, write_literal]

theorem resume_group (body t : Template) (later : List Template) :
    resume defs ctx e (.group body t) later =
      resume defs ctx ((e.enter.write defs ctx body).close defs ctx) t later := by
  cases later with
  | nil => exact write_group defs ctx e body t
  | cons u later => rw [resume, resume, write_group]

/-- Where no group is open, the pieces of a reading and the braces between them make one tree. -/
theorem resume_eq_write_joined {e : Expansion} (houter : e.outer = []) (t : Template)
    (later : List Template) :
    resume defs ctx e t later = e.write defs ctx (Template.joined t later) := by
  induction later generalizing e t with
  | nil => rfl
  | cons u later ih =>
    have hclose : (e.write defs ctx t).close defs ctx = (e.write defs ctx t).push '\x7d' :=
      close_of_outer_eq_nil defs ctx (e.write defs ctx t) houter
    have houter' : ((e.write defs ctx t).push '\x7d').outer = [] := houter
    rw [resume, hclose, ih houter', Template.joined, write_append, write_literal]

/-! ### The machine -/

/-- The text of all buffers and the randomness that is left. -/
def result : List Char × Draws := (e.text, e.draws)

/-- A buffer that is never closed is written in its place. -/
theorem result_write_enter (t : Template) :
    (e.enter.write defs ctx t).result = (e.write defs ctx t).result := by
  simp [result, text, write, enter]

theorem step_of_escaped (hescaped : e.escaped = true) (c : Char) :
    e.step defs ctx c = { e.push c with escaped := false } := if_pos hescaped

variable {e}

theorem step_open (hescaped : e.escaped = false) : e.step defs ctx '\x7b' = e.enter := by
  simp [step, hescaped, enter]

theorem step_close (hescaped : e.escaped = false) :
    e.step defs ctx '\x7d' = e.close defs ctx := by
  simp [step, hescaped]

theorem step_escape (hescaped : e.escaped = false) :
    e.step defs ctx '\\' = { e with escaped := true } := by
  simp [step, hescaped]

theorem step_literal (hescaped : e.escaped = false) {c : Char} (hescape : c ≠ '\\')
    (hopen : c ≠ '\x7b') (hclose : c ≠ '\x7d') : e.step defs ctx c = e.push c := by
  simp only [step, hescaped, Bool.false_eq_true, if_false]

/-- Whatever buffers are open, the machine makes of a text what its reading comes to. -/
theorem result_foldl_step (s : List Char) (hescaped : e.escaped = false) :
    (s.foldl (step defs ctx) e).result =
      (resume defs ctx e (Template.read s).1 (Template.read s).2).result := by
  -- The induction is along the reading, for any open buffers: those of outer groups close in it.
  fun_induction Template.read s generalizing e with
  | case1 => rfl
  | case2 =>
    rw [List.foldl_cons, step_escape defs ctx hescaped]
    rfl
  | case3 c s t later hread ih =>
    have hpushed : ({ ({ e with escaped := true } : Expansion).push c with escaped := false } :
        Expansion) = e.push c := by rw [push, push, hescaped]
    have hrest := ih (e := e.push c) hescaped
    rw [List.foldl_cons, List.foldl_cons, step_escape defs ctx hescaped,
      step_of_escaped defs ctx _ rfl, hpushed, hrest, hread, resume_literal]
  | case4 s t later hread ih =>
    have hrest := ih (e := e.close defs ctx) ((escaped_close defs ctx e).trans hescaped)
    rw [List.foldl_cons, step_close defs ctx hescaped, hrest, hread, resume, write_nil]
  | case5 s body hread ih =>
    have hrest := ih (e := e.enter) hescaped
    rw [List.foldl_cons, step_open defs ctx hescaped, hrest, hread]
    exact result_write_enter defs ctx e body
  | case6 s body t later hread ih =>
    have hrest := ih (e := e.enter) hescaped
    rw [List.foldl_cons, step_open defs ctx hescaped, hrest, hread, resume_group, resume]
  | case7 c s hlast hescape hclose hopen t later hread ih =>
    have hliteral : c ≠ '\\' := by
      rintro rfl
      cases s with
      | nil => exact hlast rfl rfl
      | cons d s => exact hescape d s rfl rfl
    have hrest := ih (e := e.push c) hescaped
    rw [List.foldl_cons, step_literal defs ctx hescaped hliteral hopen hclose, hrest, hread,
      resume_literal]

end Expansion

namespace Definitions

/-- A template expands to the value of its tree, whatever the definitions, the context and the
randomness. -/
theorem expand_eq_evaluate_parse (defs : Definitions) (ctx : TemplateContext)
    (template : List Char) (d : Draws) :
    defs.expand ctx template d = (Template.parse template).evaluate defs ctx d := by
  have hresult := Expansion.result_foldl_step defs ctx (e := { draws := d }) template rfl
  rw [Expansion.resume_eq_write_joined defs ctx rfl] at hresult
  have hwrite : ∀ t : Template, (({ draws := d } : Expansion).write defs ctx t).result =
      t.evaluate defs ctx d := fun t ↦ by
    simp [Expansion.result, Expansion.write, Expansion.text]
  rw [hwrite] at hresult
  exact hresult

end Definitions

end Guildhall
