import Guildhall.Pattern.Meaning
import Mathlib.Data.Nat.Basic
import Mathlib.Order.Basic

/-!
Programs do what their patterns mean. The states that are added for a node keep those before them
(`Program.Extends`), and whatever run begins at the first of them and accepts goes on at the state
after the node, once the node has read the text in between (`Program.Leads`). This is proved for one
node after the other, as the program is built (`Program.builds`). What a search finds is a run from
the beginning of the program (`Program.finds_of_search`), so that the part of a text that a pattern
matches is one that it reads (`Program.reads_of_groups?`).
-/

set_option autoImplicit false

namespace Guildhall.Pattern

theorem Repeats.snoc {step : Nat → Nat → Prop} {count first place last : Nat}
    (hrepeats : Repeats step count first place) (hstep : step place last) :
    Repeats step (count + 1) first last := by
  induction count generalizing first with
  | zero =>
    obtain rfl : first = place := hrepeats
    exact ⟨last, hstep, rfl⟩
  | succ count ih =>
    obtain ⟨second, hfirst, hrepeats⟩ := hrepeats
    exact ⟨second, hfirst, ih hrepeats⟩

theorem Repeats.append {step : Nat → Nat → Prop} {n m first place last : Nat}
    (hfirst : Repeats step n first place) (hsecond : Repeats step m place last) :
    Repeats step (n + m) first last := by
  induction m generalizing n place with
  | zero =>
    obtain rfl : place = last := hsecond
    exact hfirst
  | succ m ih =>
    obtain ⟨second, hstep, hsecond⟩ := hsecond
    have hmore := ih (hfirst.snoc hstep) hsecond
    rwa [Nat.add_right_comm] at hmore

namespace Program

/-! ### Runs -/

/-- One step of a thread from a place of the text to the same or the next one. -/
inductive Step (states : Array State) (s : List Char) : Nat → Thread → Nat → Thread → Prop
  | read {place q next : Nat} {slots : Slots} {set : Charset} {c : Char}
    (hstate : states[q]? = some (.read set next)) (hchar : s[place]? = some c)
    (hset : set.has c = true) : Step states s place ⟨q, slots⟩ (place + 1) ⟨next, slots⟩
  | test {place q next : Nat} {slots : Slots} {l : Look}
    (hstate : states[q]? = some (.test l next)) (hlook : l.HoldsAt s place) :
    Step states s place ⟨q, slots⟩ place ⟨next, slots⟩
  | save {place q slot next : Nat} {slots : Slots} (hstate : states[q]? = some (.save slot next)) :
    Step states s place ⟨q, slots⟩ place ⟨next, (slot, place) :: slots⟩
  | first {place q a b : Nat} {slots : Slots} (hstate : states[q]? = some (.split a b)) :
    Step states s place ⟨q, slots⟩ place ⟨a, slots⟩
  | second {place q a b : Nat} {slots : Slots} (hstate : states[q]? = some (.split a b)) :
    Step states s place ⟨q, slots⟩ place ⟨b, slots⟩

/-- A run of a number of steps that accepts at the place `last` with the slots `final`. -/
inductive Accepts (states : Array State) (s : List Char) (last : Nat) (final : Slots) :
    Nat → Nat → Thread → Prop
  | done {q : Nat} (hstate : states[q]? = some .accept) :
    Accepts states s last final 0 last ⟨q, final⟩
  | step {count place later : Nat} {t u : Thread} (hstep : Step states s place t later u)
    (hrun : Accepts states s last final count later u) :
    Accepts states s last final (count + 1) place t

section

variable {states : Array State} {s : List Char} {last : Nat} {final : Slots}
variable {count place q : Nat} {slots : Slots}

theorem Accepts.of_accept (hrun : Accepts states s last final count place ⟨q, slots⟩)
    (hstate : states[q]? = some .accept) : place = last ∧ slots = final := by
  cases hrun with
  | done => exact ⟨rfl, rfl⟩
  | step hstep => cases hstep <;> simp_all

theorem Accepts.of_read (hrun : Accepts states s last final count place ⟨q, slots⟩)
    {set : Charset} {next : Nat} (hstate : states[q]? = some (.read set next)) :
    (∃ c, s[place]? = some c ∧ set.has c = true) ∧
      ∃ fewer < count, Accepts states s last final fewer (place + 1) ⟨next, slots⟩ := by
  cases hrun with
  | done haccept => simp [haccept] at hstate
  | step hstep hrun =>
    cases hstep with
    | read hread hchar hset =>
      obtain ⟨rfl, rfl⟩ : _ = set ∧ _ = next := by simpa [hread] using hstate
      exact ⟨⟨_, hchar, hset⟩, _, Nat.lt_succ_self _, hrun⟩
    | _ => simp_all

theorem Accepts.of_test (hrun : Accepts states s last final count place ⟨q, slots⟩)
    {l : Look} {next : Nat} (hstate : states[q]? = some (.test l next)) :
    l.HoldsAt s place ∧ ∃ fewer < count, Accepts states s last final fewer place ⟨next, slots⟩ := by
  cases hrun with
  | done haccept => simp [haccept] at hstate
  | step hstep hrun =>
    cases hstep with
    | test htest hlook =>
      obtain ⟨rfl, rfl⟩ : _ = l ∧ _ = next := by simpa [htest] using hstate
      exact ⟨hlook, _, Nat.lt_succ_self _, hrun⟩
    | _ => simp_all

theorem Accepts.of_save (hrun : Accepts states s last final count place ⟨q, slots⟩)
    {slot next : Nat} (hstate : states[q]? = some (.save slot next)) :
    ∃ fewer < count, Accepts states s last final fewer place ⟨next, (slot, place) :: slots⟩ := by
  cases hrun with
  | done haccept => simp [haccept] at hstate
  | step hstep hrun =>
    cases hstep with
    | save hsave =>
      obtain ⟨rfl, rfl⟩ : _ = slot ∧ _ = next := by simpa [hsave] using hstate
      exact ⟨_, Nat.lt_succ_self _, hrun⟩
    | _ => simp_all

theorem Accepts.of_split (hrun : Accepts states s last final count place ⟨q, slots⟩)
    {a b : Nat} (hstate : states[q]? = some (.split a b)) :
    ∃ fewer < count, ∃ next, (next = a ∨ next = b) ∧
      Accepts states s last final fewer place ⟨next, slots⟩ := by
  cases hrun with
  | done haccept => simp [haccept] at hstate
  | step hstep hrun =>
    cases hstep with
    | first hsplit =>
      obtain ⟨rfl, rfl⟩ : _ = a ∧ _ = b := by simpa [hsplit] using hstate
      exact ⟨_, Nat.lt_succ_self _, _, .inl rfl, hrun⟩
    | second hsplit =>
      obtain ⟨rfl, rfl⟩ : _ = a ∧ _ = b := by simpa [hsplit] using hstate
      exact ⟨_, Nat.lt_succ_self _, _, .inr rfl, hrun⟩
    | _ => simp_all

/-- Which of the two a split prefers does not matter to a run. -/
theorem Accepts.of_splitFor (hrun : Accepts states s last final count place ⟨q, slots⟩)
    {greedy : Bool} {body exit : Nat} (hstate : states[q]? = some (splitFor greedy body exit)) :
    ∃ fewer < count, ∃ next, (next = body ∨ next = exit) ∧
      Accepts states s last final fewer place ⟨next, slots⟩ := by
  cases greedy with
  | true => exact hrun.of_split hstate
  | false =>
    obtain ⟨fewer, hfewer, next, hnext, hrun⟩ := hrun.of_split hstate
    exact ⟨fewer, hfewer, next, hnext.symm, hrun⟩

end

/-! ### States that are added -/

/-- Whether `b` has the states of `a` under the same numbers. -/
def Extends (a b : Array State) : Prop := a.size ≤ b.size ∧ ∀ q < a.size, b[q]? = a[q]?

/-- Whether a program has the states of `a` from the number `low` on. -/
def Agrees (program a : Array State) (low : Nat) : Prop :=
  ∀ q, low ≤ q → q < a.size → program[q]? = a[q]?

theorem Extends.refl (a : Array State) : Extends a a := ⟨le_rfl, fun _ _ ↦ rfl⟩

theorem Extends.trans {a b c : Array State} (hab : Extends a b) (hbc : Extends b c) :
    Extends a c :=
  ⟨hab.1.trans hbc.1, fun q hq ↦ (hbc.2 q (hq.trans_le hab.1)).trans (hab.2 q hq)⟩

theorem extends_push (a : Array State) (st : State) : Extends a (a.push st) :=
  ⟨by simp, fun q hq ↦ by rw [Array.getElem?_push_lt hq, Array.getElem?_eq_getElem hq]⟩

theorem Agrees.of_extends {program a b : Array State} {low : Nat} (hagrees : Agrees program b low)
    (hextends : Extends a b) : Agrees program a low :=
  fun q hlow hq ↦ (hagrees q hlow (hq.trans_le hextends.1)).trans (hextends.2 q hq)

theorem Agrees.mono {program a : Array State} {low high : Nat} (hagrees : Agrees program a low)
    (hle : low ≤ high) : Agrees program a high :=
  fun q hhigh hq ↦ hagrees q (hle.trans hhigh) hq

/-- The state that was added last stands in the program. -/
theorem Agrees.get?_size {program a : Array State} {low : Nat} {st : State}
    (hagrees : Agrees program (a.push st) low) (hlow : low ≤ a.size) :
    program[a.size]? = some st := by
  rw [hagrees a.size hlow (by simp), Array.getElem?_push_size]

/-! ### What the states of a node do -/

/-- Whether every run from the state `start` that accepts goes on at the state `next`, between
places that `reads` relates and with no slots added but those of the groups. -/
def Leads (program : Array State) (s : List Char) (reads : Nat → Nat → Prop) (groups : List Nat)
    (start next : Nat) : Prop :=
  ∀ ⦃last : Nat⦄ ⦃final : Slots⦄ ⦃count place : Nat⦄ ⦃slots : Slots⦄,
    Accepts program s last final count place ⟨start, slots⟩ →
      ∃ fewer ≤ count, ∃ later added, reads place later ∧ (∀ slot ∈ added, slot.1 / 2 ∈ groups) ∧
        Accepts program s last final fewer later ⟨next, added ++ slots⟩

/-- What is known of a function that adds states: it keeps those before them, and in every program
that has the new ones a run from the first of them goes on at the state `next`. -/
structure Builds (s : List Char) (build : Nat → Array State → Nat × Array State)
    (reads : Nat → Nat → Prop) (groups : List Nat) : Prop where
  keeps : ∀ next states, Extends states (build next states).2
  leads : ∀ next states program, Agrees program (build next states).2 states.size →
    Leads program s reads groups (build next states).1 next

section

variable {program : Array State} {s : List Char} {reads : Nat → Nat → Prop} {groups : List Nat}

theorem Leads.refl (start : Nat) : Leads program s Eq groups start start :=
  fun _ _ _ _ _ hrun ↦ ⟨_, le_rfl, _, [], rfl, by simp, hrun⟩

theorem Leads.mono {more : Nat → Nat → Prop} {start next : Nat}
    (hleads : Leads program s reads groups start next)
    (hmore : ∀ first last, reads first last → more first last) :
    Leads program s more groups start next := by
  intro last final count place slots hrun
  obtain ⟨fewer, hle, later, added, hreads, hadded, hrun⟩ := hleads hrun
  exact ⟨fewer, hle, later, added, hmore _ _ hreads, hadded, hrun⟩

theorem Leads.of_subset {others : List Nat} {start next : Nat}
    (hleads : Leads program s reads groups start next) (hsubset : groups ⊆ others) :
    Leads program s reads others start next := by
  intro last final count place slots hrun
  obtain ⟨fewer, hle, later, added, hreads, hadded, hrun⟩ := hleads hrun
  exact ⟨fewer, hle, later, added, hreads, fun slot hslot ↦ hsubset (hadded slot hslot), hrun⟩

/-- Runs through two parts one after the other. -/
theorem Leads.trans {others : Nat → Nat → Prop} {start middle next : Nat}
    (hfirst : Leads program s reads groups start middle)
    (hsecond : Leads program s others groups middle next) :
    Leads program s (fun first last ↦ ∃ place, reads first place ∧ others place last) groups
      start next := by
  intro last final count place slots hrun
  obtain ⟨fewer, hle, middle, added, hreads, hadded, hrun⟩ := hfirst hrun
  obtain ⟨least, hleast, later, more, hothers, hmore, hrun⟩ := hsecond hrun
  refine ⟨least, hleast.trans hle, later, more ++ added, ⟨middle, hreads, hothers⟩, ?_, ?_⟩
  · exact fun slot hslot ↦ (List.mem_append.mp hslot).elim (hmore slot) (hadded slot)
  · rwa [List.append_assoc]

theorem Leads.read {q next : Nat} {set : Charset} (hstate : program[q]? = some (.read set next)) :
    Leads program s ((Node.one set).Reads s) groups q next := by
  intro last final count place slots hrun
  obtain ⟨hchar, fewer, hfewer, hrun⟩ := hrun.of_read hstate
  exact ⟨fewer, hfewer.le, place + 1, [], ⟨hchar, rfl⟩, by simp, hrun⟩

theorem Leads.test {q next : Nat} {l : Look} (hstate : program[q]? = some (.test l next)) :
    Leads program s ((Node.look l).Reads s) groups q next := by
  intro last final count place slots hrun
  obtain ⟨hlook, fewer, hfewer, hrun⟩ := hrun.of_test hstate
  exact ⟨fewer, hfewer.le, place, [], ⟨hlook, rfl⟩, by simp, hrun⟩

theorem Leads.save {q slot next : Nat} (hstate : program[q]? = some (.save slot next))
    (hslot : slot / 2 ∈ groups) : Leads program s Eq groups q next := by
  intro last final count place slots hrun
  obtain ⟨fewer, hfewer, hrun⟩ := hrun.of_save hstate
  exact ⟨fewer, hfewer.le, place, [(slot, place)], rfl, by simpa using hslot, hrun⟩

theorem Leads.split {others : Nat → Nat → Prop} {greedy : Bool} {q body exit next : Nat}
    (hstate : program[q]? = some (splitFor greedy body exit))
    (hbody : Leads program s reads groups body next)
    (hexit : Leads program s others groups exit next) :
    Leads program s (fun first last ↦ reads first last ∨ others first last) groups q next := by
  intro last final count place slots hrun
  obtain ⟨fewer, hfewer, _, rfl | rfl, hrun⟩ := hrun.of_splitFor hstate
  · obtain ⟨least, hle, later, added, hreads, hadded, hrun⟩ := hbody hrun
    exact ⟨least, hle.trans hfewer.le, later, added, .inl hreads, hadded, hrun⟩
  · obtain ⟨least, hle, later, added, hothers, hadded, hrun⟩ := hexit hrun
    exact ⟨least, hle.trans hfewer.le, later, added, .inr hothers, hadded, hrun⟩

/-- A choice that its body goes back to is left after some number of rounds. -/
theorem Leads.again {greedy : Bool} {choice body next : Nat}
    (hstate : program[choice]? = some (splitFor greedy body next))
    (hbody : Leads program s reads groups body choice) :
    Leads program s (fun first last ↦ ∃ count, Repeats reads count first last) groups choice
      next := by
  intro last final count place slots hrun
  -- Every round takes at least the step into the body, so that the run gets shorter.
  induction count using Nat.strong_induction_on generalizing place slots with
  | h count ih =>
    obtain ⟨fewer, hfewer, _, rfl | rfl, hrun⟩ := hrun.of_splitFor hstate
    · obtain ⟨least, hle, middle, added, hreads, hadded, hrun⟩ := hbody hrun
      obtain ⟨rest, hrest, later, more, ⟨rounds, hrepeats⟩, hmore, hrun⟩ :=
        ih least (hle.trans_lt hfewer) hrun
      refine ⟨rest, hrest.trans (hle.trans hfewer.le), later, more ++ added,
        ⟨rounds + 1, middle, hreads, hrepeats⟩, ?_, ?_⟩
      · exact fun slot hslot ↦ (List.mem_append.mp hslot).elim (hmore slot) (hadded slot)
      · rwa [List.append_assoc]
    · exact ⟨fewer, hfewer.le, place, [], ⟨0, rfl⟩, by simp, hrun⟩

end

section

variable {s : List Char} {build : Nat → Array State → Nat × Array State}
variable {reads : Nat → Nat → Prop} {groups : List Nat}

theorem extends_copies (hbuild : Builds s build reads groups) (count next : Nat)
    (states : Array State) : Extends states (copies build count next states).2 := by
  induction count generalizing next states with
  | zero => exact .refl states
  | succ count ih => exact (hbuild.keeps next states).trans (ih _ _)

/-- The copies come before what they go on to. -/
theorem leads_copies (hbuild : Builds s build reads groups) {count next : Nat}
    {states program : Array State}
    (hagrees : Agrees program (copies build count next states).2 states.size) :
    Leads program s (Repeats reads count) groups (copies build count next states).1 next := by
  induction count generalizing next states with
  | zero => exact Leads.refl next
  | succ count ih =>
    have hkeeps := hbuild.keeps next states
    have hbody := hbuild.leads next states program
      (hagrees.of_extends (extends_copies hbuild count _ _))
    refine ((ih (hagrees.mono hkeeps.1)).trans hbody).mono ?_
    rintro first last ⟨place, hrepeats, hreads⟩
    exact hrepeats.snoc hreads

theorem extends_optionals (hbuild : Builds s build reads groups) (greedy : Bool)
    (exit count next : Nat) (states : Array State) :
    Extends states (optionals build greedy exit count next states).2 := by
  induction count generalizing next states with
  | zero => exact .refl states
  | succ count ih =>
    exact ((hbuild.keeps next states).trans (extends_push _ _)).trans (ih _ _)

/-- Each of the copies may be left out with those after it. -/
theorem leads_optionals (hbuild : Builds s build reads groups) {greedy : Bool}
    {exit count most next : Nat} {states program : Array State}
    (hagrees : Agrees program (optionals build greedy exit count next states).2 states.size)
    (hnext : Leads program s (fun first last ↦ ∃ k ≤ most, Repeats reads k first last) groups next
      exit) :
    Leads program s (fun first last ↦ ∃ k ≤ most + count, Repeats reads k first last) groups
      (optionals build greedy exit count next states).1 exit := by
  induction count generalizing most next states with
  | zero => exact hnext
  | succ count ih =>
    have hkeeps := hbuild.keeps next states
    have hadded := hagrees.of_extends (extends_optionals hbuild greedy exit count _ _)
    have hstate := hadded.get?_size hkeeps.1
    have hbody := hbuild.leads next states program (hadded.of_extends (extends_push _ _))
    have hmore : Leads program s (fun first last ↦ ∃ k ≤ most + 1, Repeats reads k first last)
        groups (build next states).2.size exit := by
      refine (Leads.split hstate (hbody.trans hnext) (Leads.refl exit)).mono ?_
      rintro first last (⟨place, hreads, k, hk, hrepeats⟩ | heq)
      · exact ⟨k + 1, Nat.succ_le_succ hk, place, hreads, hrepeats⟩
      · exact ⟨0, Nat.zero_le _, heq⟩
    have hrest := ih (hagrees.mono (hkeeps.1.trans (extends_push _ _).1)) hmore
    rwa [Nat.add_right_comm] at hrest

theorem extends_again (hbuild : Builds s build reads groups) (greedy : Bool) (next : Nat)
    (states : Array State) : Extends states (again build greedy next states).2.2 := by
  have hkeeps := (extends_push states .accept).trans
    (hbuild.keeps states.size (states.push .accept))
  refine ⟨?_, fun q hq ↦ ?_⟩
  · simpa [again] using hkeeps.1
  · rw [← hkeeps.2 q hq]
    simp [again, Array.getElem?_setIfInBounds_ne hq.ne']

/-- The states of an endless loop: those of its body and the choice that this goes back to. -/
theorem agrees_again (hbuild : Builds s build reads groups) {greedy : Bool} {next : Nat}
    {states program : Array State}
    (hagrees : Agrees program (again build greedy next states).2.2 states.size) :
    Agrees program (build states.size (states.push .accept)).2 (states.push .accept).size ∧
      program[states.size]? =
        some (splitFor greedy (again build greedy next states).1 next) := by
  have hkeeps := hbuild.keeps states.size (states.push .accept)
  have hsize : states.size < (build states.size (states.push .accept)).2.size := by
    have hle := hkeeps.1
    rw [Array.size_push] at hle
    exact hle
  constructor
  · intro q hlow hq
    rw [Array.size_push] at hlow
    rw [hagrees q (by omega) (by simpa [again] using hq)]
    simp [again, Array.getElem?_setIfInBounds_ne (Nat.ne_of_lt hlow)]
  · rw [hagrees states.size le_rfl (by simpa [again] using hsize)]
    simp [again, Array.getElem?_setIfInBounds_self_of_lt hsize]

/-- The body goes on to the choice between itself and what comes next. -/
theorem leads_again (hbuild : Builds s build reads groups) {greedy : Bool} {next : Nat}
    {states program : Array State}
    (hagrees : Agrees program (again build greedy next states).2.2 states.size) :
    Leads program s reads groups (again build greedy next states).1 states.size ∧
      program[states.size]? =
        some (splitFor greedy (again build greedy next states).1 next) := by
  obtain ⟨hbody, hchoice⟩ := agrees_again hbuild hagrees
  exact ⟨hbuild.leads _ _ program hbody, hchoice⟩

end

section

variable {s : List Char} {body : Node}

/-- The states of a group: two that remember a place, and those of its body between them. -/
theorem agrees_group (hbody : Builds s (build body) (body.Reads s) body.groupIndices) {index : Nat}
    {next : Nat} {states program : Array State}
    (hagrees : Agrees program (build (.group index body) next states).2 states.size) :
    let opened := states.push (.save (2 * index + 1) next)
    program[(build (.group index body) next states).1]? =
        some (.save (2 * index) (build body states.size opened).1) ∧
      Agrees program (build body states.size opened).2 opened.size ∧
      program[states.size]? = some (.save (2 * index + 1) next) := by
  have hclosed := extends_push states (.save (2 * index + 1) next)
  have hkeeps := hbody.keeps states.size (states.push (.save (2 * index + 1) next))
  have hbuilt := hagrees.of_extends (extends_push _ _)
  exact ⟨hagrees.get?_size (hclosed.trans hkeeps).1, hbuilt.mono hclosed.1,
    (hbuilt.of_extends hkeeps).get?_size le_rfl⟩

/-- Between the two states that remember a place a group goes through its body. -/
theorem leads_group (hbody : Builds s (build body) (body.Reads s) body.groupIndices) {index : Nat}
    {next : Nat} {states program : Array State}
    (hagrees : Agrees program (build (.group index body) next states).2 states.size) :
    ∃ first close,
      program[(build (.group index body) next states).1]? = some (.save (2 * index) first) ∧
        Leads program s (body.Reads s) body.groupIndices first close ∧
        program[close]? = some (.save (2 * index + 1) next) := by
  obtain ⟨hopen, hinner, hclose⟩ := agrees_group hbody hagrees
  exact ⟨_, _, hopen, hbody.leads _ _ program hinner, hclose⟩

theorem builds_group (hbody : Builds s (build body) (body.Reads s) body.groupIndices)
    (index : Nat) :
    Builds s (build (.group index body)) (body.Reads s) (index :: body.groupIndices) := by
  refine ⟨fun next states ↦ ?_, fun next states program hagrees ↦ ?_⟩
  · exact ((extends_push states _).trans (hbody.keeps _ _)).trans (extends_push _ _)
  · obtain ⟨first, close, hopen, hinner, hclose⟩ := leads_group hbody hagrees
    have hindex : (2 * index + 1) / 2 = index := by omega
    have hbetween := hinner.of_subset (List.subset_cons_self index _)
    have hend : Leads program s Eq (index :: body.groupIndices) close next :=
      .save hclose (by simp [hindex])
    refine ((Leads.save hopen (by simp)).trans (hbetween.trans hend)).mono ?_
    rintro first last ⟨_, rfl, _, hreads, rfl⟩
    exact hreads

theorem builds_bounded (hbody : Builds s (build body) (body.Reads s) body.groupIndices)
    {min max : Nat} (hle : min ≤ max) (greedy : Bool) :
    Builds s (build (.loop min (some max) greedy body))
      ((Node.loop min (some max) greedy body).Reads s) body.groupIndices := by
  refine ⟨fun next states ↦ ?_, fun next states program hagrees ↦ ?_⟩
  · exact (extends_optionals hbody greedy next (max - min) next states).trans
      (extends_copies hbody min _ _)
  · have hkeeps := extends_optionals hbody greedy next (max - min) next states
    have hcopies := leads_copies hbody (hagrees.mono hkeeps.1)
    have hmost : Leads program s (fun first last ↦ ∃ k ≤ 0, Repeats (body.Reads s) k first last)
        body.groupIndices next next :=
      (Leads.refl next).mono fun _ _ heq ↦ ⟨0, le_rfl, heq⟩
    have hbuilt := hagrees.of_extends (extends_copies hbody min _ _)
    have hoptionals := leads_optionals hbody hbuilt hmost
    refine (hcopies.trans hoptionals).mono ?_
    rintro first last ⟨place, hrepeats, k, hk, hmore⟩
    rw [Nat.zero_add] at hk
    exact ⟨min + k, by omega, by rintro _ ⟨⟩; omega, hrepeats.append hmore⟩

theorem build_endless (greedy : Bool) (next : Nat) (states : Array State) :
    build (.loop 0 none greedy body) next states =
      let r := again (build body) greedy next states
      if body.minLength.any (0 < ·) then (states.size, r.2.2)
      else add r.2.2 (splitFor greedy r.1 next) := rfl

theorem builds_endless (hbody : Builds s (build body) (body.Reads s) body.groupIndices)
    (greedy : Bool) :
    Builds s (build (.loop 0 none greedy body)) ((Node.loop 0 none greedy body).Reads s)
      body.groupIndices := by
  have hkeeps := extends_again hbody greedy
  have hreads : ∀ first last, (∃ count, Repeats (body.Reads s) count first last) →
      (Node.loop 0 none greedy body).Reads s first last := by
    rintro first last ⟨count, hrepeats⟩
    exact ⟨count, Nat.zero_le _, by simp, hrepeats⟩
  refine ⟨fun next states ↦ ?_, fun next states program hagrees ↦ ?_⟩
  · rw [build_endless]
    dsimp only
    split_ifs
    · exact hkeeps next states
    · exact (hkeeps next states).trans (extends_push _ _)
  · rw [build_endless] at hagrees ⊢
    dsimp only at hagrees ⊢
    split_ifs at hagrees ⊢
    · obtain ⟨hfirst, hchoice⟩ := leads_again hbody hagrees
      exact (Leads.again hchoice hfirst).mono hreads
    · -- A body that may read nothing is left by the way in as well.
      obtain ⟨hfirst, hchoice⟩ := leads_again hbody (hagrees.of_extends (extends_push _ _))
      have hsplit := hagrees.get?_size (hkeeps next states).1
      refine (Leads.split hsplit (hfirst.trans (Leads.again hchoice hfirst))
        (Leads.refl next)).mono ?_
      rintro first last (⟨place, hround, count, hrepeats⟩ | rfl)
      · exact hreads _ _ ⟨count + 1, place, hround, hrepeats⟩
      · exact hreads _ _ ⟨0, rfl⟩

theorem builds_atLeast (hbody : Builds s (build body) (body.Reads s) body.groupIndices)
    (min : Nat) (greedy : Bool) :
    Builds s (build (.loop (min + 1) none greedy body))
      ((Node.loop (min + 1) none greedy body).Reads s) body.groupIndices := by
  have hkeeps := extends_again hbody greedy
  refine ⟨fun next states ↦ ?_, fun next states program hagrees ↦ ?_⟩
  · exact (hkeeps next states).trans (extends_copies hbody min _ _)
  · obtain ⟨hfirst, hchoice⟩ :=
      leads_again hbody (hagrees.of_extends (extends_copies hbody min _ _))
    have hcopies := leads_copies hbody (hagrees.mono (hkeeps next states).1)
    refine (hcopies.trans (hfirst.trans (Leads.again hchoice hfirst))).mono ?_
    rintro first last ⟨place, hrepeats, later, hround, count, hmore⟩
    have hrounds := (hrepeats.snoc hround).append hmore
    exact ⟨min + 1 + count, Nat.le_add_right _ _, by simp, hrounds⟩

end

/-- The states that are added for a node lead through a reading of it. -/
theorem builds (s : List Char) {n : Node} (hloops : n.LoopsAgree) :
    Builds s (build n) (n.Reads s) n.groupIndices := by
  induction n with
  | empty => exact ⟨fun _ states ↦ .refl states, fun next _ _ _ ↦ .refl next⟩
  | one set =>
    exact ⟨fun _ states ↦ extends_push states _,
      fun _ _ _ hagrees ↦ .read (hagrees.get?_size le_rfl)⟩
  | look l =>
    exact ⟨fun _ states ↦ extends_push states _,
      fun _ _ _ hagrees ↦ .test (hagrees.get?_size le_rfl)⟩
  | group index body ih => exact builds_group (ih hloops) index
  | cat a b iha ihb =>
    have ha := iha hloops.1
    have hb := ihb hloops.2
    refine ⟨fun next states ↦ (hb.keeps _ _).trans (ha.keeps _ _),
      fun next states program hagrees ↦ ?_⟩
    have hfirst := ha.leads _ _ program (hagrees.mono (hb.keeps next states).1)
    have hsecond := hb.leads next states program (hagrees.of_extends (ha.keeps _ _))
    exact (hfirst.of_subset (List.subset_append_left _ _)).trans
      (hsecond.of_subset (List.subset_append_right _ _))
  | alt a b iha ihb =>
    have ha := iha hloops.1
    have hb := ihb hloops.2
    refine ⟨fun next states ↦ ((ha.keeps _ _).trans (hb.keeps _ _)).trans (extends_push _ _),
      fun next states program hagrees ↦ ?_⟩
    have hkeeps := ha.keeps next states
    have hmore := hb.keeps next (build a next states).2
    have hbuilt := hagrees.of_extends (extends_push _ _)
    have hsplit : _ = some (splitFor true _ _) := hagrees.get?_size (hkeeps.trans hmore).1
    have hfirst := ha.leads next states program (hbuilt.of_extends hmore)
    have hsecond := hb.leads next _ program (hbuilt.mono hkeeps.1)
    exact Leads.split hsplit (hfirst.of_subset (List.subset_append_left _ _))
      (hsecond.of_subset (List.subset_append_right _ _))
  | loop min max greedy body ih =>
    cases max with
    | some max => exact builds_bounded (ih hloops.2) (hloops.1 max rfl) greedy
    | none =>
      cases min with
      | zero => exact builds_endless (ih hloops.2) greedy
      | succ min => exact builds_atLeast (ih hloops.2) min greedy

/-! ### What a search finds -/

/-- Whether a thread comes to a place of the text from the beginning of the program. -/
inductive Reached (p : Program) (s : List Char) : Nat → Thread → Prop
  | start {place : Nat} (hplace : place ≤ s.length) : Reached p s place ⟨p.start, []⟩
  | step {place later : Nat} {t u : Thread} (hreached : Reached p s place t)
    (hstep : Step p.states s place t later u) : Reached p s later u

theorem Reached.accepts {p : Program} {s : List Char} {place : Nat} {t : Thread}
    (hreached : Reached p s place t) {last count : Nat} {final : Slots}
    (hrun : Accepts p.states s last final count place t) :
    ∃ first ≤ s.length, ∃ length, Accepts p.states s last final length first ⟨p.start, []⟩ := by
  induction hreached generalizing count with
  | start hplace => exact ⟨_, hplace, count, hrun⟩
  | step _ hstep ih => exact ih (.step hstep hrun)

variable {p : Program} {s : List Char}

/-- Following the states that read nothing stays within what can be reached. -/
theorem reached_follow {place : Nat} (fuel : Nat) {stack : List Thread} {f : Frontier}
    (hstack : ∀ t ∈ stack, Reached p s place t) (hthreads : ∀ t ∈ f.threads, Reached p s place t) :
    ∀ t ∈ (follow p place (s.take place).getLast? (s.drop place).head? fuel stack f).threads,
      Reached p s place t := by
  induction fuel generalizing stack f with
  | zero => cases stack <;> exact hthreads
  | succ fuel ih =>
    cases stack with
    | nil => exact hthreads
    | cons t stack =>
      obtain ⟨ht, hstack⟩ := List.forall_mem_cons.mp hstack
      rw [follow]
      split
      · exact ih hstack hthreads
      · dsimp only
        split
        · exact ih hstack hthreads
        · exact ih hstack (List.forall_mem_cons.mpr ⟨ht, hthreads⟩)
        · exact ih hstack (List.forall_mem_cons.mpr ⟨ht, hthreads⟩)
        · rename_i hstate
          refine ih ?_ hthreads
          split_ifs with hlook
          · exact List.forall_mem_cons.mpr ⟨ht.step (.test hstate hlook), hstack⟩
          · exact hstack
        · rename_i hstate
          exact ih (List.forall_mem_cons.mpr ⟨ht.step (.save hstate), hstack⟩) hthreads
        · rename_i hstate
          refine ih (List.forall_mem_cons.mpr ⟨ht.step (.first hstate), ?_⟩) hthreads
          exact List.forall_mem_cons.mpr ⟨ht.step (.second hstate), hstack⟩

/-- Whether slots are those of a run from the beginning of the program that accepts. -/
def Finds (p : Program) (s : List Char) (slots : Slots) : Prop :=
  ∃ last, ∃ first ≤ s.length, ∃ length,
    Accepts p.states s last slots length first ⟨p.start, []⟩

theorem reached_cutAtAccept {place : Nat} {threads : List Thread}
    (hthreads : ∀ t ∈ threads, Reached p s place t) :
    (∀ t ∈ (cutAtAccept p threads).1, Reached p s place t) ∧
      ∀ slots ∈ (cutAtAccept p threads).2, p.Finds s slots := by
  induction threads with
  | nil => simp [cutAtAccept]
  | cons t threads ih =>
    obtain ⟨ht, hthreads⟩ := List.forall_mem_cons.mp hthreads
    rw [cutAtAccept]
    split
    · rename_i haccept
      refine ⟨by simp, ?_⟩
      rintro _ ⟨⟩
      exact ⟨place, ht.accepts (.done haccept)⟩
    · exact ⟨List.forall_mem_cons.mpr ⟨ht, (ih hthreads).1⟩, (ih hthreads).2⟩

/-- What a place of a text with a character has before and after it once that is read. -/
theorem surroundings_of_drop {place : Nat} {c : Char} {rest : List Char}
    (hrest : s.drop place = c :: rest) :
    s[place]? = some c ∧ (s.take (place + 1)).getLast? = some c ∧ s.drop (place + 1) = rest := by
  have hchar : s[place]? = some c := by
    rw [← List.head?_drop, hrest]
    rfl
  refine ⟨hchar, ?_, ?_⟩
  · rw [List.take_add_one, hchar]
    simp
  · rw [← List.tail_drop, hrest]
    rfl

theorem reached_advance {place : Nat} {c : Char} {rest : List Char}
    (hrest : s.drop place = c :: rest) {threads : List Thread}
    (hthreads : ∀ t ∈ threads, Reached p s place t) :
    ∀ t ∈ (advance p (place + 1) c rest.head? threads).threads, Reached p s (place + 1) t := by
  obtain ⟨hchar, hbefore, hafter⟩ := surroundings_of_drop hrest
  have hnone : ∀ t ∈ ({} : Frontier).threads, Reached p s (place + 1) t := by simp
  unfold advance
  generalize ({} : Frontier) = f at hnone ⊢
  induction threads generalizing f with
  | nil => exact hnone
  | cons t threads ih =>
    obtain ⟨ht, hthreads⟩ := List.forall_mem_cons.mp hthreads
    rw [List.foldl_cons]
    refine ih hthreads _ ?_
    split
    · rename_i hstate
      split_ifs with hset
      · have hnext := ht.step (.read hstate hchar hset)
        rw [← hbefore, ← hafter]
        exact reached_follow p.fuel (List.forall_mem_singleton.mpr hnext) hnone
      · exact hnone
    · exact hnone

/-- A thread that begins at a place has read nothing yet. -/
theorem reached_begin {place : Nat} {f : Frontier} (found : Option Slots)
    (hplace : place ≤ s.length) (hthreads : ∀ t ∈ f.threads, Reached p s place t) :
    ∀ t ∈ (if found.isSome then f else
        follow p place (s.take place).getLast? (s.drop place).head? p.fuel [⟨p.start, []⟩]
          f).threads.reverse,
      Reached p s place t := by
  intro t ht
  rw [List.mem_reverse] at ht
  split_ifs at ht
  · exact hthreads t ht
  · exact reached_follow p.fuel (List.forall_mem_singleton.mpr (.start hplace)) hthreads t ht

theorem finds_of_or {accepted found : Option Slots}
    (haccepted : ∀ slots ∈ accepted, p.Finds s slots) (hfound : ∀ slots ∈ found, p.Finds s slots) :
    ∀ slots ∈ accepted.or found, p.Finds s slots := by
  intro slots hslots
  rcases Option.or_eq_some_iff.mp hslots with h | ⟨-, h⟩
  · exact haccepted slots h
  · exact hfound slots h

theorem finds_of_searchFrom {place : Nat} {f : Frontier} {found : Option Slots} {rest : List Char}
    (hrest : s.drop place = rest) (hplace : place ≤ s.length)
    (hthreads : ∀ t ∈ f.threads, Reached p s place t) (hfound : ∀ slots ∈ found, p.Finds s slots) :
    ∀ slots ∈ searchFrom p place (s.take place).getLast? f found rest, p.Finds s slots := by
  induction rest generalizing place f found with
  | nil =>
    have hbegun := reached_begin found hplace hthreads
    rw [hrest] at hbegun
    exact finds_of_or (reached_cutAtAccept hbegun).2 hfound
  | cons c rest ih =>
    obtain ⟨hchar, hnext, hafter⟩ := surroundings_of_drop hrest
    obtain ⟨hplace', -⟩ := List.getElem?_eq_some_iff.mp hchar
    have hbegun := reached_begin found hplace hthreads
    rw [hrest, List.head?_cons] at hbegun
    rw [searchFrom]
    dsimp only
    generalize (if found.isSome then f else
      follow p place (s.take place).getLast? (some c) p.fuel [⟨p.start, []⟩] f) = begun
      at hbegun ⊢
    have hcut := reached_cutAtAccept hbegun
    split
    · exact finds_of_or hcut.2 hfound
    · rw [← hnext]
      exact ih hafter hplace' (reached_advance hrest hcut.1) (finds_of_or hcut.2 hfound)

/-- What a search finds are the slots of a run. -/
theorem finds_of_search {slots : Slots} (hsearch : p.search s = some slots) : p.Finds s slots := by
  have hrest : s.drop 0 = s := rfl
  exact finds_of_searchFrom hrest (Nat.zero_le _) (by simp) (by simp) slots hsearch

/-! ### Whole patterns -/

/-- What a search finds of a pattern is a part of the text that the pattern reads, and the group of
the whole match is that part. -/
theorem reads_of_groups? {n : Node} (hloops : n.LoopsAgree) (hgroups : 0 ∉ n.groupIndices)
    (hprogram : ofNode? n = some p) {groups : List (Option (List Char))}
    (hsearch : p.groups? s = some groups) :
    ∃ first ≤ s.length, ∃ last, n.Reads s first last ∧
      groups.head? = some (some (between s first last)) := by
  obtain ⟨slots, hslots, rfl⟩ := Option.map_eq_some_iff.mp hsearch
  rw [ofNode?] at hprogram
  dsimp only at hprogram
  split_ifs at hprogram
  obtain rfl := Option.some.inj hprogram
  have hbody := builds s hloops
  have hagrees : Agrees (build (.group 0 n) 0 #[.accept]).2 (build (.group 0 n) 0 #[.accept]).2
      (#[.accept] : Array State).size := fun _ _ _ ↦ rfl
  obtain ⟨first, close, hopen, hinner, hclose⟩ := leads_group hbody hagrees
  have haccept : (build (.group 0 n) 0 #[.accept]).2[0]? = some .accept :=
    ((builds_group hbody 0).keeps 0 #[.accept]).2 0 (by simp)
  obtain ⟨last, place, hplace, length, hrun⟩ := finds_of_search hslots
  obtain ⟨_, -, hrun⟩ := hrun.of_save hopen
  obtain ⟨_, -, later, added, hreads, hadded, hrun⟩ := hinner hrun
  obtain ⟨_, -, hrun⟩ := hrun.of_save hclose
  obtain ⟨rfl, rfl⟩ := hrun.of_accept haccept
  refine ⟨place, hplace, later, hreads, ?_⟩
  -- No group of the pattern has the number of the whole match.
  have hnone : added.lookup 0 = none := by
    refine List.lookup_eq_none_iff.mpr fun slot hslot ↦ ?_
    have hindex := hadded slot hslot
    rw [bne_iff_ne]
    intro hzero
    rw [← hzero] at hindex
    exact hgroups hindex
  simp [List.range_succ_eq_map, List.lookup_cons, List.lookup_append, hnone]

end Program

end Guildhall.Pattern
