import Guildhall.Proofs.PatternPrograms
import Mathlib.Data.Finset.Card
import Mathlib.Data.Finset.Range

/-!
Searches find what there is to be found. A reading of a node gives a run through the states that are
added for it (`Program.completes`), and a search keeps up with every run: at each place the states
that were reached are closed under the steps that read nothing (`Program.Closed`), so that a run
from one of them is never lost. With what is known of the runs that a search finds, a program
matches a text exactly if its pattern reads a part of it (`Program.isMatch_iff`).
-/

set_option autoImplicit false

namespace Guildhall.Pattern

section

variable {step : Nat → Nat → Prop} {first last : Nat}

/-- Some of the steps first, and then the others. -/
theorem Repeats.exists_place {count least : Nat} (hrepeats : Repeats step count first last)
    (hleast : least ≤ count) :
    ∃ place, Repeats step least first place ∧ Repeats step (count - least) place last := by
  induction least generalizing count first with
  | zero => exact ⟨first, rfl, hrepeats⟩
  | succ least ih =>
    obtain ⟨count, rfl⟩ := Nat.exists_eq_add_one.mpr (Nat.zero_lt_of_lt hleast)
    obtain ⟨second, hstep, hrepeats⟩ := hrepeats
    obtain ⟨place, hfirst, hrest⟩ := ih hrepeats (Nat.le_of_succ_le_succ hleast)
    exact ⟨place, ⟨second, hstep, hfirst⟩, by rwa [Nat.add_sub_add_right]⟩

theorem Repeats.exists_last {count : Nat} (hrepeats : Repeats step (count + 1) first last) :
    ∃ place, Repeats step count first place ∧ step place last := by
  obtain ⟨place, hfirst, hrest⟩ := hrepeats.exists_place (Nat.le_succ count)
  rw [Nat.add_sub_cancel_left] at hrest
  obtain ⟨_, hstep, rfl⟩ := hrest
  exact ⟨place, hfirst, hstep⟩

end

namespace Program

/-! ### Runs from a state -/

section

variable {states : Array State} {s : List Char} {place later q : Nat}

/-- What was remembered before a step makes no difference to it. -/
theorem Step.with_slots {t u : Thread} (hstep : Step states s place t later u) (slots : Slots) :
    ∃ slots', Step states s place ⟨t.state, slots⟩ later ⟨u.state, slots'⟩ := by
  cases hstep with
  | read hstate hchar hset => exact ⟨slots, .read hstate hchar hset⟩
  | test hstate hlook => exact ⟨slots, .test hstate hlook⟩
  | save hstate => exact ⟨_ :: slots, .save hstate⟩
  | first hstate => exact ⟨slots, .first hstate⟩
  | second hstate => exact ⟨slots, .second hstate⟩

theorem Accepts.with_slots {last count : Nat} {final : Slots} {t : Thread}
    (hrun : Accepts states s last final count place t) (slots : Slots) :
    ∃ final', Accepts states s last final' count place ⟨t.state, slots⟩ := by
  induction hrun generalizing slots with
  | done hstate => exact ⟨slots, .done hstate⟩
  | step hstep _ ih =>
    obtain ⟨slots', hstep⟩ := hstep.with_slots slots
    obtain ⟨final', hrun⟩ := ih slots'
    exact ⟨final', .step hstep hrun⟩

/-- A step that stays at its place reads nothing. -/
theorem Step.stays_or_reads {t u : Thread} (hstep : Step states s place t later u) :
    later = place ∨ ∃ set next, states[t.state]? = some (.read set next) := by
  cases hstep with
  | read hstate => exact .inr ⟨_, _, hstate⟩
  | _ => exact .inl rfl

/-- Whether there is a run from a state at a place that accepts. -/
def CanAccept (states : Array State) (s : List Char) (place q : Nat) : Prop :=
  ∃ last final count, Accepts states s last final count place ⟨q, []⟩

theorem CanAccept.of_accept (hstate : states[q]? = some .accept) : CanAccept states s place q :=
  ⟨place, [], 0, .done hstate⟩

theorem CanAccept.of_step {u : Thread} (hstep : Step states s place ⟨q, []⟩ later u)
    (hnext : CanAccept states s later u.state) : CanAccept states s place q := by
  obtain ⟨last, final, count, hrun⟩ := hnext
  obtain ⟨final, hrun⟩ := hrun.with_slots u.slots
  exact ⟨last, final, count + 1, .step hstep hrun⟩

/-- Which of the two a split prefers does not matter. -/
theorem CanAccept.of_splitFor {greedy : Bool} {body exit : Nat}
    (hstate : states[q]? = some (splitFor greedy body exit))
    (hnext : CanAccept states s place body ∨ CanAccept states s place exit) :
    CanAccept states s place q := by
  cases greedy with
  | true => exact hnext.elim (.of_step (.first hstate)) (.of_step (.second hstate))
  | false => exact hnext.elim (.of_step (.second hstate)) (.of_step (.first hstate))

end

/-! ### What the states of a node can do -/

/-- Whether a reading leads from the state `start` to the state `next`: where a run goes on from the
end of what `reads` relates, there is one from its beginning. -/
def Follows (program : Array State) (s : List Char) (reads : Nat → Nat → Prop)
    (start next : Nat) : Prop :=
  ∀ ⦃first last : Nat⦄, reads first last → CanAccept program s last next →
    CanAccept program s first start

/-- Whether the states that a function adds lead through every reading. -/
def Completes (s : List Char) (build : Nat → Array State → Nat × Array State)
    (reads : Nat → Nat → Prop) : Prop :=
  ∀ next states program, Agrees program (build next states).2 states.size →
    Follows program s reads (build next states).1 next

section

variable {program : Array State} {s : List Char} {reads : Nat → Nat → Prop}

theorem Follows.refl (start : Nat) : Follows program s Eq start start := by
  rintro first _ rfl haccept
  exact haccept

theorem Follows.mono {fewer : Nat → Nat → Prop} {start next : Nat}
    (hfollows : Follows program s reads start next)
    (hfewer : ∀ first last, fewer first last → reads first last) :
    Follows program s fewer start next :=
  fun _ _ hreads haccept ↦ hfollows (hfewer _ _ hreads) haccept

theorem Follows.trans {others : Nat → Nat → Prop} {start middle next : Nat}
    (hfirst : Follows program s reads start middle)
    (hsecond : Follows program s others middle next) :
    Follows program s (fun first last ↦ ∃ place, reads first place ∧ others place last)
      start next := by
  rintro first last ⟨place, hreads, hothers⟩ haccept
  exact hfirst hreads (hsecond hothers haccept)

theorem Follows.read {q next : Nat} {set : Charset}
    (hstate : program[q]? = some (.read set next)) :
    Follows program s ((Node.one set).Reads s) q next := by
  rintro first _ ⟨⟨c, hchar, hset⟩, rfl⟩ haccept
  exact .of_step (.read hstate hchar hset) haccept

theorem Follows.test {q next : Nat} {l : Look} (hstate : program[q]? = some (.test l next)) :
    Follows program s ((Node.look l).Reads s) q next := by
  rintro first _ ⟨hlook, rfl⟩ haccept
  exact .of_step (.test hstate hlook) haccept

theorem Follows.save {q slot next : Nat} (hstate : program[q]? = some (.save slot next)) :
    Follows program s Eq q next := by
  rintro first _ rfl haccept
  exact .of_step (.save hstate) haccept

theorem Follows.split {others : Nat → Nat → Prop} {greedy : Bool} {q body exit next : Nat}
    (hstate : program[q]? = some (splitFor greedy body exit))
    (hbody : Follows program s reads body next) (hexit : Follows program s others exit next) :
    Follows program s (fun first last ↦ reads first last ∨ others first last) q next := by
  rintro first last (hreads | hothers) haccept
  · exact .of_splitFor hstate (.inl (hbody hreads haccept))
  · exact .of_splitFor hstate (.inr (hexit hothers haccept))

theorem Follows.again {greedy : Bool} {choice body next : Nat}
    (hstate : program[choice]? = some (splitFor greedy body next))
    (hbody : Follows program s reads body choice) :
    Follows program s (fun first last ↦ ∃ count, Repeats reads count first last) choice next := by
  rintro first last ⟨count, hrepeats⟩ haccept
  induction count generalizing first with
  | zero =>
    obtain rfl : first = last := hrepeats
    exact .of_splitFor hstate (.inr haccept)
  | succ count ih =>
    obtain ⟨place, hreads, hrepeats⟩ := hrepeats
    exact .of_splitFor hstate (.inl (hbody hreads (ih hrepeats)))

end

section

variable {s : List Char} {build : Nat → Array State → Nat × Array State}
variable {reads : Nat → Nat → Prop} {groups : List Nat}

theorem follows_copies (hbuild : Builds s build reads groups) (hcompletes : Completes s build reads)
    {count next : Nat} {states program : Array State}
    (hagrees : Agrees program (copies build count next states).2 states.size) :
    Follows program s (Repeats reads count) (copies build count next states).1 next := by
  induction count generalizing next states with
  | zero => exact .refl next
  | succ count ih =>
    have hkeeps := hbuild.keeps next states
    have hbody := hcompletes next states program
      (hagrees.of_extends (extends_copies hbuild count _ _))
    exact ((ih (hagrees.mono hkeeps.1)).trans hbody).mono fun _ _ ↦ Repeats.exists_last

theorem follows_optionals (hbuild : Builds s build reads groups)
    (hcompletes : Completes s build reads) {greedy : Bool} {exit count most next : Nat}
    {states program : Array State}
    (hagrees : Agrees program (optionals build greedy exit count next states).2 states.size)
    (hnext : Follows program s (fun first last ↦ ∃ k ≤ most, Repeats reads k first last) next
      exit) :
    Follows program s (fun first last ↦ ∃ k ≤ most + count, Repeats reads k first last)
      (optionals build greedy exit count next states).1 exit := by
  induction count generalizing most next states with
  | zero => exact hnext
  | succ count ih =>
    have hkeeps := hbuild.keeps next states
    have hadded := hagrees.of_extends (extends_optionals hbuild greedy exit count _ _)
    have hstate := hadded.get?_size hkeeps.1
    have hbody := hcompletes next states program (hadded.of_extends (extends_push _ _))
    have hmore : Follows program s (fun first last ↦ ∃ k ≤ most + 1, Repeats reads k first last)
        (build next states).2.size exit := by
      refine (Follows.split hstate (hbody.trans hnext) (Follows.refl exit)).mono ?_
      rintro first last ⟨k, hk, hrepeats⟩
      cases k with
      | zero => exact .inr hrepeats
      | succ k =>
        obtain ⟨place, hreads, hrepeats⟩ := hrepeats
        exact .inl ⟨place, hreads, k, Nat.le_of_succ_le_succ hk, hrepeats⟩
    have hrest := ih (hagrees.mono (hkeeps.1.trans (extends_push _ _).1)) hmore
    rwa [Nat.add_right_comm] at hrest

/-- The body of an endless loop leads back to the choice between itself and what comes next. -/
theorem follows_again (hbuild : Builds s build reads groups) (hcompletes : Completes s build reads)
    {greedy : Bool} {next : Nat} {states program : Array State}
    (hagrees : Agrees program (again build greedy next states).2.2 states.size) :
    Follows program s reads (again build greedy next states).1 states.size ∧
      Follows program s (fun first last ↦ ∃ count, Repeats reads count first last) states.size
        next := by
  obtain ⟨hbody, hchoice⟩ := agrees_again hbuild hagrees
  have hfirst := hcompletes _ _ program hbody
  exact ⟨hfirst, .again hchoice hfirst⟩

end

section

variable {s : List Char} {body : Node}

theorem completes_group (hbuild : Builds s (build body) (body.Reads s) body.groupIndices)
    (hcompletes : Completes s (build body) (body.Reads s)) (index : Nat) :
    Completes s (build (.group index body)) ((Node.group index body).Reads s) := by
  intro next states program hagrees
  obtain ⟨hopen, hbody, hclose⟩ := agrees_group hbuild hagrees
  refine ((Follows.save hopen).trans ((hcompletes _ _ program hbody).trans (.save hclose))).mono ?_
  exact fun first last hreads ↦ ⟨first, rfl, last, hreads, rfl⟩

theorem completes_bounded (hbuild : Builds s (build body) (body.Reads s) body.groupIndices)
    (hcompletes : Completes s (build body) (body.Reads s)) (min max : Nat) (greedy : Bool) :
    Completes s (build (.loop min (some max) greedy body))
      ((Node.loop min (some max) greedy body).Reads s) := by
  intro next states program hagrees
  have hkeeps := extends_optionals hbuild greedy next (max - min) next states
  have hcopies := follows_copies hbuild hcompletes (hagrees.mono hkeeps.1)
  have hnone : Follows program s (fun first last ↦ ∃ k ≤ 0, Repeats (body.Reads s) k first last)
      next next := by
    refine (Follows.refl next).mono ?_
    rintro first last ⟨k, hk, hrepeats⟩
    obtain rfl := Nat.le_zero.mp hk
    exact hrepeats
  have hbuilt := hagrees.of_extends (extends_copies hbuild min _ _)
  have hoptionals := follows_optionals hbuild hcompletes hbuilt hnone
  refine (hcopies.trans hoptionals).mono ?_
  rintro first last ⟨count, hmin, hmax, hrepeats⟩
  have hmost : count ≤ max := hmax max rfl
  obtain ⟨place, hrepeats, hmore⟩ := hrepeats.exists_place hmin
  exact ⟨place, hrepeats, count - min, by omega, hmore⟩

theorem completes_endless (hbuild : Builds s (build body) (body.Reads s) body.groupIndices)
    (hcompletes : Completes s (build body) (body.Reads s)) (greedy : Bool) :
    Completes s (build (.loop 0 none greedy body))
      ((Node.loop 0 none greedy body).Reads s) := by
  intro next states program hagrees
  have hrounds : ∀ first last, (Node.loop 0 none greedy body).Reads s first last →
      ∃ count, Repeats (body.Reads s) count first last :=
    fun _ _ ⟨count, _, _, hrepeats⟩ ↦ ⟨count, hrepeats⟩
  rw [build_endless] at hagrees ⊢
  dsimp only at hagrees ⊢
  split_ifs at hagrees ⊢
  · exact (follows_again hbuild hcompletes hagrees).2.mono hrounds
  · obtain ⟨hfirst, hchoice⟩ :=
      follows_again hbuild hcompletes (hagrees.of_extends (extends_push _ _))
    have hsplit := hagrees.get?_size (extends_again hbuild greedy next states).1
    refine (Follows.split hsplit (hfirst.trans hchoice) (Follows.refl next)).mono ?_
    intro first last hreads
    obtain ⟨count, hrepeats⟩ := hrounds first last hreads
    cases count with
    | zero => exact .inr hrepeats
    | succ count =>
      obtain ⟨place, hround, hrepeats⟩ := hrepeats
      exact .inl ⟨place, hround, count, hrepeats⟩

theorem completes_atLeast (hbuild : Builds s (build body) (body.Reads s) body.groupIndices)
    (hcompletes : Completes s (build body) (body.Reads s)) (min : Nat) (greedy : Bool) :
    Completes s (build (.loop (min + 1) none greedy body))
      ((Node.loop (min + 1) none greedy body).Reads s) := by
  intro next states program hagrees
  obtain ⟨hfirst, hchoice⟩ :=
    follows_again hbuild hcompletes (hagrees.of_extends (extends_copies hbuild min _ _))
  have hkeeps := extends_again hbuild greedy next states
  have hcopies := follows_copies hbuild hcompletes (hagrees.mono hkeeps.1)
  refine (hcopies.trans (hfirst.trans hchoice)).mono ?_
  rintro first last ⟨count, hmin, -, hrepeats⟩
  obtain ⟨place, hcopied, hmore⟩ := hrepeats.exists_place (Nat.le_of_succ_le hmin)
  obtain ⟨rounds, hrounds⟩ : ∃ rounds, count - min = rounds + 1 := ⟨count - min - 1, by omega⟩
  rw [hrounds] at hmore
  obtain ⟨later, hround, hmore⟩ := hmore
  exact ⟨place, hcopied, later, hround, rounds, hmore⟩

end

/-- The states that are added for a node lead through every reading of it. -/
theorem completes (s : List Char) {n : Node} (hloops : n.LoopsAgree) :
    Completes s (build n) (n.Reads s) := by
  induction n with
  | empty => exact fun next _ _ _ ↦ .refl next
  | one set => exact fun _ _ _ hagrees ↦ .read (hagrees.get?_size le_rfl)
  | look l => exact fun _ _ _ hagrees ↦ .test (hagrees.get?_size le_rfl)
  | group index body ih => exact completes_group (builds (n := body) s hloops) (ih hloops) index
  | cat a b iha ihb =>
    intro next states program hagrees
    have hkeeps := (builds s hloops.2).keeps next states
    have hfirst := iha hloops.1 _ _ program (hagrees.mono hkeeps.1)
    exact hfirst.trans (ihb hloops.2 next states program
      (hagrees.of_extends ((builds s hloops.1).keeps _ _)))
  | alt a b iha ihb =>
    intro next states program hagrees
    have hkeeps := (builds s hloops.1).keeps next states
    have hmore := (builds s hloops.2).keeps next (build a next states).2
    have hbuilt := hagrees.of_extends (extends_push _ _)
    have hsplit : _ = some (splitFor true _ _) := hagrees.get?_size (hkeeps.trans hmore).1
    exact Follows.split hsplit (iha hloops.1 next states program (hbuilt.of_extends hmore))
      (ihb hloops.2 next _ program (hbuilt.mono hkeeps.1))
  | loop min max greedy body ih =>
    have hbuild := builds s hloops.2
    cases max with
    | some max => exact completes_bounded hbuild (ih hloops.2) min max greedy
    | none =>
      cases min with
      | zero => exact completes_endless hbuild (ih hloops.2) greedy
      | succ min => exact completes_atLeast hbuild (ih hloops.2) min greedy

/-! ### Following the states that read nothing -/

section

variable {p : Program} {s : List Char} {place : Nat}

/-- The threads that a thread goes on to without reading, the preferred one first. -/
def successors (p : Program) (place : Nat) (before after : Option Char) (t : Thread) :
    List Thread :=
  match p.states[t.state]? with
  | some (.test l next) => if l.holds before after then [⟨next, t.slots⟩] else []
  | some (.save slot next) => [⟨next, (slot, place) :: t.slots⟩]
  | some (.split first second) => [⟨first, t.slots⟩, ⟨second, t.slots⟩]
  | _ => []

/-- The threads that wait, with another one if it waits for a character or accepts. -/
def waiting (p : Program) (t : Thread) (threads : List Thread) : List Thread :=
  match p.states[t.state]? with
  | some .accept | some (.read _ _) => t :: threads
  | _ => threads

theorem follow_cons (p : Program) (place : Nat) (before after : Option Char) (fuel : Nat)
    (t : Thread) (stack : List Thread) (f : Frontier) :
    follow p place before after (fuel + 1) (t :: stack) f =
      if f.reached.testBit t.state then follow p place before after fuel stack f
      else follow p place before after fuel (successors p place before after t ++ stack)
        ⟨f.reached ||| 1 <<< t.state, waiting p t f.threads⟩ := by
  rw [follow, successors, waiting]
  dsimp only
  split_ifs with hreached
  · rfl
  · cases hstate : p.states[t.state]? with
    | none => rfl
    | some state =>
      cases state with
      | test l next => dsimp only; split_ifs <;> rfl
      | _ => rfl

theorem successors_le (p : Program) (place : Nat) (before after : Option Char) (t : Thread) :
    successors p place before after t = [] ∨
      t.state < p.states.size ∧ (successors p place before after t).length ≤ 2 := by
  rcases Nat.lt_or_ge t.state p.states.size with hlt | hge
  · refine .inr ⟨hlt, ?_⟩
    unfold successors
    split
    · split_ifs <;> simp
    · simp
    · simp
    · simp
  · left
    rw [successors, Array.getElem?_eq_none hge]

/-- Every step that reads nothing is one to a successor. -/
theorem exists_successor {t u : Thread}
    (hstep : Step p.states s place ⟨t.state, []⟩ place u) :
    ∃ w ∈ successors p place (s.take place).getLast? (s.drop place).head? t,
      w.state = u.state := by
  cases hstep with
  | test hstate hlook =>
    rw [successors, hstate]
    dsimp only
    rw [if_pos (show Look.holds _ _ _ = true from hlook)]
    exact ⟨_, List.mem_cons_self, rfl⟩
  | save hstate =>
    rw [successors, hstate]
    exact ⟨_, List.mem_cons_self, rfl⟩
  | first hstate =>
    rw [successors, hstate]
    exact ⟨_, List.mem_cons_self, rfl⟩
  | second hstate =>
    rw [successors, hstate]
    exact ⟨_, List.mem_cons_of_mem _ List.mem_cons_self, rfl⟩

/-- Whether threads wait in a state, for a character or because they accept. -/
def Waits (p : Program) (q : Nat) : Prop :=
  p.states[q]? = some .accept ∨ ∃ set next, p.states[q]? = some (.read set next)

theorem mem_waiting_self {t : Thread} (hwaits : Waits p t.state) (threads : List Thread) :
    t ∈ waiting p t threads := by
  rcases hwaits with hstate | ⟨set, next, hstate⟩ <;> rw [waiting, hstate] <;>
    exact List.mem_cons_self

theorem mem_waiting {t u : Thread} {threads : List Thread} (hu : u ∈ threads) :
    u ∈ waiting p t threads := by
  unfold waiting
  split
  · exact List.mem_cons_of_mem t hu
  · exact List.mem_cons_of_mem t hu
  · exact hu

/-- Whether a state was reached or is on the stack. -/
def Meets (f : Frontier) (stack : List Thread) (q : Nat) : Prop :=
  f.reached.testBit q = true ∨ ∃ t ∈ stack, t.state = q

/-- Whether every step that reads nothing leads from a state that was reached to another one or to
one on the stack, and a thread waits in each of them where threads wait. -/
structure Closed (p : Program) (s : List Char) (place : Nat) (f : Frontier)
    (stack : List Thread) : Prop where
  steps : ∀ q, f.reached.testBit q = true → ∀ u, Step p.states s place ⟨q, []⟩ place u →
    Meets f stack u.state
  waits : ∀ q, f.reached.testBit q = true → Waits p q → ∃ t ∈ f.threads, t.state = q

theorem meets_nil {f : Frontier} {q : Nat} : Meets f [] q ↔ f.reached.testBit q = true := by
  simp [Meets]

/-- A state that was reached before may be taken off the stack. -/
theorem Meets.pop {f : Frontier} {t : Thread} {stack : List Thread} {q : Nat}
    (hmeets : Meets f (t :: stack) q) (ht : f.reached.testBit t.state = true) :
    Meets f stack q := by
  rcases hmeets with hbit | ⟨u, hu, rfl⟩
  · exact .inl hbit
  · rcases List.mem_cons.mp hu with rfl | hu
    · exact .inl ht
    · exact .inr ⟨u, hu, rfl⟩

theorem testBit_mark {reached q k : Nat} :
    (reached ||| 1 <<< q).testBit k = true ↔ reached.testBit k = true ∨ k = q := by
  rw [Nat.testBit_or, Nat.shiftLeft_eq, Nat.one_mul, Bool.or_eq_true, Nat.testBit_two_pow,
    decide_eq_true_iff, eq_comm (a := q)]

/-- A state that is taken off the stack was reached, with others in its place. -/
theorem Meets.mark {f : Frontier} {t : Thread} {stack pushed threads : List Thread} {q : Nat}
    (hmeets : Meets f (t :: stack) q) :
    Meets ⟨f.reached ||| 1 <<< t.state, threads⟩ (pushed ++ stack) q := by
  rcases hmeets with hbit | ⟨u, hu, rfl⟩
  · exact .inl (testBit_mark.mpr (.inl hbit))
  · rcases List.mem_cons.mp hu with rfl | hu
    · exact .inl (testBit_mark.mpr (.inr rfl))
    · exact .inr ⟨u, List.mem_append_right _ hu, rfl⟩

/-- The successors of a state take its place on the stack. -/
theorem Closed.mark {f : Frontier} {t : Thread} {stack : List Thread}
    (hclosed : Closed p s place f (t :: stack)) :
    Closed p s place ⟨f.reached ||| 1 <<< t.state, waiting p t f.threads⟩
      (successors p place (s.take place).getLast? (s.drop place).head? t ++ stack) := by
  constructor
  · intro q hq u hstep
    rcases testBit_mark.mp hq with hq | rfl
    · exact (hclosed.steps q hq u hstep).mark
    · obtain ⟨w, hw, hstate⟩ := exists_successor hstep
      exact .inr ⟨w, List.mem_append_left _ hw, hstate⟩
  · intro q hq hwaits
    rcases testBit_mark.mp hq with hq | rfl
    · obtain ⟨u, hu, hstate⟩ := hclosed.waits q hq hwaits
      exact ⟨u, mem_waiting hu, hstate⟩
    · exact ⟨t, mem_waiting_self hwaits _, rfl⟩

/-! ### Enough steps -/

/-- The states of the program that were not reached. -/
def unreached (p : Program) (reached : Nat) : Finset Nat :=
  (Finset.range p.states.size).filter fun q ↦ reached.testBit q = false

theorem unreached_mark_subset (p : Program) (reached q : Nat) :
    unreached p (reached ||| 1 <<< q) ⊆ unreached p reached := by
  refine fun k hk ↦ Finset.mem_filter.mpr ⟨(Finset.mem_filter.mp hk).1, ?_⟩
  have hbit := (Finset.mem_filter.mp hk).2
  rw [← Bool.not_eq_true, testBit_mark, not_or, Bool.not_eq_true] at hbit
  exact hbit.1

theorem unreached_mark_ssubset {reached q : Nat} (hq : q < p.states.size)
    (hnew : reached.testBit q = false) :
    unreached p (reached ||| 1 <<< q) ⊂ unreached p reached := by
  refine (Finset.ssubset_iff_of_subset (unreached_mark_subset p reached q)).mpr
    ⟨q, Finset.mem_filter.mpr ⟨Finset.mem_range.mpr hq, hnew⟩, fun hmem ↦ ?_⟩
  have hbit := (Finset.mem_filter.mp hmem).2
  rw [testBit_mark.mpr (.inr rfl)] at hbit
  cases hbit

theorem card_unreached_le (p : Program) (reached : Nat) :
    (unreached p reached).card ≤ p.states.size :=
  (Finset.card_filter_le _ _).trans_eq (Finset.card_range _)

/-- A state that is reached makes room for the two that it may go on to. -/
theorem room_mark {reached q fuel : Nat} {stack pushed : List Thread}
    (hnew : reached.testBit q = false)
    (hroom : stack.length + 1 + 2 * (unreached p reached).card ≤ fuel + 1)
    (hpushed : pushed = [] ∨ q < p.states.size ∧ pushed.length ≤ 2) :
    (pushed ++ stack).length + 2 * (unreached p (reached ||| 1 <<< q)).card ≤ fuel := by
  rw [List.length_append]
  rcases hpushed with rfl | ⟨hq, hpushed⟩
  · have hle := Finset.card_le_card (unreached_mark_subset p reached q)
    rw [List.length_nil]
    omega
  · have hlt := Finset.card_lt_card (unreached_mark_ssubset hq hnew)
    omega

/-- With enough steps everything on the stack is followed. -/
theorem closed_followWithin (fuel : Nat) {stack : List Thread} {f : Frontier}
    (hroom : stack.length + 2 * (unreached p f.reached).card ≤ fuel)
    (hclosed : Closed p s place f stack) :
    let g := follow p place (s.take place).getLast? (s.drop place).head? fuel stack f
    Closed p s place g [] ∧ ∀ q, Meets f stack q → g.reached.testBit q = true := by
  induction fuel generalizing stack f with
  | zero =>
    obtain rfl : stack = [] := List.eq_nil_of_length_eq_zero (by omega)
    exact ⟨hclosed, fun q ↦ meets_nil.mp⟩
  | succ fuel ih =>
    cases stack with
    | nil => exact ⟨hclosed, fun q ↦ meets_nil.mp⟩
    | cons t stack =>
      rw [List.length_cons] at hroom
      rw [follow_cons]
      split_ifs with hreached
      · have hpopped : Closed p s place f stack :=
          ⟨fun q hq u hstep ↦ (hclosed.steps q hq u hstep).pop hreached, hclosed.waits⟩
        obtain ⟨hg, hmeets⟩ := ih (by omega) hpopped
        exact ⟨hg, fun q hq ↦ hmeets q (hq.pop hreached)⟩
      · have hroom' := room_mark (Bool.eq_false_iff.mpr hreached) hroom
          (successors_le p place (s.take place).getLast? (s.drop place).head? t)
        obtain ⟨hg, hmeets⟩ :=
          ih (f := ⟨f.reached ||| 1 <<< t.state, waiting p t f.threads⟩) hroom' hclosed.mark
        exact ⟨hg, fun q hq ↦ hmeets q hq.mark⟩

/-- The steps of a program are enough for one more state. -/
theorem closed_follow {f : Frontier} (hclosed : Closed p s place f []) (t : Thread) :
    let g := follow p place (s.take place).getLast? (s.drop place).head? p.fuel [t] f
    Closed p s place g [] ∧ g.reached.testBit t.state = true ∧
      ∀ q, f.reached.testBit q = true → g.reached.testBit q = true := by
  have hroom : [t].length + 2 * (unreached p f.reached).card ≤ p.fuel := by
    have hle := card_unreached_le p f.reached
    rw [fuel, List.length_singleton]
    omega
  have hpending : Closed p s place f [t] :=
    ⟨fun q hq u hstep ↦ .inl (meets_nil.mp (hclosed.steps q hq u hstep)), hclosed.waits⟩
  obtain ⟨hg, hmeets⟩ := closed_followWithin p.fuel hroom hpending
  exact ⟨hg, hmeets _ (.inr ⟨t, List.mem_cons_self, rfl⟩), fun q hq ↦ hmeets q (.inl hq)⟩

/-! ### Reading a character -/

theorem closed_empty : Closed p s place {} [] :=
  ⟨fun q hq ↦ by simp at hq, fun q hq ↦ by simp at hq⟩

/-- Lets one thread read a character. -/
def readBy (p : Program) (place : Nat) (c : Char) (after : Option Char) (f : Frontier)
    (t : Thread) : Frontier :=
  match p.states[t.state]? with
  | some (.read set next) =>
    if set.has c then follow p place (some c) after p.fuel [⟨next, t.slots⟩] f else f
  | _ => f

theorem closed_readBy {c : Char} {rest : List Char} (hrest : s.drop place = c :: rest)
    {f : Frontier} (hclosed : Closed p s (place + 1) f []) (t : Thread) :
    let g := readBy p (place + 1) c rest.head? f t
    Closed p s (place + 1) g [] ∧
      (∀ set next, p.states[t.state]? = some (.read set next) → set.has c = true →
        g.reached.testBit next = true) ∧
      ∀ q, f.reached.testBit q = true → g.reached.testBit q = true := by
  obtain ⟨-, hbefore, hafter⟩ := surroundings_of_drop hrest
  have hfollow := closed_follow hclosed
  rw [hbefore, hafter] at hfollow
  dsimp only [readBy]
  split
  · rename_i set next hstate
    rw [hstate]
    obtain ⟨hg, hnext, hkept⟩ := hfollow ⟨next, t.slots⟩
    split_ifs with hset
    · refine ⟨hg, ?_, hkept⟩
      rintro _ _ ⟨⟩ -
      exact hnext
    · refine ⟨hclosed, ?_, fun _ hq ↦ hq⟩
      rintro _ _ ⟨⟩ hset'
      exact absurd hset' hset
  · rename_i hother
    exact ⟨hclosed, fun set next hstate _ ↦ absurd hstate (hother set next), fun _ hq ↦ hq⟩

theorem closed_foldl_readBy {c : Char} {rest : List Char} (hrest : s.drop place = c :: rest)
    (threads : List Thread) {f : Frontier} (hclosed : Closed p s (place + 1) f []) :
    let g := threads.foldl (readBy p (place + 1) c rest.head?) f
    Closed p s (place + 1) g [] ∧
      (∀ t ∈ threads, ∀ set next, p.states[t.state]? = some (.read set next) →
        set.has c = true → g.reached.testBit next = true) ∧
      ∀ q, f.reached.testBit q = true → g.reached.testBit q = true := by
  induction threads generalizing f with
  | nil => exact ⟨hclosed, by simp, fun _ hq ↦ hq⟩
  | cons t threads ih =>
    obtain ⟨hread, hnext, hkept⟩ := closed_readBy hrest hclosed t
    obtain ⟨hg, hothers, hmore⟩ := ih hread
    refine ⟨hg, List.forall_mem_cons.mpr ⟨fun set next hstate hset ↦ ?_, hothers⟩,
      fun q hq ↦ hmore q (hkept q hq)⟩
    exact hmore next (hnext set next hstate hset)

/-- A character leads every thread that reads it to its next state. -/
theorem closed_advance {c : Char} {rest : List Char} (hrest : s.drop place = c :: rest)
    (threads : List Thread) :
    let g := advance p (place + 1) c rest.head? threads
    Closed p s (place + 1) g [] ∧ ∀ t ∈ threads, ∀ set next,
      p.states[t.state]? = some (.read set next) → set.has c = true →
        g.reached.testBit next = true := by
  obtain ⟨hg, hnext, -⟩ := closed_foldl_readBy hrest threads closed_empty
  exact ⟨hg, hnext⟩

/-! ### What a search does not miss -/

/-- A run from a state that was reached goes through a thread that waits. -/
theorem Closed.exists_waiting {f : Frontier} (hclosed : Closed p s place f []) {q : Nat}
    (hq : f.reached.testBit q = true) (haccept : CanAccept p.states s place q) :
    ∃ t ∈ f.threads, Waits p t.state ∧ CanAccept p.states s place t.state := by
  obtain ⟨last, final, count, hrun⟩ := haccept
  generalize ht : (⟨q, []⟩ : Thread) = t at hrun
  obtain rfl : q = t.state := congrArg Thread.state ht
  clear ht
  induction hrun with
  | done hstate =>
    obtain ⟨w, hw, hsame⟩ := hclosed.waits _ hq (.inl hstate)
    exact ⟨w, hw, hsame ▸ .inl hstate, hsame ▸ .of_accept hstate⟩
  | step hstep hrun ih =>
    rcases hstep.stays_or_reads with rfl | ⟨set, next, hstate⟩
    · obtain ⟨slots, hstep⟩ := hstep.with_slots []
      exact ih hclosed (meets_nil.mp (hclosed.steps _ hq ⟨_, slots⟩ hstep))
    · obtain ⟨w, hw, hsame⟩ := hclosed.waits _ hq (.inr ⟨set, next, hstate⟩)
      obtain ⟨final, hrun⟩ := (Accepts.step hstep hrun).with_slots []
      exact ⟨w, hw, hsame ▸ .inr ⟨set, next, hstate⟩, hsame ▸ ⟨_, _, _, hrun⟩⟩

/-- Where no thread accepts, all of them go on. -/
theorem cutAtAccept_of_none {threads : List Thread} (hnone : (cutAtAccept p threads).2 = none) :
    (cutAtAccept p threads).1 = threads ∧
      ∀ t ∈ threads, p.states[t.state]? ≠ some .accept := by
  induction threads with
  | nil => simp [cutAtAccept]
  | cons t threads ih =>
    rw [cutAtAccept] at hnone ⊢
    split at hnone
    · cases hnone
    · rename_i hstate
      obtain ⟨hgoing, hothers⟩ := ih hnone
      exact ⟨congrArg (t :: ·) hgoing, List.forall_mem_cons.mpr ⟨hstate, hothers⟩⟩

theorem isSome_searchFrom_of_found {found : Option Slots} (hfound : found.isSome = true)
    (place : Nat) (before : Option Char) (f : Frontier) (rest : List Char) :
    (searchFrom p place before f found rest).isSome = true := by
  have hor (accepted : Option Slots) : (accepted.or found).isSome = true := by
    rw [Option.isSome_or, hfound, Bool.or_true]
  induction rest generalizing place before f found with
  | nil => exact hor _
  | cons c rest ih =>
    rw [searchFrom, if_pos hfound]
    dsimp only
    split_ifs
    · exact hor _
    · exact ih (hor _) _ _ _ fun accepted ↦ by rw [Option.isSome_or, hor, Bool.or_true]

/-- A run that accepts goes on behind a character that is read. -/
theorem CanAccept.of_read {q next : Nat} {set : Charset} (haccept : CanAccept p.states s place q)
    (hstate : p.states[q]? = some (.read set next)) :
    ∃ c, s[place]? = some c ∧ set.has c = true ∧ CanAccept p.states s (place + 1) next := by
  obtain ⟨last, final, count, hrun⟩ := haccept
  obtain ⟨⟨c, hchar, hset⟩, fewer, -, hrun⟩ := hrun.of_read hstate
  exact ⟨c, hchar, hset, last, final, fewer, hrun⟩

/-- Whether a run from a state that was reached accepts, or one that begins here or later. -/
def Pending (p : Program) (s : List Char) (place : Nat) (f : Frontier) : Prop :=
  (∃ q, f.reached.testBit q = true ∧ CanAccept p.states s place q) ∨
    ∃ later ≤ s.length, place ≤ later ∧ CanAccept p.states s later p.start

/-- Once a thread begins at a place, a run goes through a thread that waits, or begins later. -/
theorem Pending.begin {f : Frontier} (hclosed : Closed p s place f [])
    (hpending : Pending p s place f) :
    let g := follow p place (s.take place).getLast? (s.drop place).head? p.fuel [⟨p.start, []⟩] f
    (∃ t ∈ g.threads, Waits p t.state ∧ CanAccept p.states s place t.state) ∨
      ∃ later ≤ s.length, place < later ∧ CanAccept p.states s later p.start := by
  obtain ⟨hg, hstart, hkept⟩ := closed_follow hclosed ⟨p.start, []⟩
  rcases hpending with ⟨q, hq, haccept⟩ | ⟨later, hlater, hle, haccept⟩
  · exact .inl (hg.exists_waiting (hkept q hq) haccept)
  · rcases Nat.eq_or_lt_of_le hle with rfl | hlt
    · exact .inl (hg.exists_waiting hstart haccept)
    · exact .inr ⟨later, hlater, hlt, haccept⟩

/-- A search finds something as long as there is a run to be found. -/
theorem isSome_searchFrom {f : Frontier} {rest : List Char} (hrest : s.drop place = rest)
    (hclosed : Closed p s place f []) (hpending : Pending p s place f) :
    (searchFrom p place (s.take place).getLast? f none rest).isSome = true := by
  induction rest generalizing place f with
  | nil =>
    have hbegun := hpending.begin hclosed
    rw [hrest] at hbegun
    rw [searchFrom, if_neg (by simp), Option.or_none, Option.isSome_iff_ne_none]
    intro hnone
    have hcut := (cutAtAccept_of_none hnone).2
    rcases hbegun with ⟨t, ht, hstate | ⟨set, next, hstate⟩, haccept⟩ | ⟨later, hlater, hlt, -⟩
    · exact hcut t (List.mem_reverse.mpr ht) hstate
    · obtain ⟨c, hchar, -⟩ := haccept.of_read hstate
      rw [← List.head?_drop, hrest] at hchar
      cases hchar
    · have hle := List.drop_eq_nil_iff.mp hrest
      omega
  | cons c rest ih =>
    obtain ⟨hchar, hnext, hafter⟩ := surroundings_of_drop hrest
    have hbegun := hpending.begin hclosed
    rw [hrest, List.head?_cons] at hbegun
    rw [searchFrom, if_neg (by simp)]
    dsimp only at hbegun ⊢
    generalize follow p place (s.take place).getLast? (some c) p.fuel [⟨p.start, []⟩] f = g
      at hbegun ⊢
    rw [Option.or_none]
    cases haccepted : (cutAtAccept p g.threads.reverse).2 with
    | some slots =>
      split_ifs
      · rfl
      · exact isSome_searchFrom_of_found rfl _ _ _ _
    | none =>
      obtain ⟨hgoing, hcut⟩ := cutAtAccept_of_none haccepted
      rw [if_neg (by simp), hgoing, ← hnext]
      obtain ⟨hadvanced, hread⟩ := closed_advance hrest g.threads.reverse
      refine ih hafter hadvanced ?_
      rcases hbegun with ⟨t, ht, hstate | ⟨set, next, hstate⟩, haccept⟩ |
        ⟨later, hlater, hlt, haccept⟩
      · exact absurd hstate (hcut t (List.mem_reverse.mpr ht))
      · obtain ⟨c', hchar', hset, haccept⟩ := haccept.of_read hstate
        obtain rfl : c = c' := Option.some.inj (hchar.symm.trans hchar')
        exact .inl ⟨next, hread t (List.mem_reverse.mpr ht) set next hstate hset, haccept⟩
      · exact .inr ⟨later, hlater, hlt, haccept⟩

end

/-! ### Whole patterns -/

/-- A program matches a text exactly if its pattern reads a part of it. -/
theorem isMatch_iff {p : Program} {s : List Char} {n : Node} (hloops : n.LoopsAgree)
    (hprogram : ofNode? n = some p) :
    p.isMatch s = true ↔ ∃ first ≤ s.length, ∃ last, n.Reads s first last := by
  rw [ofNode?] at hprogram
  dsimp only at hprogram
  split_ifs at hprogram
  obtain rfl := Option.some.inj hprogram
  have hwhole : (Node.group 0 n).LoopsAgree := hloops
  have hagrees : Agrees (build (.group 0 n) 0 #[.accept]).2 (build (.group 0 n) 0 #[.accept]).2
      (#[.accept] : Array State).size := fun _ _ _ ↦ rfl
  have hbuilds := builds s hwhole
  constructor
  · intro hmatch
    obtain ⟨slots, hsearch⟩ := Option.isSome_iff_exists.mp hmatch
    obtain ⟨last, first, hfirst, length, hrun⟩ := finds_of_search hsearch
    obtain ⟨_, -, later, _, hreads, -, -⟩ := hbuilds.leads 0 #[.accept] _ hagrees hrun
    exact ⟨first, hfirst, later, hreads⟩
  · rintro ⟨first, hfirst, last, hreads⟩
    have haccept : (build (.group 0 n) 0 #[.accept]).2[0]? = some .accept :=
      (hbuilds.keeps 0 #[.accept]).2 0 (by simp)
    have hrun := completes s hwhole 0 #[.accept] _ hagrees hreads (.of_accept haccept)
    exact isSome_searchFrom rfl closed_empty (.inr ⟨first, hfirst, Nat.zero_le _, hrun⟩)

end Program

end Guildhall.Pattern
