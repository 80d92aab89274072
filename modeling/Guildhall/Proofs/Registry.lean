import Guildhall.Command.Builtin
import Guildhall.Proofs.Table

/-!
What a registry looks up after registrations in order. The entry of an id is the one that was
registered last for it (`Registry.entry?_registerAll`). A trigger calls the command that listed it
last, unless that command was registered anew since (`Registry.entryOfTrigger?_registerAll`). So a
trigger that a registered command lists calls a command only where nothing registered later has
listed it (`Registry.trigger_is_served_iff`): one that was taken over and then given up is dead.
-/

set_option autoImplicit false

namespace Guildhall

/-- The normal forms of the triggers that a set-up lists. -/
def CommandSpec.keys (spec : CommandSpec) : List String := spec.triggers.map triggerKey

/-- Whether later registrations leave a command one of its triggers: none of them is for its id, and
none lists the trigger. -/
def RegistryEntry.Keeps {C : Type} (e : RegistryEntry C) (key : String)
    (later : List (RegistryEntry C)) : Prop :=
  ∀ e' ∈ later, e'.spec.id ≠ e.spec.id ∧ key ∉ e'.spec.keys

namespace Registry

variable {C : Type} {r : Registry C}

/-! ### One registration -/

theorem entry?_register (r : Registry C) (spec : CommandSpec) (command : C) (id : String) :
    Registry.entry? (r.register spec command) id =
      if id = spec.id then some { spec, command } else r.entry? id :=
  Table.get?_insert ..

theorem get?_foldl_insert (triggers : List String) (id : String) (t : Table String String)
    (key : String) :
    (triggers.foldl (fun t trigger ↦ t.insert (triggerKey trigger) id) t).get? key =
      if key ∈ triggers.map triggerKey then some id else t.get? key := by
  induction triggers generalizing t with
  | nil => simp
  | cons trigger triggers ih =>
    rw [List.foldl_cons, ih, Table.get?_insert, List.map_cons]
    by_cases hlater : key ∈ triggers.map triggerKey
    · simp [hlater]
    · simp [hlater]

theorem get?_byTrigger_register (r : Registry C) (spec : CommandSpec) (command : C)
    (key : String) :
    (r.register spec command).byTrigger.get? key =
      if key ∈ spec.keys then some spec.id
      else (r.byTrigger.get? key).filter (· ≠ spec.id) := by
  rw [register, get?_foldl_insert, Table.get?_filter, CommandSpec.keys]

/-- Whether every entry stands under its own id. -/
def IsKeyed (r : Registry C) : Prop := ∀ id e, r.entry? id = some e → e.spec.id = id

theorem isKeyed_empty : (∅ : Registry C).IsKeyed := fun _ _ he ↦ by cases he

theorem IsKeyed.register (hr : r.IsKeyed) (spec : CommandSpec) (command : C) :
    (r.register spec command).IsKeyed := by
  intro id e he
  rw [entry?_register] at he
  split_ifs at he with hid
  · rw [← Option.some.inj he, hid]
  · exact hr id e he

/-- A registration takes the triggers that it lists, and what was called before by another one stays
called unless its id is the same. -/
theorem entryOfTrigger?_register (hr : r.IsKeyed) (spec : CommandSpec) (command : C)
    (token : String) :
    (r.register spec command).entryOfTrigger? token =
      if triggerKey token ∈ spec.keys then some { spec, command }
      else (r.entryOfTrigger? token).filter (·.spec.id ≠ spec.id) := by
  rw [entryOfTrigger?, get?_byTrigger_register]
  split_ifs with hlists
  · rw [Option.bind_some, entry?_register, if_pos rfl]
  · cases htrigger : r.byTrigger.get? (triggerKey token) with
    | none => simp [entryOfTrigger?, htrigger]
    | some id =>
      rw [entryOfTrigger?, htrigger, Option.bind_some]
      by_cases hid : id = spec.id
      · have hgone : (r.entry? id).filter (·.spec.id ≠ spec.id) = none := by
          rw [Option.filter_eq_none_iff]
          intro e he
          simp [hr id e he, hid]
        rw [hgone]
        simp [hid]
      · rw [Option.filter_some_pos (by simpa using hid), Option.bind_some, entry?_register,
          if_neg hid]
        cases hentry : r.entry? id with
        | none => rfl
        | some e => simp [Option.filter, hr id e hentry, hid]

/-- Two tokens call the same command in every registry exactly if they have one normal form. -/
theorem entryOfTrigger?_eq_iff {token token' : String} :
    (∀ (C : Type) (r : Registry C), r.entryOfTrigger? token = r.entryOfTrigger? token') ↔
      triggerKey token = triggerKey token' := by
  constructor
  · intro halike
    -- The registry in which `token` is the one trigger there is tells the two apart.
    have hfound := halike Unit ((∅ : Registry Unit).register { id := "", triggers := [token] } ())
    rw [entryOfTrigger?_register isKeyed_empty, entryOfTrigger?_register isKeyed_empty] at hfound
    have hempty : (∅ : Registry Unit).entryOfTrigger? token' = none := rfl
    by_contra hne
    simp [CommandSpec.keys, Ne.symm hne, hempty] at hfound
  · intro hsame C r
    rw [entryOfTrigger?, entryOfTrigger?, hsame]

/-! ### Registrations in order -/

/-- A registry after registrations, the first one first. -/
def registerAll (r : Registry C) (l : List (RegistryEntry C)) : Registry C :=
  l.foldl (fun r e ↦ r.register e.spec e.command) r

theorem registerAll_cons (r : Registry C) (e : RegistryEntry C) (l : List (RegistryEntry C)) :
    r.registerAll (e :: l) = (r.register e.spec e.command).registerAll l := rfl

theorem registerAll_append (r : Registry C) (l l' : List (RegistryEntry C)) :
    r.registerAll (l ++ l') = (r.registerAll l).registerAll l' :=
  List.foldl_append

theorem IsKeyed.registerAll (hr : r.IsKeyed) (l : List (RegistryEntry C)) :
    (r.registerAll l).IsKeyed := by
  induction l generalizing r with
  | nil => exact hr
  | cons e l ih => exact ih (hr.register e.spec e.command)

/-- The entry of an id is the one that was registered last for it. -/
theorem entry?_registerAll (r : Registry C) (l : List (RegistryEntry C)) (id : String) :
    Registry.entry? (r.registerAll l) id =
      (l.filter (·.spec.id = id)).getLast?.or (r.entry? id) := by
  induction l generalizing r with
  | nil => rfl
  | cons e l ih =>
    rw [registerAll_cons, ih, entry?_register, List.filter_cons]
    by_cases hid : e.spec.id = id
    · simp [hid, List.getLast?_cons, Option.or_some]
    · simp [hid, Ne.symm hid]

theorem entry?_registerAll_of_other (r : Registry C) {l : List (RegistryEntry C)} {id : String}
    (hl : ∀ e ∈ l, e.spec.id ≠ id) : Registry.entry? (r.registerAll l) id = r.entry? id := by
  have hnone : l.filter (·.spec.id = id) = [] := by simpa using hl
  rw [entry?_registerAll, hnone]
  rfl

/-- The entry of an id that was registered is one of the registrations. -/
theorem mem_of_entry?_registerAll (r : Registry C) {l : List (RegistryEntry C)} {id : String}
    (hl : ∃ e ∈ l, e.spec.id = id) {e : RegistryEntry C}
    (he : Registry.entry? (r.registerAll l) id = some e) : e ∈ l := by
  obtain ⟨d, hd, hid⟩ := hl
  have hne : l.filter (·.spec.id = id) ≠ [] :=
    List.ne_nil_of_mem (List.mem_filter.mpr ⟨hd, decide_eq_true hid⟩)
  rw [entry?_registerAll, List.getLast?_eq_some_getLast hne, Option.some_or,
    Option.some.injEq] at he
  exact List.mem_of_mem_filter (he ▸ List.getLast_mem hne)

/-- A token calls the command that listed its trigger last, unless that command was registered anew
since, or else what it called before. -/
theorem entryOfTrigger?_registerAll (hr : r.IsKeyed) (l : List (RegistryEntry C)) {token : String}
    {e : RegistryEntry C} :
    (r.registerAll l).entryOfTrigger? token = some e ↔
      (∃ before after, l = before ++ e :: after ∧ triggerKey token ∈ e.spec.keys ∧
        e.Keeps (triggerKey token) after) ∨
      r.entryOfTrigger? token = some e ∧ e.Keeps (triggerKey token) l := by
  -- The first registration goes to the registry from which the others start.
  induction l generalizing r with
  | nil => simp [registerAll, RegistryEntry.Keeps]
  | cons d l ih =>
    rw [registerAll_cons, ih (hr.register d.spec d.command), entryOfTrigger?_register hr]
    constructor
    · rintro (⟨before, after, rfl, hlast⟩ | ⟨hcalled, hkeeps⟩)
      · exact Or.inl ⟨d :: before, after, rfl, hlast⟩
      · split_ifs at hcalled with hlists
        · obtain rfl : d = e := Option.some.inj hcalled
          exact Or.inl ⟨[], l, rfl, hlists, hkeeps⟩
        · obtain ⟨hbefore, hid⟩ := Option.filter_eq_some_iff.mp hcalled
          have hother : e.spec.id ≠ d.spec.id := by simpa using hid
          exact Or.inr ⟨hbefore, List.forall_mem_cons.mpr ⟨⟨hother.symm, hlists⟩, hkeeps⟩⟩
    · rintro (⟨before, after, hsplit, hlists, hkeeps⟩ | ⟨hbefore, hkeeps⟩)
      · rcases List.cons_eq_append_iff.mp hsplit with ⟨rfl, hcons⟩ | ⟨before, rfl, rfl⟩
        · obtain ⟨rfl, rfl⟩ := List.cons.inj hcons
          exact Or.inr ⟨if_pos hlists, hkeeps⟩
        · exact Or.inl ⟨before, after, rfl, hlists, hkeeps⟩
      · obtain ⟨⟨hid, hlists⟩, hkeeps⟩ := List.forall_mem_cons.mp hkeeps
        refine Or.inr ⟨?_, hkeeps⟩
        rw [if_neg hlists, Option.filter_eq_some_iff]
        exact ⟨hbefore, decide_eq_true (Ne.symm hid)⟩

/-- A command is called by a trigger that it lists exactly if none that is registered after it, for
other ids, lists the trigger. -/
theorem entryOfTrigger?_registerAll_cons (hr : r.IsKeyed) {e : RegistryEntry C}
    {later : List (RegistryEntry C)} (hids : ∀ e' ∈ later, e'.spec.id ≠ e.spec.id) {token : String}
    (hlists : triggerKey token ∈ e.spec.keys) :
    (r.registerAll (e :: later)).entryOfTrigger? token = some e ↔
      ∀ e' ∈ later, triggerKey token ∉ e'.spec.keys := by
  rw [registerAll_cons, entryOfTrigger?_registerAll (hr.register e.spec e.command),
    entryOfTrigger?_register hr, if_pos hlists]
  constructor
  · rintro (⟨before, after, rfl, -⟩ | ⟨-, hkeeps⟩)
    · exact absurd rfl (hids e (by simp))
    · exact fun e' he' ↦ (hkeeps e' he').2
  · exact fun hlater ↦ Or.inr ⟨rfl, fun e' he' ↦ ⟨hids e' he', hlater e' he'⟩⟩

/-- A token calls a command exactly if one that is registered lists its trigger and none that was
registered after it has listed it, be it that this one was registered anew since. -/
theorem trigger_is_served_iff (l : List (RegistryEntry C)) (token : String) :
    let r := (∅ : Registry C).registerAll l
    (r.entryOfTrigger? token).isSome ↔
      ∃ before lister after, l = before ++ lister :: after ∧
        r.entry? lister.spec.id = some lister ∧ triggerKey token ∈ lister.spec.keys ∧
        ∀ e ∈ after, triggerKey token ∉ e.spec.keys := by
  dsimp only
  rw [Option.isSome_iff_exists]
  constructor
  · rintro ⟨lister, hlister⟩
    rcases (entryOfTrigger?_registerAll isKeyed_empty l).mp hlister with
      ⟨before, after, rfl, hlists, hkeeps⟩ | ⟨hempty, -⟩
    · refine ⟨before, lister, after, rfl, ?_, hlists, fun e he ↦ (hkeeps e he).2⟩
      rw [registerAll_append, registerAll_cons,
        entry?_registerAll_of_other _ fun e he ↦ (hkeeps e he).1, entry?_register, if_pos rfl]
    · cases hempty
  · rintro ⟨before, lister, after, rfl, hregistered, hlists, hlast⟩
    refine ⟨lister, (entryOfTrigger?_registerAll isKeyed_empty _).mpr (Or.inl
      ⟨before, after, rfl, hlists, fun e he ↦ ⟨fun hid ↦ ?_, hlast e he⟩⟩)⟩
    -- A later registration for the id would have made another entry of it.
    rw [registerAll_append, registerAll_cons] at hregistered
    exact hlast lister (mem_of_entry?_registerAll _ ⟨e, he, hid⟩ hregistered) hlists

/-- A trigger that `help` takes over from `perm` and then gives up calls nothing, though `perm`
lists it still. -/
theorem trigger_given_up_is_dead :
    let r := (∅ : Registry Builtin).registerAll [
      { spec := { id := "perm", triggers := ["ask"] }, command := .perm },
      { spec := { id := "help", triggers := ["ask"] }, command := .help },
      { spec := { id := "help", triggers := ["help"] }, command := .help }]
    (r.entry? "perm").map (·.spec.triggers) = some ["ask"] ∧
      (r.entryOfTrigger? "ask").isSome = false := by
  decide +kernel

end Registry

end Guildhall
