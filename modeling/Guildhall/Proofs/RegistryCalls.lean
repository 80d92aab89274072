import Guildhall.Proofs.Registry
import Mathlib.Data.List.Induction

/-!
Registries between calls of any kind. Switching a command and leaving it to its set-up again change
neither entries nor triggers, so that these are as after the registrations alone
(`RegistryCall.entryOfTrigger?_runAll`). A registration forgets what its command was switched to,
and then the last call that switches it decides (`RegistryCall.get?_overrides_runAll`). So what a
token calls was registered last for its id, still lists the token, has lost it to no other command,
and is on as it was last switched since (`RegistryCall.called_iff_registered_last`).
-/

set_option autoImplicit false

namespace Guildhall

/-- A call that changes a registry. -/
inductive RegistryCall (C : Type) where
  | register (entry : RegistryEntry C)
  | setOverride (id : String) (enabled : Bool)
  | clearOverride (id : String)
  deriving Repr, DecidableEq

namespace RegistryCall

variable {C : Type}

/-- What a call leaves of a registry. -/
def run (call : RegistryCall C) (r : Registry C) : Registry C :=
  match call with
  | register e => r.register e.spec e.command
  | setOverride id enabled => r.setOverride id enabled
  | clearOverride id => r.clearOverride id

/-- What calls leave of a registry, the first one first. -/
def runAll (calls : List (RegistryCall C)) (r : Registry C) : Registry C :=
  calls.foldl (fun r call ↦ call.run r) r

/-- The entry that a call registers. -/
def registered? : RegistryCall C → Option (RegistryEntry C)
  | register e => some e
  | setOverride _ _ | clearOverride _ => none

/-- The entries that calls register. -/
def registrations (calls : List (RegistryCall C)) : List (RegistryEntry C) :=
  calls.filterMap registered?

/-- What a call makes of the switching of a command: it is switched on or off, or it is left to its
set-up again. -/
def switched? (id : String) : RegistryCall C → Option (Option Bool)
  | register _ => none
  | setOverride id' enabled => if id' = id then some (some enabled) else none
  | clearOverride id' => if id' = id then some none else none

/-- What a command was last switched to, unless it was left to its set-up again since. -/
def lastSwitched? (id : String) (calls : List (RegistryCall C)) : Option Bool :=
  (calls.filterMap (switched? id)).getLast?.join

theorem runAll_append (calls calls' : List (RegistryCall C)) (r : Registry C) :
    runAll (calls ++ calls') r = runAll calls' (runAll calls r) :=
  List.foldl_append

theorem runAll_concat (calls : List (RegistryCall C)) (call : RegistryCall C) (r : Registry C) :
    runAll (calls ++ [call]) r = call.run (runAll calls r) :=
  runAll_append ..

theorem registrations_append (calls calls' : List (RegistryCall C)) :
    registrations (calls ++ calls') = registrations calls ++ registrations calls' :=
  List.filterMap_append

theorem registrations_register (e : RegistryEntry C) (calls : List (RegistryCall C)) :
    registrations (register e :: calls) = e :: registrations calls := rfl

theorem mem_registrations_iff {calls : List (RegistryCall C)} {e : RegistryEntry C} :
    e ∈ registrations calls ↔ register e ∈ calls := by
  rw [registrations, List.mem_filterMap]
  constructor
  · rintro ⟨call, hcall, he⟩
    cases call with
    | register e' => rwa [← Option.some.inj he]
    | setOverride id enabled => cases he
    | clearOverride id => cases he
  · exact fun hcall ↦ ⟨register e, hcall, rfl⟩

/-- Calls that register an entry after others are split where it is registered. -/
theorem registrations_eq_append_cons_iff {calls : List (RegistryCall C)}
    {before after : List (RegistryEntry C)} {e : RegistryEntry C} :
    registrations calls = before ++ e :: after ↔
      ∃ calls₁ calls₂, calls = calls₁ ++ register e :: calls₂ ∧ registrations calls₁ = before ∧
        registrations calls₂ = after := by
  constructor
  · intro hsplit
    obtain ⟨calls₁, rest, rfl, rfl, hrest⟩ := List.filterMap_eq_append_iff.mp hsplit
    obtain ⟨others, call, calls₂, rfl, hothers, hcall, rfl⟩ := List.filterMap_eq_cons_iff.mp hrest
    obtain rfl : call = register e := by
      cases call with
      | register e' => exact congrArg register (Option.some.inj hcall)
      | setOverride id enabled => cases hcall
      | clearOverride id => cases hcall
    have hnone : registrations others = [] := List.filterMap_eq_nil_iff.mpr hothers
    refine ⟨calls₁ ++ others, calls₂, by simp, ?_, rfl⟩
    rw [registrations_append, hnone, List.append_nil, registrations]
  · rintro ⟨calls₁, calls₂, rfl, rfl, rfl⟩
    rw [registrations_append, registrations_register]

/-! ### Entries and triggers -/

/-- Calls leave what their registrations alone leave, but for what commands are switched to. -/
theorem runAll_eq (calls : List (RegistryCall C)) (r : Registry C) :
    runAll calls r =
      { r.registerAll (registrations calls) with overrides := (runAll calls r).overrides } := by
  induction calls using List.reverseRecOn with
  | nil => rfl
  | append_singleton calls call ih =>
    rw [runAll_concat, registrations_append, Registry.registerAll_append]
    cases call with
    | register e | setOverride id enabled | clearOverride id =>
      rw [ih]
      rfl

/-- The entries are those of the registrations alone. -/
theorem entry?_runAll (calls : List (RegistryCall C)) (r : Registry C) (id : String) :
    Registry.entry? (runAll calls r) id =
      Registry.entry? (r.registerAll (registrations calls)) id := by
  rw [runAll_eq]
  rfl

/-- A token calls what it calls after the registrations alone. -/
theorem entryOfTrigger?_runAll (calls : List (RegistryCall C)) (r : Registry C) (token : String) :
    (runAll calls r).entryOfTrigger? token =
      (r.registerAll (registrations calls)).entryOfTrigger? token := by
  rw [runAll_eq]
  rfl

/-! ### Switching -/

/-- A call switches a command as it says, and no other, unless it registers the command. -/
theorem get?_overrides_run {call : RegistryCall C} {id : String}
    (hcall : ∀ e ∈ call.registered?, e.spec.id ≠ id) (r : Registry C) :
    (call.run r).overrides.get? id = (call.switched? id).getD (r.overrides.get? id) := by
  cases call with
  | register e => exact (Table.get?_erase ..).trans (if_neg (Ne.symm (hcall e rfl)))
  | setOverride id' enabled =>
    refine (Table.get?_insert ..).trans ?_
    by_cases hid : id' = id
    · simp [switched?, hid]
    · simp [switched?, hid, Ne.symm hid]
  | clearOverride id' =>
    refine (Table.get?_erase ..).trans ?_
    by_cases hid : id' = id
    · simp [switched?, hid]
    · simp [switched?, hid, Ne.symm hid]

/-- A command that is not registered anew is switched as the last call that switches it says. -/
theorem get?_overrides_runAll {calls : List (RegistryCall C)} {id : String}
    (hcalls : ∀ e ∈ registrations calls, e.spec.id ≠ id) (r : Registry C) :
    (runAll calls r).overrides.get? id =
      (calls.filterMap (switched? id)).getLast?.getD (r.overrides.get? id) := by
  induction calls using List.reverseRecOn with
  | nil => rfl
  | append_singleton calls call ih =>
    rw [registrations_append] at hcalls
    obtain ⟨hcalls, hlast⟩ := List.forall_mem_append.mp hcalls
    have hcall : ∀ e ∈ call.registered?, e.spec.id ≠ id := fun e he ↦
      hlast e (List.mem_filterMap.mpr ⟨call, List.mem_singleton_self call, he⟩)
    rw [runAll_concat, get?_overrides_run hcall, ih hcalls, List.filterMap_append,
      List.getLast?_append]
    cases hswitched : call.switched? id with
    | none => simp [hswitched]
    | some switched => simp [hswitched]

/-- A command is on as it was last switched since it was registered, or else as its set-up says. -/
theorem isEnabled_runAll_register (e : RegistryEntry C) {calls : List (RegistryCall C)}
    (hcalls : ∀ e' ∈ registrations calls, e'.spec.id ≠ e.spec.id) (r : Registry C) :
    (runAll (register e :: calls) r).isEnabled e.spec.id =
      (lastSwitched? e.spec.id calls).getD e.spec.enabled := by
  have hentry : Registry.entry? (runAll (register e :: calls) r) e.spec.id = some e := by
    rw [entry?_runAll, registrations_register, Registry.registerAll_cons,
      Registry.entry?_registerAll_of_other _ hcalls, Registry.entry?_register, if_pos rfl]
  have hforgotten : (run (register e) r).overrides.get? e.spec.id = none :=
    (Table.get?_erase ..).trans (if_pos rfl)
  have hswitched : (runAll (register e :: calls) r).overrides.get? e.spec.id =
      lastSwitched? e.spec.id calls := by
    rw [← List.singleton_append, runAll_append, get?_overrides_runAll hcalls, lastSwitched?]
    cases (calls.filterMap (switched? e.spec.id)).getLast? with
    | none => exact hforgotten
    | some switched => rfl
  rw [Registry.isEnabled, hentry, hswitched, Option.any_some]

/-- A token calls an entry exactly if the entry was registered, lists the token, and neither its id
nor the token was registered again since. Then the command is on as it was last switched since
that registration, or else as its set-up says. -/
theorem called_iff_registered_last (calls : List (RegistryCall C)) (token : String)
    (e : RegistryEntry C) :
    let r := runAll calls ∅
    r.entryOfTrigger? token = some e ↔
      ∃ before after, calls = before ++ register e :: after ∧ triggerKey token ∈ e.spec.keys ∧
        (∀ e', register e' ∈ after → e'.spec.id ≠ e.spec.id ∧ triggerKey token ∉ e'.spec.keys) ∧
        r.isEnabled e.spec.id = (lastSwitched? e.spec.id after).getD e.spec.enabled := by
  intro r
  have hempty : (∅ : Registry C).entryOfTrigger? token ≠ some e := fun he ↦ by cases he
  rw [entryOfTrigger?_runAll, Registry.entryOfTrigger?_registerAll Registry.isKeyed_empty,
    or_iff_left fun he ↦ hempty he.1]
  constructor
  · rintro ⟨_, _, hsplit, hlists, hkeeps⟩
    obtain ⟨before, after, rfl, -, rfl⟩ := registrations_eq_append_cons_iff.mp hsplit
    refine ⟨before, after, rfl, hlists, fun e' he' ↦ hkeeps e' (mem_registrations_iff.mpr he'), ?_⟩
    have hids : ∀ e' ∈ registrations after, e'.spec.id ≠ e.spec.id := fun e' he' ↦ (hkeeps e' he').1
    have hrun : r = runAll (register e :: after) (runAll before ∅) := runAll_append ..
    rw [hrun, isEnabled_runAll_register e hids]
  · rintro ⟨before, after, rfl, hlists, hkeeps, -⟩
    exact ⟨registrations before, registrations after,
      registrations_eq_append_cons_iff.mpr ⟨before, after, rfl, rfl, rfl⟩, hlists,
      fun e' he' ↦ hkeeps e' (mem_registrations_iff.mp he')⟩

end RegistryCall

end Guildhall
