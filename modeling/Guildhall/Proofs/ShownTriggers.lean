import Guildhall.Command.Overview
import Guildhall.Proofs.RegistryCalls
import Guildhall.Proofs.SetUps

/-!
The tokens that the overview shows. A line of the overview stands for a registered command that is
on, under the first trigger of the set-up that was registered last for it
(`HelpRequest.mem_overviewLines_iff`, `Builtin.exists_last_of_entry?_registry`). A token calls a
registered command only if its set-up lists the token and nothing registered after it does
(`Registry.entryOfTrigger?_registerAll_cons_iff`), which the overview does not look at: a line shows
a token that calls its command exactly under these conditions (`HelpRequest.shown_token_calls_iff`).
-/

set_option autoImplicit false

namespace Guildhall

/-! ### Set-ups in the order of registration -/

namespace Registry

variable {C : Type} {r : Registry C}

/-- A token calls a command after which none was registered for its id exactly if the command lists
the token and nothing registered after it does. -/
theorem entryOfTrigger?_registerAll_cons_iff (hr : r.IsKeyed) {e : RegistryEntry C}
    {later : List (RegistryEntry C)} (hids : ∀ e' ∈ later, e'.spec.id ≠ e.spec.id)
    (token : String) :
    (r.registerAll (e :: later)).entryOfTrigger? token = some e ↔
      triggerKey token ∈ e.spec.keys ∧ ∀ e' ∈ later, triggerKey token ∉ e'.spec.keys := by
  by_cases hlists : triggerKey token ∈ e.spec.keys
  · rw [entryOfTrigger?_registerAll_cons hr hids hlists, and_iff_right hlists]
  · refine iff_of_false (fun hcalled ↦ ?_) fun hboth ↦ hlists hboth.1
    rcases (entryOfTrigger?_registerAll hr _).mp hcalled with ⟨_, _, _, hlisted, _⟩ | ⟨_, hkeeps⟩
    · exact hlists hlisted
    · exact (hkeeps e List.mem_cons_self).1 rfl

/-- What a token calls is the entry of some id. -/
theorem exists_of_entryOfTrigger? {token : String} {e : RegistryEntry C}
    (he : r.entryOfTrigger? token = some e) : ∃ id, r.entry? id = some e := by
  obtain ⟨id, -, hid⟩ := Option.bind_eq_some_iff.mp he
  exact ⟨id, hid⟩

end Registry

namespace Builtin

/-- The entry of a built-in command has the last set-up that is for it. -/
theorem exists_last_of_entry?_registry {specs : List CommandSpec} {b : Builtin}
    {e : RegistryEntry Builtin} (he : Registry.entry? (registry specs) b.id = some e) :
    e.command = b ∧ ∃ before after, configured specs = before ++ e.spec :: after ∧
      e.spec.id = b.id ∧ ∀ s ∈ after, s.id ≠ b.id := by
  rw [entry?_registry, ← configured_filter, Option.map_eq_some_iff] at he
  obtain ⟨s, hlast, rfl⟩ := he
  rw [List.getLast?_filter, List.find?_eq_some_iff_append] at hlast
  obtain ⟨hid, after, before, hsplit, hafter⟩ := hlast
  refine ⟨rfl, before.reverse, after.reverse, ?_, by simpa using hid, by simpa using hafter⟩
  rw [← List.reverse_inj, hsplit]
  simp

/-- A token calls the command of a set-up, registered last for it, exactly if the set-up lists the
token and none of a built-in command that is registered after it does. -/
theorem entryOfTrigger?_registry_iff {specs before after : List CommandSpec} {s : CommandSpec}
    {b : Builtin} (hsplit : configured specs = before ++ s :: after) (hid : s.id = b.id)
    (hafter : ∀ s' ∈ after, s'.id ≠ b.id) (token : String) :
    (registry specs).entryOfTrigger? token = some { spec := s, command := b } ↔
      triggerKey token ∈ s.keys ∧
        ∀ s' ∈ after, triggerKey token ∈ s'.keys → ofId? s'.id = none := by
  have hentry : entryOf? s = some { spec := s, command := b } :=
    entryOf?_eq_some_iff.mpr ⟨rfl, hid⟩
  have hids : ∀ e ∈ after.filterMap entryOf?, e.spec.id ≠ s.id := by
    intro e he
    obtain ⟨s', hs', he⟩ := List.mem_filterMap.mp he
    obtain ⟨rfl, -⟩ := entryOf?_eq_some_iff.mp he
    exact hid ▸ hafter e.spec hs'
  rw [registry_eq, hsplit, List.filterMap_append, List.filterMap_cons_some hentry,
    Registry.registerAll_append, Registry.entryOfTrigger?_registerAll_cons_iff
      (Registry.isKeyed_empty.registerAll _) hids]
  refine and_congr_right fun _ ↦ ⟨fun hlater s' hs' hlists ↦ ?_, fun hlater e he hlists ↦ ?_⟩
  · by_contra hknown
    obtain ⟨b', hb'⟩ := Option.ne_none_iff_exists'.mp hknown
    have he : entryOf? s' = some { spec := s', command := b' } := by rw [entryOf?, hb']; rfl
    exact hlater _ (List.mem_filterMap.mpr ⟨s', hs', he⟩) hlists
  · obtain ⟨s', hs', he⟩ := List.mem_filterMap.mp he
    obtain ⟨rfl, hcommand⟩ := entryOf?_eq_some_iff.mp he
    have hnone := hlater e.spec hs' hlists
    rw [hcommand, ofId?_id] at hnone
    cases hnone

end Builtin

/-! ### Lines of the overview -/

namespace HelpRequest

theorem mem_overviewLines_iff {r : Registry Builtin} {token : String} {b : Builtin} :
    (token, b) ∈ overviewLines r ↔ ∃ id e, r.entry? id = some e ∧ r.isEnabled id = true ∧
      token = shownTrigger id e.spec.triggers ∧ b = e.command := by
  simp only [overviewLines, Registry.entries, Registry.entry?, List.mem_map, List.mem_filter,
    Prod.exists, Prod.mk.injEq, Table.mem_entries_iff, and_assoc, eq_comm]

variable {σ : Type}

/-- The overview has the lines of the registry, whether or not custom commands can be read. -/
theorem lines_of_run {st : RowStore σ CustomCommand} {r : Registry Builtin}
    {c : Cache CustomCommand} {s : σ} {lines : List (String × Builtin)} {custom : List String}
    (hanswer : (run st r overview c s).1 = .overview lines custom) : lines = overviewLines r := by
  rw [run] at hanswer
  rcases hlist : c.listAll st s with ⟨e | rows, c', s'⟩ <;> rw [hlist] at hanswer
  · exact (HelpAnswer.overview.inj hanswer).1.symm
  · exact (HelpAnswer.overview.inj hanswer).1.symm

/-- Every line of the overview stands for a command that is on, however commands were switched since
they were set up. It shows the first trigger of the last set-up for the command, which calls the
command exactly if that set-up lists the shown token and none that is registered after it does. -/
theorem shown_token_calls_iff (st : RowStore σ CustomCommand) (c : Cache CustomCommand) (s : σ)
    (specs : List CommandSpec) {calls : List (RegistryCall Builtin)}
    (hcalls : RegistryCall.registrations calls = []) {lines : List (String × Builtin)}
    {custom : List String} {token : String} {b : Builtin} :
    let r := RegistryCall.runAll calls (Builtin.registry specs)
    (run st r overview c s).1 = .overview lines custom → (token, b) ∈ lines →
      r.isEnabled b.id = true ∧ ∃ before setUp after,
        Builtin.configured specs = before ++ setUp :: after ∧ setUp.id = b.id ∧
        (∀ s' ∈ after, s'.id ≠ b.id) ∧ token = shownTrigger b.id setUp.triggers ∧
        ((r.entryOfTrigger? token).map (·.command) = some b ↔
          triggerKey token ∈ setUp.keys ∧
            ∀ s' ∈ after, triggerKey token ∈ s'.keys → Builtin.ofId? s'.id = none) := by
  intro r hanswer hline
  rw [lines_of_run hanswer] at hline
  obtain ⟨id, e, hentry, henabled, rfl, rfl⟩ := mem_overviewLines_iff.mp hline
  -- Switching changes no entry and no trigger, so that the registry is as it was set up.
  have hentries : ∀ id, r.entry? id = Registry.entry? (Builtin.registry specs) id := fun id ↦ by
    rw [RegistryCall.entry?_runAll, hcalls]
    rfl
  have htriggers : ∀ token,
      r.entryOfTrigger? token = (Builtin.registry specs).entryOfTrigger? token := fun token ↦ by
    rw [RegistryCall.entryOfTrigger?_runAll, hcalls]
    rfl
  rw [hentries] at hentry
  obtain ⟨rfl, hid⟩ := Builtin.ids_of_entry?_registry hentry
  rw [hid] at hentry henabled
  obtain ⟨-, before, after, hsplit, -, hafter⟩ := Builtin.exists_last_of_entry?_registry hentry
  refine ⟨henabled, before, e.spec, after, hsplit, hid, hafter, by rw [hid], ?_⟩
  rw [htriggers, ← Builtin.entryOfTrigger?_registry_iff hsplit hid hafter]
  -- The only entry of a command is the one under its id.
  constructor
  · intro hcalled
    obtain ⟨e', he', hcommand⟩ := Option.map_eq_some_iff.mp hcalled
    obtain ⟨id', hentry'⟩ := Registry.exists_of_entryOfTrigger? he'
    obtain ⟨rfl, hid'⟩ := Builtin.ids_of_entry?_registry hentry'
    rw [hid', hcommand, hentry] at hentry'
    rw [he', ← hentry']
  · intro hcalled
    rw [hcalled, Option.map_some]

/-- With `help` set up before, `ping` is shown under the trigger that it is configured with, and is
called by it. -/
theorem shown_token_calls_iff_help :
    let specs : List CommandSpec :=
      [{ id := "help", triggers := ["h"] }, { id := "ping", triggers := ["help"] }]
    let r := RegistryCall.runAll [.setOverride "perm" false] (Builtin.registry specs)
    (run RowStore.memory r overview { collection := .commands } ∅).1 =
        .overview (overviewLines r) [] ∧
      ("help", .ping) ∈ overviewLines r ∧ r.isEnabled "ping" = true ∧
      ∃ setUp ∈ Builtin.configured specs, setUp.id = "ping" ∧
        "help" = shownTrigger "ping" setUp.triggers ∧ triggerKey "help" ∈ setUp.keys := by
  intro specs r
  have hline : ("help", .ping) ∈ overviewLines r := by decide +kernel
  have hcalled : (r.entryOfTrigger? "help").map (·.command) = some .ping := by decide +kernel
  obtain ⟨henabled, before, setUp, after, hsplit, hid, -, hshown, hcalls⟩ :=
    shown_token_calls_iff RowStore.memory { collection := .commands } ∅ specs rfl rfl hline
  have hmem : setUp ∈ Builtin.configured specs := hsplit ▸ by simp
  exact ⟨rfl, hline, henabled, setUp, hmem, hid, hshown, (hcalls.mp hcalled).1⟩

/-- The token that a command is shown under can call another command. -/
theorem shown_token_calls_other :
    let r := Builtin.registry [{ id := "ping", triggers := ["commands"] }]
    ("commands", .ping) ∈ overviewLines r ∧ r.isEnabled "ping" = true ∧
      (r.entryOfTrigger? "commands").map (·.command) = some .help := by
  decide +kernel

end HelpRequest

end Guildhall
