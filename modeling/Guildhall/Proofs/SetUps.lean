import Guildhall.Proofs.NormalTriggers
import Guildhall.Proofs.Registry

/-!
The set-ups of the built-in commands in their registry. The defaults of a command are merged into
the first set-up that is for it, and the last one is registered (`Builtin.entry?_registry`), so that
of several set-ups for one command the last one may lack them (`Builtin.defaults_fill_in_iff`).
Where the set-ups are for different commands, each gets its defaults in its place and the commands
without one follow (`Builtin.mergeAll_eq`). What is registered later takes triggers over: a
configured trigger calls its command exactly if it is no default trigger of a command that is set up
later or not at all (`Builtin.configured_trigger_calls_iff`).
-/

set_option autoImplicit false

namespace Guildhall

open Text

namespace CommandSpec

/-! ### The triggers of a set-up -/

theorem hasTrigger_iff (spec : CommandSpec) (t : String) :
    spec.hasTrigger t = true ↔
      ∃ t' ∈ spec.triggers, toAsciiLower t'.toList = toAsciiLower t.toList := by
  simp [hasTrigger]

/-- A trigger that a set-up has, in any case of its ASCII letters, is one that it lists. -/
theorem triggerKey_mem_keys {spec : CommandSpec} {t : String} (ht : spec.hasTrigger t = true) :
    triggerKey t ∈ spec.keys := by
  obtain ⟨t', hmem, hsame⟩ := (spec.hasTrigger_iff t).mp ht
  refine List.mem_map.mpr ⟨t', hmem, ?_⟩
  rw [triggerKey, ← normalizeTrigger_toAsciiLower, hsame, normalizeTrigger_toAsciiLower, triggerKey]

/-- Adds a trigger, unless the set-up has it. -/
def addTrigger (spec : CommandSpec) (t : String) : CommandSpec :=
  if spec.hasTrigger t then spec else { spec with triggers := spec.triggers ++ [t] }

@[simp] theorem id_addTrigger (spec : CommandSpec) (t : String) :
    (spec.addTrigger t).id = spec.id := by
  unfold addTrigger
  split_ifs <;> rfl

theorem triggers_prefix_addTrigger (spec : CommandSpec) (t : String) :
    spec.triggers <+: (spec.addTrigger t).triggers := by
  unfold addTrigger
  split_ifs
  · exact List.prefix_refl _
  · exact List.prefix_append _ _

theorem hasTrigger_addTrigger (spec : CommandSpec) (t : String) :
    (spec.addTrigger t).hasTrigger t = true := by
  unfold addTrigger
  split_ifs with hhas
  · exact hhas
  · simp [hasTrigger]

theorem mem_keys_addTrigger (spec : CommandSpec) (t key : String) :
    key ∈ (spec.addTrigger t).keys ↔ key ∈ spec.keys ∨ key = triggerKey t := by
  unfold addTrigger
  split_ifs with hhas
  · have hlisted := triggerKey_mem_keys hhas
    exact ⟨Or.inl, fun hor ↦ hor.elim (fun hkey ↦ hkey) fun heq ↦ heq ▸ hlisted⟩
  · simp [keys]

theorem addTriggers_cons (spec : CommandSpec) (t : String) (ts : List String) :
    spec.addTriggers (t :: ts) = (spec.addTrigger t).addTriggers ts := rfl

@[simp] theorem id_addTriggers (spec : CommandSpec) (ts : List String) :
    (spec.addTriggers ts).id = spec.id := by
  induction ts generalizing spec with
  | nil => rfl
  | cons t ts ih => rw [addTriggers_cons, ih, id_addTrigger]

/-- The triggers of a set-up stay in front where others are added. -/
theorem triggers_prefix_addTriggers (spec : CommandSpec) (ts : List String) :
    spec.triggers <+: (spec.addTriggers ts).triggers := by
  induction ts generalizing spec with
  | nil => exact List.prefix_refl _
  | cons t ts ih => exact (spec.triggers_prefix_addTrigger t).trans (ih _)

theorem hasTrigger_addTriggers (spec : CommandSpec) {ts : List String} {t : String} (ht : t ∈ ts) :
    (spec.addTriggers ts).hasTrigger t = true := by
  induction ts generalizing spec with
  | nil => cases ht
  | cons t' ts ih =>
    rw [addTriggers_cons]
    rcases List.mem_cons.mp ht with rfl | ht
    · obtain ⟨t', hmem, hsame⟩ := (hasTrigger_iff _ t).mp (spec.hasTrigger_addTrigger t)
      exact (hasTrigger_iff _ t).mpr
        ⟨t', (triggers_prefix_addTriggers _ ts).subset hmem, hsame⟩
    · exact ih _ ht

/-- A set-up to which triggers are added lists what it listed before, and those. -/
theorem mem_keys_addTriggers (spec : CommandSpec) (ts : List String) (key : String) :
    key ∈ (spec.addTriggers ts).keys ↔ key ∈ spec.keys ∨ key ∈ ts.map triggerKey := by
  induction ts generalizing spec with
  | nil => simp [addTriggers]
  | cons t ts ih =>
    rw [addTriggers_cons, ih, mem_keys_addTrigger, List.map_cons, List.mem_cons, or_assoc]

end CommandSpec

namespace Builtin

/-! ### Merging -/

theorem eq_of_id {b b' : Builtin} (hid : b.id = b'.id) : b = b' := by
  have hsome : some b = some b' := by rw [← ofId?_id b, ← ofId?_id b', hid]
  exact Option.some.inj hsome

/-- The set-ups with the defaults of some commands merged in. -/
def mergeAll (bs : List Builtin) (specs : List CommandSpec) : List CommandSpec :=
  bs.foldl (fun specs b ↦ b.merge specs) specs

theorem configured_eq_mergeAll (specs : List CommandSpec) :
    configured specs = mergeAll all specs := rfl

theorem mergeAll_append (bs bs' : List Builtin) (specs : List CommandSpec) :
    mergeAll (bs ++ bs') specs = mergeAll bs' (mergeAll bs specs) :=
  List.foldl_append

theorem mergeAll_cons (b : Builtin) (bs : List Builtin) (specs : List CommandSpec) :
    mergeAll (b :: bs) specs = mergeAll bs (b.merge specs) := rfl

theorem merge_filter_self (b : Builtin) (specs : List CommandSpec) :
    (b.merge specs).filter (·.id = b.id) = b.merge (specs.filter (·.id = b.id)) := by
  induction specs with
  | nil => simp [merge, spec]
  | cons s specs ih =>
    by_cases hid : s.id = b.id
    · simp [merge, hid]
    · simp [merge, hid, ih]

theorem merge_filter_of_ne {b b' : Builtin} (hne : b' ≠ b) (specs : List CommandSpec) :
    (b'.merge specs).filter (·.id = b.id) = specs.filter (·.id = b.id) := by
  have hid : b'.id ≠ b.id := fun hid ↦ hne (eq_of_id hid)
  induction specs with
  | nil => simp [merge, spec, hid]
  | cons s specs ih =>
    by_cases hs : s.id = b'.id
    · simp [merge, hs, hid]
    · simp [merge, hs, List.filter_cons, ih]

theorem mergeAll_filter_of_notMem {bs : List Builtin} {b : Builtin} (hbs : b ∉ bs)
    (specs : List CommandSpec) :
    (mergeAll bs specs).filter (·.id = b.id) = specs.filter (·.id = b.id) := by
  induction bs generalizing specs with
  | nil => rfl
  | cons b' bs ih =>
    obtain ⟨hne, hbs⟩ := not_or.mp (List.mem_cons.not.mp hbs)
    rw [mergeAll_cons, ih hbs, merge_filter_of_ne (Ne.symm hne)]

theorem nodup_all : all.Nodup := by decide

/-- Of the set-ups of all commands, those of one command are its own with its defaults merged. -/
theorem configured_filter (specs : List CommandSpec) (b : Builtin) :
    (configured specs).filter (·.id = b.id) = b.merge (specs.filter (·.id = b.id)) := by
  obtain ⟨before, after, hall⟩ := List.append_of_mem (mem_all b)
  have hnodup := nodup_all
  rw [hall, List.nodup_append, List.nodup_cons] at hnodup
  obtain ⟨-, ⟨hafter, -⟩, hapart⟩ := hnodup
  have hbefore : b ∉ before := fun hb ↦ hapart b hb b List.mem_cons_self rfl
  rw [configured_eq_mergeAll, hall, mergeAll_append, mergeAll_cons,
    mergeAll_filter_of_notMem hafter, merge_filter_self, mergeAll_filter_of_notMem hbefore]

/-! ### The registry -/

/-- The entry that a set-up makes, if it is for a built-in command. -/
def entryOf? (s : CommandSpec) : Option (RegistryEntry Builtin) :=
  (ofId? s.id).map fun b ↦ { spec := s, command := b }

theorem entryOf?_eq_some_iff {s : CommandSpec} {e : RegistryEntry Builtin} :
    entryOf? s = some e ↔ s = e.spec ∧ s.id = e.command.id := by
  constructor
  · intro he
    obtain ⟨b, hb, rfl⟩ := Option.map_eq_some_iff.mp he
    have hid := List.find?_some hb
    exact ⟨rfl, (beq_iff_eq.mp hid).symm⟩
  · rintro ⟨rfl, hid⟩
    rw [entryOf?, hid, ofId?_id, Option.map_some]

theorem registry_eq (specs : List CommandSpec) :
    registry specs =
      (∅ : Registry Builtin).registerAll ((configured specs).filterMap entryOf?) := by
  rw [registry, Registry.registerAll, List.foldl_filterMap]
  congr 1
  funext r s
  rw [entryOf?]
  cases ofId? s.id with
  | none => rfl
  | some b => rfl

theorem filterMap_entryOf?_filter (specs : List CommandSpec) (b : Builtin) :
    (specs.filterMap entryOf?).filter (·.spec.id = b.id) =
      (specs.filter (·.id = b.id)).map fun s ↦ { spec := s, command := b } := by
  induction specs with
  | nil => rfl
  | cons s specs ih =>
    by_cases hid : s.id = b.id
    · have he : entryOf? s = some { spec := s, command := b } := entryOf?_eq_some_iff.mpr ⟨rfl, hid⟩
      simp [he, hid, ih]
    · cases he : entryOf? s with
      | none => simp [he, hid, ih]
      | some e =>
        obtain ⟨rfl, -⟩ := entryOf?_eq_some_iff.mp he
        simp [he, hid, ih]

/-- The entry of a built-in command has the last of the set-ups that are for it. -/
theorem entry?_registry (specs : List CommandSpec) (b : Builtin) :
    Registry.entry? (registry specs) b.id =
      (b.merge (specs.filter (·.id = b.id))).getLast?.map fun s ↦ { spec := s, command := b } := by
  have hempty : Registry.entry? (∅ : Registry Builtin) b.id = none := rfl
  rw [registry_eq, Registry.entry?_registerAll, filterMap_entryOf?_filter, configured_filter,
    hempty, Option.or_none, List.getLast?_map]

/-- Every entry is for the built-in command of the id under which it stands. -/
theorem ids_of_entry?_registry {specs : List CommandSpec} {id : String}
    {e : RegistryEntry Builtin} (he : Registry.entry? (registry specs) id = some e) :
    e.spec.id = id ∧ e.spec.id = e.command.id := by
  have hempty : Registry.entry? (∅ : Registry Builtin) id = none := rfl
  rw [registry_eq, Registry.entry?_registerAll, hempty, Option.or_none] at he
  obtain ⟨hregistered, hid⟩ := List.mem_filter.mp (List.mem_of_getLast? he)
  obtain ⟨s, -, hs⟩ := List.mem_filterMap.mp hregistered
  obtain ⟨rfl, hcommand⟩ := entryOf?_eq_some_iff.mp hs
  exact ⟨of_decide_eq_true hid, hcommand⟩

theorem exists_of_entry?_registry {specs : List CommandSpec} {id : String}
    (hentry : (Registry.entry? (registry specs) id).isSome) : ∃ b : Builtin, id = b.id := by
  obtain ⟨e, he⟩ := Option.isSome_iff_exists.mp hentry
  obtain ⟨rfl, hcommand⟩ := ids_of_entry?_registry he
  exact ⟨e.command, hcommand⟩

/-- Without a configuration every command is registered as set up by default. -/
theorem entry?_registry_nil (b : Builtin) :
    Registry.entry? (registry []) b.id = some { spec := b.spec, command := b } := by
  rw [entry?_registry]
  rfl

/-- Without a configuration every default trigger calls its command. -/
theorem entryOfTrigger?_registry_nil {b : Builtin} {t : String} (ht : t ∈ b.triggers) :
    (registry []).entryOfTrigger? t = some { spec := b.spec, command := b } := by
  have hall : ∀ b ∈ all, ∀ t ∈ b.triggers,
      (registry []).entryOfTrigger? t = some { spec := b.spec, command := b } := by
    decide +kernel
  exact hall b (mem_all b) t ht

/-! ### Default triggers -/

/-- A default trigger is its own normal form. -/
theorem triggerKey_trigger {b : Builtin} {t : String} (ht : t ∈ b.triggers) : triggerKey t = t := by
  have hsmall : ∀ b ∈ all, ∀ t ∈ b.triggers,
      (t.toList.all fun c ↦ 0x61 ≤ c.toNat && c.toNat ≤ 0x7A) = true := by decide
  simp only [List.all_eq_true, Bool.and_eq_true, decide_eq_true_eq] at hsmall
  rw [triggerKey_eq_self_iff]
  exact isNormalTrigger_of_small (hsmall b (mem_all b) t ht)

theorem map_triggerKey_triggers (b : Builtin) : b.triggers.map triggerKey = b.triggers :=
  (List.map_congr_left fun _ ht ↦ triggerKey_trigger ht).trans (List.map_id _)

theorem hasTrigger_spec {b : Builtin} {t : String} (ht : t ∈ b.triggers) :
    b.spec.hasTrigger t = true :=
  (CommandSpec.hasTrigger_iff _ _).mpr ⟨t, ht, rfl⟩

/-- Of the set-ups for a command, with its defaults merged, the last one has all default triggers
exactly if there is at most one or the last one had them all. -/
theorem exists_getLast?_merge {b : Builtin} {own : List CommandSpec}
    (hown : ∀ s ∈ own, s.id = b.id) :
    ∃ s, (b.merge own).getLast? = some s ∧
      ((∀ t ∈ b.triggers, s.hasTrigger t = true) ↔
        own.length ≤ 1 ∨ ∀ s ∈ own.getLast?, ∀ t ∈ b.triggers, s.hasTrigger t = true) := by
  cases own with
  | nil => exact ⟨b.spec, rfl, iff_of_true (fun t ht ↦ hasTrigger_spec ht) (Or.inl (by simp))⟩
  | cons s rest =>
    have hmerge : b.merge (s :: rest) = s.addTriggers b.triggers :: rest :=
      if_pos (hown s List.mem_cons_self)
    rw [hmerge]
    cases rest with
    | nil =>
      exact ⟨_, rfl, iff_of_true (fun t ht ↦ s.hasTrigger_addTriggers ht) (Or.inl (by simp))⟩
    | cons s' rest =>
      -- The defaults went to the first set-up, and the last one is another.
      have hlast := List.getLast?_eq_some_getLast (List.cons_ne_nil s' rest)
      refine ⟨_, by rw [List.getLast?_cons_cons, hlast], ?_⟩
      rw [List.getLast?_cons_cons, hlast]
      simp

/-- Every built-in command is registered, and its entry has all of its default triggers exactly if
at most one set-up is for it or the last of these has them all. -/
theorem defaults_fill_in_iff (specs : List CommandSpec) (b : Builtin) :
    let own := specs.filter (·.id = b.id)
    ∃ s, Registry.entry? (registry specs) b.id = some { spec := s, command := b } ∧
      ((∀ t ∈ b.triggers, s.hasTrigger t = true) ↔
        own.length ≤ 1 ∨ ∀ s ∈ own.getLast?, ∀ t ∈ b.triggers, s.hasTrigger t = true) := by
  intro own
  have hown : ∀ s ∈ own, s.id = b.id := fun s hs ↦ by simpa using (List.mem_filter.mp hs).2
  obtain ⟨s, hlast, hdefaults⟩ := exists_getLast?_merge hown
  refine ⟨s, ?_, hdefaults⟩
  rw [entry?_registry, hlast, Option.map_some]

/-- Of two set-ups for one command the second one takes over without the default trigger, which then
calls nothing. -/
theorem second_setUp_lacks_default :
    let s : CommandSpec := { id := "ping", triggers := ["q"] }
    let r := registry [{ id := "ping", triggers := ["p"] }, s]
    r.entry? "ping" = some { spec := s, command := .ping } ∧ "ping" ∈ ping.triggers ∧
      s.hasTrigger "ping" = false ∧ r.entryOfTrigger? "ping" = none := by
  decide +kernel

/-! ### The order of registration -/

theorem merge_of_new {b : Builtin} {specs : List CommandSpec} (hnew : ∀ s ∈ specs, s.id ≠ b.id) :
    b.merge specs = specs ++ [b.spec] := by
  induction specs with
  | nil => rfl
  | cons s specs ih =>
    obtain ⟨hid, hnew⟩ := List.forall_mem_cons.mp hnew
    rw [merge, if_neg hid, ih hnew, List.cons_append]

theorem mergeAll_of_new {bs : List Builtin} (hbs : bs.Nodup) {specs : List CommandSpec}
    (hnew : ∀ b ∈ bs, ∀ s ∈ specs, s.id ≠ b.id) :
    mergeAll bs specs = specs ++ bs.map spec := by
  induction bs generalizing specs with
  | nil => simp [mergeAll]
  | cons b bs ih =>
    obtain ⟨hfirst, hbs⟩ := List.nodup_cons.mp hbs
    obtain ⟨hb, hnew⟩ := List.forall_mem_cons.mp hnew
    have hlater : ∀ b' ∈ bs, ∀ s ∈ specs ++ [b.spec], s.id ≠ b'.id := by
      intro b' hb' s hs
      rcases List.mem_append.mp hs with hs | hs
      · exact hnew b' hb' s hs
      · rw [List.mem_singleton.mp hs]
        exact fun hid ↦ hfirst (eq_of_id hid ▸ hb')
    rw [mergeAll_cons, merge_of_new hb, ih hbs hlater, List.map_cons, List.append_assoc,
      List.singleton_append]

theorem mergeAll_cons_of_other {bs : List Builtin} {s : CommandSpec}
    (hbs : ∀ b ∈ bs, s.id ≠ b.id) (specs : List CommandSpec) :
    mergeAll bs (s :: specs) = s :: mergeAll bs specs := by
  induction bs generalizing specs with
  | nil => rfl
  | cons b bs ih =>
    obtain ⟨hb, hbs⟩ := List.forall_mem_cons.mp hbs
    rw [mergeAll_cons, merge, if_neg hb, ih hbs, mergeAll_cons]

/-- A set-up is for none but one of different commands. -/
theorem ne_of_nodup_middle {before after : List Builtin} {b : Builtin}
    (hnodup : (before ++ b :: after).Nodup) {s : CommandSpec} (hid : s.id = b.id) :
    ∀ b' ∈ before ++ after, s.id ≠ b'.id := by
  intro b' hb' hsame
  obtain rfl : b' = b := eq_of_id (hsame.symm.trans hid)
  exact (List.nodup_cons.mp (List.nodup_middle.mp hnodup)).1 hb'

/-- The first set-up gets the defaults of its command, and the defaults of the others are merged
into the rest. -/
theorem mergeAll_cons_of_own {before after : List Builtin} {b : Builtin}
    (hnodup : (before ++ b :: after).Nodup) {s : CommandSpec} (hid : s.id = b.id)
    (specs : List CommandSpec) :
    mergeAll (before ++ b :: after) (s :: specs) =
      s.addTriggers b.triggers :: mergeAll (before ++ after) specs := by
  have hother := List.forall_mem_append.mp (ne_of_nodup_middle hnodup hid)
  have hafter : ∀ b' ∈ after, (s.addTriggers b.triggers).id ≠ b'.id := by
    simpa using hother.2
  rw [mergeAll_append, mergeAll_cons_of_other hother.1, mergeAll_cons, merge, if_pos hid,
    mergeAll_cons_of_other hafter, mergeAll_append]

/-- A set-up with the default triggers of its command. -/
def filled (s : CommandSpec) : CommandSpec :=
  match ofId? s.id with
  | some b => s.addTriggers b.triggers
  | none => s

theorem filled_eq {s : CommandSpec} {b : Builtin} (hid : s.id = b.id) :
    filled s = s.addTriggers b.triggers := by
  rw [filled, hid, ofId?_id]

theorem id_filled (s : CommandSpec) : (filled s).id = s.id := by
  unfold filled
  split
  · exact CommandSpec.id_addTriggers ..
  · rfl

/-- The commands that none of the set-ups is for. -/
def unset (bs : List Builtin) (specs : List CommandSpec) : List Builtin :=
  bs.filter fun b ↦ ∀ s ∈ specs, s.id ≠ b.id

theorem unset_cons {before after : List Builtin} {b : Builtin}
    (hnodup : (before ++ b :: after).Nodup) {s : CommandSpec} (hid : s.id = b.id)
    (specs : List CommandSpec) :
    unset (before ++ b :: after) (s :: specs) = unset (before ++ after) specs := by
  have hset : ¬ ∀ s' ∈ s :: specs, s'.id ≠ b.id := fun hnew ↦ hnew s List.mem_cons_self hid
  rw [unset, List.filter_append, List.filter_cons_of_neg (by simpa using hset),
    ← List.filter_append, unset]
  refine List.filter_congr fun b' hb' ↦ ?_
  simp [ne_of_nodup_middle hnodup hid b' hb']

/-- Where the set-ups are for different commands, each gets its defaults in its place, and the
commands without one follow. -/
theorem mergeAll_eq {bs : List Builtin} (hbs : bs.Nodup) {specs : List CommandSpec}
    (hids : specs.Pairwise (·.id ≠ ·.id)) (hspecs : ∀ s ∈ specs, ∃ b ∈ bs, s.id = b.id) :
    mergeAll bs specs = specs.map filled ++ (unset bs specs).map spec := by
  -- The first set-up takes its command out of the list, and the others are for those that stay.
  induction specs generalizing bs with
  | nil => simp [mergeAll_of_new hbs, unset]
  | cons s specs ih =>
    obtain ⟨hfirst, hids⟩ := List.pairwise_cons.mp hids
    obtain ⟨⟨b, hb, hid⟩, hspecs⟩ := List.forall_mem_cons.mp hspecs
    obtain ⟨before, after, rfl⟩ := List.append_of_mem hb
    obtain ⟨-, hnodup⟩ := List.nodup_cons.mp (List.nodup_middle.mp hbs)
    have hrest : ∀ s' ∈ specs, ∃ b' ∈ before ++ after, s'.id = b'.id := by
      intro s' hs'
      obtain ⟨b', hb', hid'⟩ := hspecs s' hs'
      have hne : b' ≠ b := fun heq ↦ hfirst s' hs' (by rw [hid, hid', heq])
      exact ⟨b', by simpa [hne] using hb', hid'⟩
    rw [mergeAll_cons_of_own hbs hid, ih hnodup hids hrest, unset_cons hbs hid, List.map_cons,
      filled_eq hid, List.cons_append]

/-! ### Configured triggers -/

/-- Set-ups of different built-in commands that have no trigger in common. -/
structure AreApart (specs : List CommandSpec) : Prop where
  known : ∀ s ∈ specs, ∃ b : Builtin, s.id = b.id
  ids : specs.Pairwise (·.id ≠ ·.id)
  triggers : specs.Pairwise fun s s' ↦
    ∀ t ∈ s.triggers, ∀ t' ∈ s'.triggers, triggerKey t ≠ triggerKey t'

/-- What is registered after some of the set-ups: those that follow, and the commands that none is
for. -/
def registeredAfter (specs after : List CommandSpec) : List (RegistryEntry Builtin) :=
  (after.map filled ++ (unset all specs).map spec).filterMap entryOf?

theorem mem_registeredAfter_iff {specs after : List CommandSpec} {e : RegistryEntry Builtin} :
    e ∈ registeredAfter specs after ↔
      (∃ s ∈ after, s.id = e.command.id ∧ e.spec = s.addTriggers e.command.triggers) ∨
      (∀ s ∈ specs, s.id ≠ e.command.id) ∧ e.spec = e.command.spec := by
  simp only [registeredAfter, unset, List.mem_filterMap, List.mem_append, List.mem_map,
    List.mem_filter, decide_eq_true_eq, entryOf?_eq_some_iff]
  constructor
  · rintro ⟨_, ⟨s, hs, rfl⟩ | ⟨b, ⟨-, hnew⟩, rfl⟩, hspec, hid⟩
    · rw [id_filled] at hid
      exact Or.inl ⟨s, hs, hid, by rw [← hspec, filled_eq hid]⟩
    · obtain rfl : b = e.command := eq_of_id hid
      exact Or.inr ⟨hnew, hspec.symm⟩
  · rintro (⟨s, hs, hid, hspec⟩ | ⟨hnew, hspec⟩)
    · refine ⟨_, Or.inl ⟨s, hs, rfl⟩, ?_⟩
      rw [filled_eq hid]
      exact ⟨hspec.symm, by rw [CommandSpec.id_addTriggers, hid]⟩
    · exact ⟨_, Or.inr ⟨e.command, ⟨mem_all _, hnew⟩, rfl⟩, hspec.symm, rfl⟩

theorem id_of_mem_registeredAfter {specs after : List CommandSpec} {e : RegistryEntry Builtin}
    (he : e ∈ registeredAfter specs after) : e.spec.id = e.command.id := by
  obtain ⟨s, -, hs⟩ := List.mem_filterMap.mp he
  obtain ⟨rfl, hid⟩ := entryOf?_eq_some_iff.mp hs
  exact hid

/-- A command that is not the one of a set-up nor set up before it is registered after it. -/
theorem exists_registeredAfter {before after : List CommandSpec} {s : CommandSpec} {b : Builtin}
    (hs : s.id ≠ b.id) (hbefore : ∀ s' ∈ before, s'.id ≠ b.id) :
    ∃ e ∈ registeredAfter (before ++ s :: after) after, e.command = b := by
  by_cases hafter : ∃ s' ∈ after, s'.id = b.id
  · obtain ⟨s', hs', hid⟩ := hafter
    exact ⟨{ spec := s'.addTriggers b.triggers, command := b },
      mem_registeredAfter_iff.mpr (Or.inl ⟨s', hs', hid, rfl⟩), rfl⟩
  · have hnew : ∀ s' ∈ before ++ s :: after, s'.id ≠ b.id := by
      intro s' hs'
      rcases List.mem_append.mp hs' with hs' | hs'
      · exact hbefore s' hs'
      · rcases List.mem_cons.mp hs' with rfl | hs'
        · exact hs
        · exact fun hid ↦ hafter ⟨s', hs', hid⟩
    exact ⟨{ spec := b.spec, command := b },
      mem_registeredAfter_iff.mpr (Or.inr ⟨hnew, rfl⟩), rfl⟩

section Apart

variable {before after : List CommandSpec} {s : CommandSpec} {b : Builtin}

/-- A set-up is registered with its default triggers, before those that follow it and before the
commands without one. -/
theorem AreApart.registry_eq (hspecs : AreApart (before ++ s :: after)) (hid : s.id = b.id) :
    ∃ r : Registry Builtin, r.IsKeyed ∧ registry (before ++ s :: after) =
      r.registerAll ({ spec := s.addTriggers b.triggers, command := b } ::
        registeredAfter (before ++ s :: after) after) := by
  refine ⟨(∅ : Registry Builtin).registerAll ((before.map filled).filterMap entryOf?),
    Registry.isKeyed_empty.registerAll _, ?_⟩
  have hentry : entryOf? (s.addTriggers b.triggers) =
      some { spec := s.addTriggers b.triggers, command := b } :=
    entryOf?_eq_some_iff.mpr ⟨rfl, by rw [CommandSpec.id_addTriggers, hid]⟩
  have hknown : ∀ s' ∈ before ++ s :: after, ∃ b' ∈ all, s'.id = b'.id := fun s' hs' ↦
    (hspecs.known s' hs').imp fun b' hid' ↦ ⟨mem_all b', hid'⟩
  rw [Builtin.registry_eq, configured_eq_mergeAll, mergeAll_eq nodup_all hspecs.ids hknown,
    List.map_append, List.map_cons, filled_eq hid, List.append_assoc, List.cons_append,
    List.filterMap_append, List.filterMap_cons_some hentry, Registry.registerAll_append,
    registeredAfter]

/-- What is registered after a set-up is for commands that neither it nor a set-up before it is
for. -/
theorem AreApart.command_of_mem (hspecs : AreApart (before ++ s :: after)) (hid : s.id = b.id)
    {e : RegistryEntry Builtin} (he : e ∈ registeredAfter (before ++ s :: after) after) :
    e.command ≠ b ∧ ∀ s' ∈ before, s'.id ≠ e.command.id := by
  obtain ⟨-, hafter, hbefore⟩ := List.pairwise_append.mp hspecs.ids
  rcases mem_registeredAfter_iff.mp he with ⟨s', hs', hid', -⟩ | ⟨hnew, -⟩
  · refine ⟨fun hsame ↦ ?_, fun s'' hs'' hsame ↦ ?_⟩
    · exact (List.pairwise_cons.mp hafter).1 s' hs' (by rw [hid, hid', hsame])
    · exact hbefore s'' hs'' s' (List.mem_cons_of_mem s hs') (hsame.trans hid'.symm)
  · exact ⟨fun hsame ↦ hnew s (by simp) (by rw [hid, hsame]), fun s' hs' ↦ hnew s' (by simp [hs'])⟩

/-- A trigger of a set-up is listed by what is registered after it only where it is one of the
default triggers there. -/
theorem AreApart.mem_keys_iff (hspecs : AreApart (before ++ s :: after)) {t : String}
    (ht : t ∈ s.triggers) {e : RegistryEntry Builtin}
    (he : e ∈ registeredAfter (before ++ s :: after) after) :
    triggerKey t ∈ e.spec.keys ↔ triggerKey t ∈ e.command.triggers := by
  rcases mem_registeredAfter_iff.mp he with ⟨s', hs', -, hspec⟩ | ⟨-, hspec⟩
  · have hnot : triggerKey t ∉ s'.keys := by
      intro hlists
      obtain ⟨t', ht', hsame⟩ := List.mem_map.mp hlists
      obtain ⟨-, hafter, -⟩ := List.pairwise_append.mp hspecs.triggers
      exact (List.pairwise_cons.mp hafter).1 s' hs' t ht t' ht' hsame.symm
    rw [hspec, CommandSpec.mem_keys_addTriggers, map_triggerKey_triggers, or_iff_right hnot]
  · rw [hspec, CommandSpec.keys, spec, map_triggerKey_triggers]

/-- A trigger of a set-up calls its command exactly if every other command that has it as a default
trigger is set up before. -/
theorem configured_trigger_calls_iff (hspecs : AreApart (before ++ s :: after))
    (hid : s.id = b.id) {t : String} (ht : t ∈ s.triggers) :
    (registry (before ++ s :: after)).entryOfTrigger? t =
        some { spec := s.addTriggers b.triggers, command := b } ↔
      ∀ b' : Builtin, triggerKey t ∈ b'.triggers → b' = b ∨ ∃ s' ∈ before, s'.id = b'.id := by
  obtain ⟨r, hr, hregistry⟩ := hspecs.registry_eq hid
  have hlists : triggerKey t ∈ (s.addTriggers b.triggers).keys :=
    (CommandSpec.mem_keys_addTriggers ..).mpr (Or.inl (List.mem_map_of_mem ht))
  have hids : ∀ e ∈ registeredAfter (before ++ s :: after) after,
      e.spec.id ≠ (s.addTriggers b.triggers).id := by
    intro e he hsame
    rw [id_of_mem_registeredAfter he, CommandSpec.id_addTriggers, hid] at hsame
    exact (hspecs.command_of_mem hid he).1 (eq_of_id hsame)
  -- Only what is registered later takes the trigger over, and it lists it only by default.
  rw [hregistry, Registry.entryOfTrigger?_registerAll_cons hr hids hlists]
  constructor
  · intro hnone b' hb'
    by_contra hother
    obtain ⟨hne, hbefore⟩ := not_or.mp hother
    have hs : s.id ≠ b'.id := fun hsame ↦ hne (eq_of_id (hsame.symm.trans hid))
    obtain ⟨e, he, rfl⟩ : ∃ e ∈ registeredAfter (before ++ s :: after) after, e.command = b' :=
      exists_registeredAfter hs fun s' hs' hid' ↦ hbefore ⟨s', hs', hid'⟩
    exact hnone e he ((hspecs.mem_keys_iff ht he).mpr hb')
  · intro hdefaults e he hlisted
    obtain ⟨hne, hbefore⟩ := hspecs.command_of_mem hid he
    rcases hdefaults e.command ((hspecs.mem_keys_iff ht he).mp hlisted) with hsame | ⟨s', hs', hid'⟩
    · exact hne hsame
    · exact hbefore s' hs' hid'

end Apart

/-- With `help` set up before, `ping` has the trigger that it is configured with. -/
theorem configured_trigger_calls_iff_help :
    let s : CommandSpec := { id := "ping", triggers := ["help"] }
    let after : List CommandSpec := [{ id := "perm", triggers := ["ask"] }]
    (registry ({ id := "help", triggers := ["h"] } :: s :: after)).entryOfTrigger? "help" =
      some { spec := { id := "ping", triggers := ["help", "ping"] }, command := .ping } := by
  intro s after
  let before : List CommandSpec := [{ id := "help", triggers := ["h"] }]
  have hspecs : AreApart (before ++ s :: after) := {
    known := by
      simp only [before, after, List.cons_append, List.nil_append, List.forall_mem_cons]
      exact ⟨⟨.help, rfl⟩, ⟨.ping, rfl⟩, ⟨.perm, rfl⟩, by simp⟩
    ids := by decide
    triggers := by decide }
  have hadded : s.addTriggers ping.triggers =
      { id := "ping", triggers := ["help", "ping"] } := by decide
  have hcalls : (registry (before ++ s :: after)).entryOfTrigger? "help" =
      some { spec := s.addTriggers ping.triggers, command := .ping } ↔ _ :=
    configured_trigger_calls_iff hspecs rfl List.mem_cons_self
  rw [← hadded]
  refine hcalls.mpr fun b' hb' ↦ ?_
  cases b' <;> revert hb' <;> decide

/-- A set-up does not win the default trigger of a command that is not set up before. -/
theorem default_takes_configured_trigger :
    let s : CommandSpec := { id := "ping", triggers := ["help"] }
    AreApart [s] ∧
      (registry [s]).entryOfTrigger? "help" = some { spec := help.spec, command := .help } := by
  intro s
  refine ⟨⟨?_, List.pairwise_singleton .., List.pairwise_singleton ..⟩, by decide +kernel⟩
  intro s' hs'
  exact ⟨.ping, congrArg CommandSpec.id (List.mem_singleton.mp hs')⟩

end Builtin

end Guildhall
