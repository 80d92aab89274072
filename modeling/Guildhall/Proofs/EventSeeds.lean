import Guildhall.Guild.Events
import Guildhall.Proofs.Table
import Mathlib.Data.String.Basic

/-!
Seeds of events. A seed may list an event under several names, spellings that have one normal form.
Only the last of them counts: its members are those of the event
(`Events.members?_ofSeed_eq_some_iff`). So nobody who is listed is lost exactly if the last spelling
lists all whom the others list (`Events.seeded_members_are_in_iff`).
-/

set_option autoImplicit false

namespace Guildhall

/-- The last pair of a table that satisfies a condition is the one with the greatest key. -/
theorem Table.getLast?_filter_eq_some_iff {V : Type} {t : Table String V} {p : String → Bool}
    {key : String} {v : V} : (t.entries.filter (p ·.1)).getLast? = some (key, v) ↔
      t.get? key = some v ∧ p key = true ∧ ∀ later ∈ t.keys, p later = true → later ≤ key := by
  have hascending : (t.entries.filter (p ·.1)).Pairwise (·.1 < ·.1) := t.ascending.filter _
  have hmem : ∀ key v, (key, v) ∈ t.entries.filter (p ·.1) ↔ t.get? key = some v ∧ p key = true :=
    fun key v ↦ by rw [List.mem_filter, mem_entries_iff]
  constructor
  · intro hlast
    obtain ⟨earlier, hsplit⟩ := List.getLast?_eq_some_iff.mp hlast
    obtain ⟨hget, hkey⟩ := (hmem key v).mp (hsplit ▸ List.mem_append_right _ List.mem_cons_self)
    refine ⟨hget, hkey, fun later hlater hp ↦ ?_⟩
    obtain ⟨v', hget'⟩ := Option.isSome_iff_exists.mp (mem_keys_iff.mp hlater)
    have hother := (hmem later v').mpr ⟨hget', hp⟩
    rw [hsplit, List.mem_append, List.mem_singleton] at hother
    rw [hsplit, List.pairwise_append] at hascending
    rcases hother with hearlier | hsame
    · exact le_of_lt (hascending.2.2 _ hearlier _ List.mem_cons_self)
    · exact le_of_eq (congrArg Prod.fst hsame)
  · rintro ⟨hget, hkey, hgreatest⟩
    have hthere := (hmem key v).mpr ⟨hget, hkey⟩
    obtain ⟨⟨last, final⟩, hlast⟩ :=
      Option.isSome_iff_exists.mp (List.getLast?_isSome.mpr (List.ne_nil_of_mem hthere))
    obtain ⟨earlier, hsplit⟩ := List.getLast?_eq_some_iff.mp hlast
    obtain ⟨hget', hp⟩ := (hmem last final).mp (List.mem_of_getLast? hlast)
    have hle := hgreatest last (mem_keys_iff.mpr (Option.isSome_of_eq_some hget')) hp
    rw [hsplit, List.mem_append, List.mem_singleton] at hthere
    rw [hsplit, List.pairwise_append] at hascending
    rcases hthere with hearlier | hsame
    · exact absurd (hascending.2.2 _ hearlier _ List.mem_cons_self) (not_lt_of_ge hle)
    · rw [hlast, hsame]

namespace Events

/-- The names of a seed that are for an event. -/
def IsSpelling (seed : Table String (List String)) (event name : String) : Prop :=
  name ∈ seed.keys ∧ normalName name = normalName event

instance (seed : Table String (List String)) (event : String) :
    DecidablePred (IsSpelling seed event) := fun _ ↦ inferInstanceAs (Decidable (_ ∧ _))

/-- The name of a seed for an event that no other of them follows. -/
def IsLastSpelling (seed : Table String (List String)) (event name : String) : Prop :=
  IsSpelling seed event name ∧ ∀ later, IsSpelling seed event later → later ≤ name

theorem members?_ofSeed (seed : Table String (List String)) (event : String) :
    (ofSeed seed).members? event =
      (seed.entries.filter fun e ↦ normalName e.1 = normalName event).getLast?.map (·.2) := by
  rw [members?, ofSeed, Table.get?_ofList, ← List.map_reverse, List.find?_map, Option.map_map,
    ← List.head?_reverse, ← List.filter_reverse, List.head?_filter]
  simp only [Function.comp_def]

/-- An event has the members that the last of its spellings lists. -/
theorem members?_ofSeed_eq_some_iff {seed : Table String (List String)} {event : String}
    {present : List String} : (ofSeed seed).members? event = some present ↔
      ∃ last, IsLastSpelling seed event last ∧ seed.get? last = some present := by
  rw [members?_ofSeed, Option.map_eq_some_iff, Prod.exists]
  refine exists_congr fun last ↦ ?_
  simp only [exists_eq_right, IsLastSpelling, IsSpelling]
  rw [Table.getLast?_filter_eq_some_iff (p := fun name ↦ normalName name = normalName event)]
  simp only [decide_eq_true_eq, and_imp, Table.mem_keys_iff]
  constructor
  · rintro ⟨hget, hname, hgreatest⟩
    exact ⟨⟨⟨Option.isSome_of_eq_some hget, hname⟩, hgreatest⟩, hget⟩
  · rintro ⟨⟨⟨-, hname⟩, hgreatest⟩, hget⟩
    exact ⟨hget, hname, hgreatest⟩

/-- There is no event exactly if it has no spelling. -/
theorem members?_ofSeed_eq_none_iff {seed : Table String (List String)} {event : String} :
    (ofSeed seed).members? event = none ↔ ∀ name, ¬ IsSpelling seed event name := by
  rw [members?_ofSeed, Option.map_eq_none_iff, List.getLast?_eq_none_iff, List.filter_eq_nil_iff]
  simp only [IsSpelling, Table.keys, List.mem_map, Prod.forall, decide_eq_true_eq]
  constructor
  · rintro hnone name ⟨⟨⟨_, listed⟩, hmem, rfl⟩, hname⟩
    exact hnone _ listed hmem hname
  · exact fun hnone name listed hmem hname ↦ hnone name ⟨⟨(name, listed), hmem, rfl⟩, hname⟩

/-- After any seed an event is absent exactly if no name of the seed has its normal form, and
everyone who is listed under such a name is in it exactly if the last of these names, by code
points, lists everyone whom another of them lists. -/
theorem seeded_members_are_in_iff (seed : Table String (List String)) (event : String) :
    ((ofSeed seed).members? event = none ↔ ∀ name, ¬ IsSpelling seed event name) ∧
      ((∀ name listed, IsSpelling seed event name → seed.get? name = some listed →
          ∃ present, (ofSeed seed).members? event = some present ∧ listed ⊆ present) ↔
        ∀ name listed last final, IsSpelling seed event name → seed.get? name = some listed →
          IsLastSpelling seed event last → seed.get? last = some final → listed ⊆ final) := by
  refine ⟨members?_ofSeed_eq_none_iff, ⟨?_, ?_⟩⟩
  · intro hall name listed last final hname hlisted hlast hfinal
    obtain ⟨present, hpresent, hsubset⟩ := hall name listed hname hlisted
    have hmembers := members?_ofSeed_eq_some_iff.mpr ⟨last, hlast, hfinal⟩
    rwa [← Option.some.inj (hpresent.symm.trans hmembers)]
  · intro hlists name listed hname hlisted
    cases hmembers : (ofSeed seed).members? event with
    | none => exact absurd hname (members?_ofSeed_eq_none_iff.mp hmembers name)
    | some present =>
      obtain ⟨last, hlast, hfinal⟩ := members?_ofSeed_eq_some_iff.mp hmembers
      exact ⟨present, rfl, hlists name listed last present hname hlisted hlast hfinal⟩

/-- Whoever is listed under a spelling that another one follows is lost. -/
theorem earlier_spelling_is_lost :
    let seed : Table String (List String) := .ofList [("Raid", ["Ada"]), ("raid", [])]
    seed.get? "Raid" = some ["Ada"] ∧ IsSpelling seed "raid" "Raid" ∧
      (ofSeed seed).members? "raid" = some [] := by
  decide +kernel

end Events

end Guildhall
