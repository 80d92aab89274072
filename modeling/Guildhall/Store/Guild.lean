import Guildhall.Policy.Resolver
import Guildhall.Store.Switched

/-!
The stores of one guild, and the places where guilds keep them: in memory, or in memory behind
switches that all guilds share.
-/

set_option autoImplicit false

namespace Guildhall

/-- One thing for each collection of a guild. -/
structure GuildRows (F : Type → Type) where
  permissions : F PermissionRule
  cooldowns : F CooldownRule
  commands : F CustomCommand
  keywords : F Keyword

/-- The stores of a guild within a state. -/
abbrev GuildStores (σ : Type) := GuildRows (RowStore σ)

/-- The stores of a guild's rules. -/
def GuildRows.rules {σ : Type} (st : GuildStores σ) : RuleStores σ where
  permissions := st.permissions
  cooldowns := st.cooldowns

/-- A place where guilds keep their rows. What an opened guild holds of its own is a `γ`; what all
guilds share is an `ω`. -/
structure Backend (γ ω : Type) where
  openGuild : String → ω → Except StoreFault γ × ω
  stores : GuildStores (γ × ω)

/-- The rows of a collection, by key. -/
abbrev Rows (V : Type) := Table String V

abbrev GuildTables := GuildRows Rows

def GuildTables.empty : GuildTables := ⟨∅, ∅, ∅, ∅⟩

instance : EmptyCollection GuildTables := ⟨.empty⟩

instance : Inhabited GuildTables := ⟨∅⟩

namespace Backend

/-- Every guild starts empty and is forgotten with its scope. -/
def memory : Backend GuildTables Unit where
  openGuild _ w := (.ok ∅, w)
  stores := {
    permissions := RowStore.memory.within (·.1.permissions)
      fun s permissions ↦ ({ s.1 with permissions }, s.2)
    cooldowns := RowStore.memory.within (·.1.cooldowns)
      fun s cooldowns ↦ ({ s.1 with cooldowns }, s.2)
    commands := RowStore.memory.within (·.1.commands)
      fun s commands ↦ ({ s.1 with commands }, s.2)
    keywords := RowStore.memory.within (·.1.keywords)
      fun s keywords ↦ ({ s.1 with keywords }, s.2) }

end Backend

/-- The switches of each collection, whether guilds can be opened, and the rows that every guild
starts with. -/
structure Switchboard where
  switches : GuildRows fun _ ↦ Switches := ⟨{}, {}, {}, {}⟩
  openFails : Bool := false
  seed : GuildRows Switched := ⟨{}, {}, {}, {}⟩

namespace Backend

def switched : Backend (GuildRows Switched) Switchboard where
  openGuild _ w := (if w.openFails then .error .offline else .ok w.seed, w)
  stores := {
    permissions := RowStore.switched.within (fun s ↦ (s.1.permissions, s.2.switches.permissions))
      fun s r ↦ ({ s.1 with permissions := r.1 },
        { s.2 with switches := { s.2.switches with permissions := r.2 } })
    cooldowns := RowStore.switched.within (fun s ↦ (s.1.cooldowns, s.2.switches.cooldowns))
      fun s r ↦ ({ s.1 with cooldowns := r.1 },
        { s.2 with switches := { s.2.switches with cooldowns := r.2 } })
    commands := RowStore.switched.within (fun s ↦ (s.1.commands, s.2.switches.commands))
      fun s r ↦ ({ s.1 with commands := r.1 },
        { s.2 with switches := { s.2.switches with commands := r.2 } })
    keywords := RowStore.switched.within (fun s ↦ (s.1.keywords, s.2.switches.keywords))
      fun s r ↦ ({ s.1 with keywords := r.1 },
        { s.2 with switches := { s.2.switches with keywords := r.2 } }) }

end Backend

end Guildhall
