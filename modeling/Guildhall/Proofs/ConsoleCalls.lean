import Guildhall.Proofs.CommandTexts
import Guildhall.Proofs.ConsoleHistory
import Guildhall.Proofs.DefaultRules

/-!
Calls that are typed at the console. A mark and a name are a control line or the message of this
text, and the first character of the mark tells which (`Console.read_name`). A default trigger of a
command that is on is answered by the command when an owner calls it, in every guild that can be
opened (`Bot.handle_trigger`). So behind every mark that begins neither with a blank nor with a
slash the owner can call every built-in command, and behind one that begins with a slash none
(`Bot.typed_trigger_calls_builtin`).
-/

set_option autoImplicit false

namespace Guildhall

open Text

variable {γ ω : Type}

/-! ### Lines -/

namespace Console

/-- A control line is no message. -/
theorem control_ne_message (cfg : Config) (words : List String) (console : Console)
    (msg : Message) : (console.control cfg words).1 ≠ .message msg := by
  obtain hquit | ⟨notice, hnotice⟩ := console.control_fst cfg words
  · simp [hquit]
  · simp [hnotice]

/-- What is made of a mark and a name: the first character of the mark tells. -/
theorem read_name (cfg : Config) (console : Console) {mark name : String}
    (hmark : mark.toList ≠ []) (hname : IsName name.toList) :
    console.read cfg (mark ++ name) =
      if mark.toList.head? = some '/' then
        console.control cfg ((words (mark ++ name).toList.tail).map String.ofList)
      else (.message (console.say cfg (mark ++ name).toList), console) := by
  obtain ⟨last, hlast⟩ := Option.isSome_iff_exists.mp (List.getLast?_isSome.mpr hname.ne_nil)
  have hblank : isBlank last = false := hname.word last (List.mem_of_getLast? hlast)
  have hline : (mark ++ name).toList.getLast? = some last := by
    rw [String.toList_append, List.getLast?_append_of_ne_nil _ hname.ne_nil, hlast]
  have hhead : (mark ++ name).toList.head? = mark.toList.head? := by
    rw [String.toList_append, List.head?_append_of_ne_nil _ hmark]
  have hall : (mark ++ name).toList.all isBlank = false :=
    List.all_eq_false.mpr ⟨last, List.mem_of_getLast? hline, by simp [hblank]⟩
  have hwhole : (mark ++ name).toList.rdropWhile isLineEnd = (mark ++ name).toList := by
    refine List.rdropWhile_eq_self_iff.mpr fun hne hend ↦ ?_
    rw [List.getLast?_eq_some_getLast hne, Option.some.injEq] at hline
    rw [hline] at hend
    exact Bool.false_ne_true (hblank ▸ isBlank_of_isLineEnd hend)
  rw [console.read_eq, hall, hhead, hwhole, if_neg Bool.false_ne_true]

end Console

/-! ### Default triggers -/

/-- A default trigger is a word in lower case. -/
theorem Builtin.isName_trigger {b : Builtin} {t : String} (ht : t ∈ b.triggers) :
    IsName t.toList := by
  have hall : ∀ b ∈ all, ∀ t ∈ b.triggers,
      t.toList ≠ [] ∧ t.toList.all (!isBlank ·) = true := by
    decide +kernel
  obtain ⟨hne, hword⟩ := hall b (mem_all b) t ht
  have hnormal : IsNormalTrigger t.toList := (triggerKey_eq_self_iff t).mp (triggerKey_trigger ht)
  exact ⟨hne, by simpa using hword, hnormal.lower⟩

/-- Without a configuration every command is on. -/
theorem Builtin.isEnabled_registry_nil (b : Builtin) : (registry []).isEnabled b.id = true := by
  cases b <;> decide +kernel

namespace Bot

variable {bot : Bot γ ω} {s : BotState γ ω}

/-- The default trigger of a command that is off calls nothing. -/
theorem target_of_off (hs : (Builtin.registry []).IsUnlocked s.registry) {b : Builtin}
    (hoff : s.registry.isEnabled b.id = false) {t : String} (ht : t ∈ b.triggers) (sc : Scope γ)
    (w : ω) : bot.target t s.registry sc w = (none, sc, w) := by
  have hspec : s.registry.isEnabled b.spec.id = false := hoff
  simp only [target, hs.entryOfTrigger?_eq ht, hspec, Bool.false_eq_true, if_false]

/-- What an owner gets who calls a command by a default trigger: the command, if it is on, in a
guild that can be opened. -/
theorem handle_trigger (hs : (Builtin.registry []).IsUnlocked s.registry) {msg : Message}
    (howner : bot.rankOf msg.invoker = .owner) {b : Builtin} {t : String} (ht : t ∈ b.triggers)
    {args : List Char}
    (hrequest : Request.ofText bot.mark.toList msg.text.toList = .command t.toList args)
    (m : Moment) :
    (bot.handle m msg s).1.map (·.1) =
      (s.directory.scope bot.backend msg.guild s.world).1.map fun _ ↦
        if s.registry.isEnabled b.id then .builtin b.id else .ignored := by
  rcases hscope : s.directory.scope bot.backend msg.guild s.world with ⟨e | sc, d, w⟩
  · simp only [handle, hrequest, Directory.within, hscope]
    rfl
  · cases hon : s.registry.isEnabled b.id with
    | true =>
      obtain ⟨action, hcheckpoint⟩ := checkpoint?_trigger hs hon ht hrequest hscope
      obtain ⟨d', -, hhandle⟩ := handle_eq_of_checkpoint? hcheckpoint m
      obtain ⟨sc', w', hpass⟩ := pass_owner howner m s.registry
        { action, args, target := .builtin { spec := b.spec, command := b }, scope := sc,
          world := w }
      rw [hhandle, hpass]
      rfl
    | false =>
      have htarget : bot.target (String.ofList t.toList) s.registry sc w = (none, sc, w) := by
        rw [String.ofList_toList]
        exact target_of_off hs hon ht sc w
      simp only [handle, hrequest, Directory.within, hscope, respond, call, htarget]
      rfl

/-- Every accepted mark that does not begin with a blank works, save where the console has another
use for it. Where no command is configured, every built-in command is on at first, and the owner can
type the mark and any of its triggers. Unless the mark begins with a slash, that is a message, and
whatever was said before and wherever the console is, the message is answered by the command, as
long as the command is on and the guild can be opened. Behind a slash it is a control line. -/
theorem typed_trigger_calls_builtin {yaml : String} {c : Config}
    (hparse : Config.parse yaml = .ok c) {owner : Id} (howner : c.owner = some owner)
    (hcommands : c.commands = none) (hmark : ∀ ch ∈ c.mark.toList.head?, isBlank ch = false)
    (backend : Backend γ ω) (world : ω) {b : Builtin} {t : String} (ht : t ∈ b.triggers) :
    c.registry.isEnabled b.id = true ∧
      ∀ (history : List (BotEvent ω)) (console : Console), console.speaker = owner →
        let bot := c.bot backend
        let s := bot.after history (c.start world)
        if c.mark.toList.head? = some '/' then
          ∀ msg, (console.read c (c.mark ++ t)).1 ≠ .message msg
        else
          ∃ msg, console.read c (c.mark ++ t) = (.message msg, console) ∧ ∀ m : Moment,
            (bot.handle m msg s).1.map (·.1) =
              (s.directory.scope backend console.guild s.world).1.map fun _ ↦
                if s.registry.isEnabled b.id then .builtin b.id else .ignored := by
  have hregistry : c.registry = Builtin.registry [] := by
    rw [Config.registry, hcommands]
    rfl
  refine ⟨hregistry ▸ b.isEnabled_registry_nil, fun history console hspeaker ↦ ?_⟩
  intro bot s
  have hname := Builtin.isName_trigger ht
  rw [console.read_name c (Config.mark_ne_nil_of_parse hparse) hname]
  by_cases hslash : c.mark.toList.head? = some '/'
  · rw [if_pos hslash, if_pos hslash]
    exact fun msg ↦ Console.control_ne_message c _ console msg
  · rw [if_neg hslash, if_neg hslash]
    refine ⟨_, rfl, fun m ↦ ?_⟩
    have hs : (Builtin.registry []).IsUnlocked s.registry := by
      refine isUnlocked_after history ?_
      rw [Config.start, hregistry]
      exact Registry.isUnlocked_registry
    have hrank : bot.rankOf (console.say c (c.mark ++ t).toList).invoker = .owner := by
      simp [bot, Config.bot, Config.rankOf, Console.say, Config.invoker, howner, hspeaker]
    have hrequest : Request.ofText bot.mark.toList
        (console.say c (c.mark ++ t).toList).text.toList = .command t.toList [] := by
      have hasked : Request.ofText c.mark.toList (c.mark.toList ++ t.toList ++ []) =
          .command t.toList (trim []) := Request.ofText_name hmark hname (by simp)
      rw [Console.say, String.toList_ofList, String.toList_append]
      rwa [List.append_nil] at hasked
    exact handle_trigger hs hrank ht hrequest m

/-- The configuration of a bot with an owner and a mark. -/
def markedConfig (mark : String) : Config := { mark, owner := some 1 }

/-- The console of the owner. -/
def ownerConsole : Console := { guild := "hall", speaker := 1, speakerName := "owner" }

theorem typed_trigger_calls_builtin_cd :
    let c := markedConfig "hey, /"
    let bot := c.bot .memory
    let locking := saying "hey, /perm set owner cooldown"
    let s := bot.after [.message true (secondsIn 1) locking] (c.start ())
    ∃ msg, ownerConsole.read c "hey, /cd" = (.message msg, ownerConsole) ∧
      ∀ m, (bot.handle m msg s).1.map (·.1) = .ok (.builtin "cooldown") := by
  intro c bot locking s
  have hparse : Config.parse "prefix: hey, /\nowner_id: 1\n" = .ok c := by decide +kernel
  have hmark : ∀ ch ∈ c.mark.toList.head?, isBlank ch = false := by
    intro ch hch
    have hhead : c.mark.toList.head? = some 'h' := by decide
    obtain rfl : 'h' = ch := Option.some.inj (hhead.symm.trans hch)
    decide
  have hslash : ¬ c.mark.toList.head? = some '/' := by decide
  have hline : c.mark ++ "cd" = "hey, /cd" := by decide
  have htrigger : "cd" ∈ Builtin.cooldown.triggers := by decide
  obtain ⟨-, hcalls⟩ := typed_trigger_calls_builtin hparse rfl rfl hmark .memory () htrigger
  have htyped := hcalls [.message true (secondsIn 1) locking] ownerConsole rfl
  rw [if_neg hslash, hline] at htyped
  obtain ⟨msg, hread, hanswer⟩ := htyped
  have hon : s.registry.isEnabled Builtin.cooldown.id = true := by decide +kernel
  have hopen : (s.directory.scope .memory "hall" s.world).1.isOk = true := by decide +kernel
  refine ⟨msg, hread, fun m ↦ (hanswer m).trans ?_⟩
  change (s.directory.scope .memory "hall" s.world).1.map _ = _
  cases hopened : (s.directory.scope .memory "hall" s.world).1 with
  | error e =>
    rw [hopened] at hopen
    cases hopen
  | ok sc => exact congrArg Except.ok (if_pos hon)

/-- Behind a slash the console reads a control line and not a call of `ping`. -/
theorem slash_mark_calls_nothing :
    let c := markedConfig "/"
    Config.parse "prefix: /\nowner_id: 1\n" = .ok c ∧ "ping" ∈ Builtin.ping.triggers ∧
      ownerConsole.read c (c.mark ++ "ping") = (.notice .help, ownerConsole) := by
  decide +kernel

end Bot

end Guildhall
