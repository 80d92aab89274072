import Guildhall.Proofs.Countdown
import Guildhall.Proofs.Frame

/-!
The wait that a notice announces. A message that has to wait leaves its checkpoint as it was
(`Bot.checkpoint?_of_refused`), and what was left of the cooldown is over once more than it has
passed (`Table.left?_later_eq_none_iff`). The notice rounds what is left up to whole seconds, so
that after the announced seconds the message is answered, but for one instant: where a whole number
of seconds was left, nothing more is left exactly then, and the message still has to wait
(`Bot.announced_wait_suffices_iff`).
-/

set_option autoImplicit false

namespace Guildhall

variable {γ ω : Type}

/-! ### Waits that go on -/

/-- What was left at an instant is over once more than that has passed, unless it was cut. -/
theorem CooldownRule.left?_later_eq_none_iff {rule : CooldownRule} {now later : Instant}
    {left : Duration} (hleft : rule.left? now = some left)
    (hshort : left.nanos < Duration.longest.nanos) :
    rule.left? later = none ↔ (left.nanos : Int) < later.nanos - now.nanos := by
  obtain ⟨last, hlast, hremaining⟩ := Option.bind_eq_some_iff.mp hleft
  rw [remaining?_eq] at hremaining
  split_ifs at hremaining with hover
  obtain rfl := Option.some.inj hremaining
  rw [left?, hlast, Option.bind_some, remaining?_eq]
  simp only [ite_eq_left_iff, reduceCtorEq, imp_false, not_not] at hshort ⊢
  omega

/-- The same holds of the cooldown that governs an action, for who waits for it. -/
theorem Table.left?_later_eq_none_iff {t : Table String CooldownRule} {rank : Rank}
    {now later : Instant} {action : String} {left : Duration}
    (hleft : t.left? rank now action = some left) (hshort : left.nanos < Duration.longest.nanos) :
    t.left? rank later action = none ↔ (left.nanos : Int) < later.nanos - now.nanos := by
  unfold left? at hleft ⊢
  by_cases hrank : rank.isPrivileged = true
  · simp [hrank] at hleft
  rw [if_neg hrank] at hleft ⊢
  obtain ⟨rule, hrule, hwait⟩ := Option.bind_eq_some_iff.mp hleft
  rw [hrule, Option.bind_some]
  exact CooldownRule.left?_later_eq_none_iff hwait hshort

/-! ### Messages that wait -/

namespace Bot

variable {bot : Bot γ ω} {v : GuildView γ ω} {m m' : Moment} {msg : Message} {s : BotState γ ω}
  {left : Duration}

/-- At a checkpoint of a guild whose rows are all known a message has to wait if its action is
granted and something is left of the cooldown that governs it. -/
theorem pass_coolingDown_iff (bot : Bot γ ω) (m : Moment) (msg : Message) (r : Registry Builtin)
    (cp : Checkpoint γ ω) (hsc : cp.scope.Faithful v) (hfull : cp.scope.IsFull)
    (hw : v.tidy cp.world) (left : Duration) :
    (bot.pass m msg r cp).1.1 = .coolingDown left ↔
      (v.rows cp.scope.stored).permissions.Grants (bot.rankOf msg.invoker) msg.invoker
          cp.action ∧
        (v.rows cp.scope.stored).cooldowns.left? (bot.rankOf msg.invoker) m.now cp.action =
          some left := by
  rw [pass_eq_iff id, check_fst_of_full bot m msg hsc hfull hw, ← Policy.grants_governing_iff]
  dsimp only
  split_ifs with hgrants
  · simp [hgrants]
  · simp [hgrants]

/-- A message that is refused comes to the same checkpoint when it is sent again. -/
theorem checkpoint?_of_refused (hb : bot.backend.Lawful v) (hs : s.Faithful v)
    {cp : Checkpoint γ ω} (hcheckpoint : bot.checkpoint? msg s = some cp)
    (hrefused : ¬ (bot.pass m msg s.registry cp).1.1.IsRun) :
    bot.checkpoint? msg (bot.handle m msg s).2 = some cp := by
  obtain ⟨hcp, hfull, hw⟩ := faithful_checkpoint hb hs.1 hs.2 hcheckpoint
  obtain ⟨token, sc, d, w, hrequest, hscope, htarget, haction⟩ :=
    checkpoint?_eq_some hcheckpoint
  -- Looking for the command changed nothing, so that it is found again where it was.
  have hopen := Directory.faithful_scope hb hs.1 hs.2 msg.guild
  rw [hscope] at hopen
  have hsame := bot.target_of_full hopen.1 hopen.2.1 (String.ofList token) s.registry w
  rw [htarget] at hsame
  obtain ⟨hsc, hworld⟩ := Prod.mk.inj hsame
  rw [← hsc, ← hworld] at htarget
  obtain ⟨d', -, hhandle⟩ := handle_eq_of_checkpoint? hcheckpoint m
  have hkept : (bot.pass m msg s.registry cp).2 = (s.registry, cp.scope, cp.world) := by
    obtain ⟨-, hkept⟩ | ⟨id, hbuiltin⟩ | ⟨⟨name, hcustom⟩, -⟩ :=
      pass_of_full m msg hb.stores cp hcp hfull hw s.registry
    · exact hkept
    · rw [hbuiltin] at hrefused
      exact absurd trivial hrefused
    · rw [hcustom] at hrefused
      exact absurd trivial hrefused
  rcases hpass : bot.pass m msg s.registry cp with ⟨⟨outcome, notice⟩, registry, scope, world⟩
  rw [hpass] at hkept hhandle
  obtain ⟨rfl, rfl, rfl⟩ : registry = s.registry ∧ scope = cp.scope ∧ world = cp.world := by
    simpa using hkept
  rw [hhandle]
  simp only [checkpoint?, hrequest, Directory.scope, Table.get?_insert, if_true, htarget,
    ← haction]

/-- The announced wait suffices, but for one instant. After any messages, failures and closed
guilds, let a message be told to try again in `n` seconds, and let it be sent again when `n` seconds
or more have passed and nothing else has happened. Then it need not wait any more if and only if
what was left was no whole number of seconds or more than `n` seconds have passed. -/
theorem announced_wait_suffices_iff (hb : bot.backend.Lawful v) {registry : Registry Builtin}
    {events : Events} {world : ω} (hworld : v.tidy world) {history : List (BotEvent ω)}
    (htidy : ∀ event ∈ history, event.IsTidy v) (hnow : m.now.InCalendar)
    (hlater : m'.now.InCalendar) {reply : Reply} {n : Nat} (hannounced : reply.Announces n)
    (hpassed : m.now.nanos + n * nanosPerSecond ≤ m'.now.nanos) :
    let s := bot.after history { directory := { events }, registry, world }
    let s' := (bot.process true m msg s).2
    (bot.process true m msg s).1 = (.ok (.coolingDown left), [reply]) →
      ((∀ left', (bot.process true m' msg s').1.1 ≠ .ok (.coolingDown left')) ↔
        left ≠ .ofSeconds n ∨ m.now.nanos + n * nanosPerSecond < m'.now.nanos) := by
  intro s s' hprocess
  have hs : s.Faithful v := faithful_after hb htidy ⟨Directory.faithful_empty v events, hworld⟩
  have houtcome : (bot.process true m msg s).1.1 = .ok (.coolingDown left) :=
    congrArg Prod.fst hprocess
  rw [process_eq_ok_iff, handle_eq_iff id] at houtcome
  obtain ⟨cp, hcheckpoint, hpass⟩ := houtcome
  obtain ⟨hsc, hfull, hw⟩ := faithful_checkpoint hb hs.1 hs.2 hcheckpoint
  obtain ⟨hgrants, hleft⟩ := (pass_coolingDown_iff bot m msg _ cp hsc hfull hw left).mp hpass
  -- The message comes to the same checkpoint again, where the same cooldown is asked.
  have hagain : bot.checkpoint? msg s' = some cp := by
    change bot.checkpoint? msg (bot.process true m msg s).2 = some cp
    rw [process_snd]
    exact checkpoint?_of_refused hb hs hcheckpoint (by rw [hpass]; exact id)
  have hwaits (left' : Duration) : (bot.process true m' msg s').1.1 = .ok (.coolingDown left') ↔
      (v.rows cp.scope.stored).cooldowns.left? (bot.rankOf msg.invoker) m'.now cp.action =
        some left' := by
    rw [process_eq_ok_iff, handle_eq_iff id, hagain]
    simp only [Option.some.injEq, exists_eq_left']
    rw [pass_coolingDown_iff bot m' msg _ cp hsc hfull hw left']
    exact and_iff_right hgrants
  obtain ⟨announcement, k, hsame, hcount, -, hceil⟩ := announces_of_coolingDown hprocess
  obtain rfl := List.singleton_inj.mp hsame
  obtain rfl := (hcount n).mp hannounced
  have hle := (hceil n).mp le_rfl
  have hwhole : left = .ofSeconds n ↔ left.nanos = n * nanosPerSecond := by
    obtain ⟨nanos⟩ := left
    exact Duration.mk.injEq _ _ |>.to_iff
  simp only [Instant.InCalendar, nanosPerSecond] at hnow hlater hpassed hle hwhole ⊢
  have hlongest : (Duration.longest.nanos : Int) = 2 ^ 63 * 1000000000 - 1 := rfl
  have hshort : left.nanos < Duration.longest.nanos := by omega
  simp only [ne_eq, hwaits, hwhole]
  rw [← Option.eq_none_iff_forall_ne_some, Table.left?_later_eq_none_iff hleft hshort]
  omega

/-- Half a second after a ping, five seconds are announced, and they suffice. -/
theorem announced_wait_suffices_iff_ping :
    let s := switchedBot.after [.message true (secondsIn 0) (saying "!ping")]
      { directory := {}, registry := (∅ : Registry Builtin).register Builtin.ping.spec .ping,
        world := slowPing }
    let half : Moment := { now := ⟨500000000⟩, today := default }
    let waited : Moment := { now := ⟨5500000000⟩, today := default }
    let first := switchedBot.process true half (saying "!ping") s
    first.1 = (.ok (.coolingDown ⟨4500000000⟩),
        [{ channel := "gate", text := "`ping` is on cooldown. Try again in 5s." }]) ∧
      ∀ left, (switchedBot.process true waited (saying "!ping") first.2).1.1 ≠
        .ok (.coolingDown left) := by
  intro s half waited first
  have hfirst : first.1 = (.ok (.coolingDown ⟨4500000000⟩),
      [{ channel := "gate", text := "`ping` is on cooldown. Try again in 5s." }]) := by decide
  have htidy : ∀ event ∈ [BotEvent.message true (secondsIn 0) (saying "!ping")],
      event.IsTidy Backend.switchedView := by
    intro event hevent
    obtain rfl := List.mem_singleton.mp hevent
    exact trivial
  have hnow : half.now.InCalendar := ⟨by decide, by decide⟩
  have hlater : waited.now.InCalendar := ⟨by decide, by decide⟩
  have hannounced : Reply.Announces
      { channel := "gate", text := "`ping` is on cooldown. Try again in 5s." } 5 :=
    ⟨"ping", by decide⟩
  refine ⟨hfirst, ?_⟩
  exact (announced_wait_suffices_iff Backend.lawful_switched tidy_slowPing htidy hnow hlater
    hannounced (by decide) hfirst).mpr (Or.inl (by decide))

/-- Right after a ping five seconds are announced, and they do not suffice: when they have passed,
no more than nothing is left. -/
theorem announced_wait_is_short_ping :
    let s := switchedBot.after [.message true (secondsIn 0) (saying "!ping")]
      { directory := {}, registry := (∅ : Registry Builtin).register Builtin.ping.spec .ping,
        world := slowPing }
    let first := switchedBot.process true (secondsIn 0) (saying "!ping") s
    first.1 = (.ok (.coolingDown (.ofSeconds 5)),
        [{ channel := "gate", text := "`ping` is on cooldown. Try again in 5s." }]) ∧
      (switchedBot.process true (secondsIn 5) (saying "!ping") first.2).1 =
        (.ok (.coolingDown .zero),
          [{ channel := "gate", text := "`ping` is on cooldown. Try again in 0s." }]) := by
  decide

end Bot

end Guildhall
