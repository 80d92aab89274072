import Guildhall.Proofs.Cooldown
import Guildhall.Proofs.Numeral
import Guildhall.Proofs.Replies

/-!
What is left of a cooldown. It is found with durations of a limited size: the time that has passed
is a signed duration, a wait that is longer than every signed duration counts as the longest, and
the difference of the two is cut to what a signed duration holds (`countdown?`). Between instants
of the calendar nothing of it overflows, and it comes to what exact arithmetic gives, cut once
(`countdown?_eq`). A cooldown that is stored is found by its own action in whatever was read of the
store (`Policy.cooldownRule_self`), and the notice of a message that has to wait names the least
number of whole seconds that is not below what is left (`Reply.announces_iff`,
`Duration.ceilSeconds_le_iff`). So a check and its notice are exact for every cooldown and clock
(`Policy.countdown_is_exact`).
-/

set_option autoImplicit false

namespace Guildhall

open Text

variable {σ γ ω V : Type}

/-! ### Signed durations -/

/-- The least number of nanoseconds of a signed duration. -/
def leastNanos : Int := -(2 ^ 63 * nanosPerSecond + (nanosPerSecond - 1))

/-- A signed length of time: whole seconds in 64 bits, and less than a second beyond them. -/
structure SignedDuration where
  nanos : Int
  least_le : leastNanos ≤ nanos
  le_longest : nanos ≤ Duration.longest.nanos

namespace SignedDuration

/-- A number of nanoseconds, unless it overflows. -/
def ofNanos? (nanos : Int) : Option SignedDuration :=
  if h : leastNanos ≤ nanos ∧ nanos ≤ Duration.longest.nanos then some ⟨nanos, h.1, h.2⟩ else none

def longest : SignedDuration := ⟨Duration.longest.nanos, by decide, le_rfl⟩

/-- A length of time of at most 63 bits of whole seconds. -/
def ofDuration? (d : Duration) : Option SignedDuration :=
  if d.seconds < 2 ^ 63 then ofNanos? d.nanos else none

/-- The difference, cut to what a signed duration holds. -/
def saturatingSub (a b : SignedDuration) : SignedDuration where
  nanos := max leastNanos (min (a.nanos - b.nanos) Duration.longest.nanos)
  least_le := le_max_left _ _
  le_longest := max_le (by decide) (min_le_right _ _)

/-- The length of time without its sign. -/
def abs (a : SignedDuration) : Duration := ⟨a.nanos.natAbs⟩

/-- What does not overflow is kept as it is. -/
theorem ofNanos?_eq_some {nanos : Int} (hleast : leastNanos ≤ nanos)
    (hlongest : nanos ≤ Duration.longest.nanos) :
    ofNanos? nanos = some ⟨nanos, hleast, hlongest⟩ :=
  dif_pos ⟨hleast, hlongest⟩

/-- A length of time that is too long for a signed duration counts as the longest. -/
theorem nanos_getD_ofDuration? (d : Duration) :
    ((ofDuration? d).getD longest).nanos = min (d.nanos : Int) Duration.longest.nanos := by
  have hlongest : (Duration.longest.nanos : Int) = 2 ^ 63 * 1000000000 - 1 := rfl
  have hleast : leastNanos ≤ d.nanos := le_trans (by decide : leastNanos ≤ 0) (by omega)
  unfold ofDuration?
  split_ifs with hshort
  · simp only [Duration.seconds, nanosPerSecond] at hshort
    have hle : (d.nanos : Int) ≤ Duration.longest.nanos := by omega
    rw [ofNanos?_eq_some hleast hle, min_eq_left hle]
    rfl
  · simp only [Duration.seconds, nanosPerSecond] at hshort
    have hle : (Duration.longest.nanos : Int) ≤ d.nanos := by omega
    rw [min_eq_right hle]
    rfl

end SignedDuration

/-- What is left at `now` of a wait of `d` that began at `last`, step by step: the time that has
passed, which could overflow, is taken from the wait, and what is left counts unless its sign is
negative. -/
def countdown? (d : Duration) (last now : Instant) : Option (Option Duration) := do
  let passed ← SignedDuration.ofNanos? (now.nanos - last.nanos)
  let left := ((SignedDuration.ofDuration? d).getD .longest).saturatingSub passed
  return if left.nanos < 0 then none else some left.abs

/-- Between instants of the calendar no step overflows, and what is left is exact. -/
theorem countdown?_eq (d : Duration) {last now : Instant} (hlast : last.InCalendar)
    (hnow : now.InCalendar) : countdown? d last now = some (remaining? d last now) := by
  simp only [Instant.InCalendar, nanosPerSecond] at hlast hnow
  have hlongest : (Duration.longest.nanos : Int) = 2 ^ 63 * 1000000000 - 1 := rfl
  have hleast : leastNanos = -(2 ^ 63 * 1000000000 + 999999999) := rfl
  have hfits : leastNanos ≤ now.nanos - last.nanos ∧
      now.nanos - last.nanos ≤ Duration.longest.nanos := by omega
  rw [countdown?, SignedDuration.ofNanos?_eq_some hfits.1 hfits.2]
  simp only [Option.bind_eq_bind, Option.bind_some, SignedDuration.saturatingSub,
    SignedDuration.nanos_getD_ofDuration?, SignedDuration.abs, remaining?_eq]
  generalize hexact : min (d.nanos : Int) Duration.longest.nanos - (now.nanos - last.nanos) = e
  -- The calendar is shorter than the least signed duration, so that only the longest cuts.
  rw [max_eq_right (by omega : leastNanos ≤ min e Duration.longest.nanos)]
  change some _ = some _
  by_cases hover : e < 0
  · rw [if_pos hover, if_pos (by omega)]
  · rw [if_neg hover, if_neg (by omega)]
    congr 3
    omega

/-! ### Stored cooldowns -/

namespace Cache

variable [Keyed V] {st : RowStore σ V} {holds : σ → Table String V → Prop} {c : Cache V}
  {t : Table String V} {s : σ}

omit [Keyed V] in
theorem isOk_loadEach (hreliable : st.Reliable) (c : Cache V) (keys : List String) (s : σ) :
    (c.loadEach st keys s).1.isOk := by
  induction keys generalizing s with
  | nil => rfl
  | cons key keys ih =>
    have hload := hreliable.loadOne key s
    simp only [loadEach, loadOne]
    rcases hfirst : st.loadOne key s with ⟨fault | row, s₁⟩
    · simp [hfirst, Except.isOk, Except.toBool] at hload
    · have hlater := ih s₁
      dsimp only
      rcases heach : c.loadEach st keys s₁ with ⟨e | rows, s₂⟩
      · simp [heach, Except.isOk, Except.toBool] at hlater
      · rfl

omit [Keyed V] in
/-- Nothing is longer than a key that is asked for itself. -/
theorem longestPresent_self {key : String} {row : V}
    (hslot : c.slots.get? key.toList = some (some row)) : c.longestPresent key = some row := by
  rw [longestPresent_eq_findSome?, wordStarts, List.reverse_append, List.reverse_singleton,
    List.singleton_append, List.findSome?_cons, hslot]
  rfl

/-- A stored row is what a query of its own key finds, whatever was read before. -/
theorem resolve_self (hst : st.Lawful holds) (hreliable : st.Reliable) (hc : c.Mirrors t)
    (hs : holds s t) {key : String} {row : V} (hrow : t.get? key = some row) :
    (c.resolve st key s).1 = .ok (some row) := by
  unfold resolve
  split_ifs with hfull
  · have hslot := hc.full hfull key.toList
    rw [String.ofList_toList, hrow] at hslot
    exact congrArg Except.ok (longestPresent_self hslot)
  · have hloads := loadEach_spec hst hs c (c.missing key)
    have hok := isOk_loadEach hreliable c (c.missing key) s
    rcases hcall : c.loadEach st (c.missing key) s with ⟨e | rows, s'⟩
    · simp [hcall, Except.isOk, Except.toBool] at hok
    rw [hcall] at hloads
    obtain ⟨rfl, -⟩ := hloads
    obtain ⟨-, -, hslots⟩ := mirrors_foldl_remember hc hfull (c.missing key)
    refine congrArg Except.ok (longestPresent_self ?_)
    rw [hslots, String.ofList_toList, hrow]
    cases hslot : c.slots.get? key.toList with
    | some slot =>
      have hknown := hc.known key.toList slot hslot
      rw [String.ofList_toList, hrow] at hknown
      rw [hknown, Option.some_or]
    | none =>
      have hmissing : key.toList ∈ (c.missing key).map String.toList := by
        simp [missing, wordPrefixes, hslot]
      rw [if_pos hmissing, Option.none_or]

end Cache

namespace Policy

variable {st : RuleStores σ} {rows : σ → RuleTables} {p : Policy} {s : σ}

/-- A stored cooldown governs its own action. -/
theorem cooldownRule_self (hst : st.Lawful fun s t ↦ rows s = t)
    (hreliable : st.cooldowns.Reliable) (hp : Follows rows (p, s)) {rule : CooldownRule}
    (hstored : (rows s).cooldowns.get? rule.action = some rule)
    (henforced : rule.isEnforced = true) :
    (p.cooldownRule st rule.action s).1 = some rule := by
  have hresolve := Cache.resolve_self (hst.cooldowns (rows s)) hreliable hp.cooldowns.mirrors
    hp.cooldowns.holds hstored
  simp only [cooldownRule, onCooldowns]
  rcases hfound : p.cooldowns.resolve st.cooldowns rule.action s with ⟨e | found, c, s'⟩
  · simp [hfound] at hresolve
  · rw [hfound, Except.ok.injEq] at hresolve
    subst hresolve
    simp [henforced]

end Policy

/-! ### Notices -/

/-- The notice names the least number of whole seconds that is not below what is left. -/
theorem Duration.ceilSeconds_le_iff (d : Duration) (n : Nat) :
    d.ceilSeconds ≤ n ↔ d.nanos ≤ n * nanosPerSecond := by
  rw [ceilSeconds]
  by_cases hwhole : d.subsecond = 0
  · rw [if_pos hwhole]
    simp only [seconds, subsecond, nanosPerSecond] at hwhole ⊢
    omega
  · rw [if_neg hwhole]
    simp only [seconds, subsecond, nanosPerSecond] at hwhole ⊢
    omega

/-- A reply that says to try again in `n` seconds. -/
def Reply.Announces (reply : Reply) (n : Nat) : Prop :=
  ∃ action : String, reply.text = s!"`{action}` is on cooldown. Try again in {n}s."

/-- The number that stands before the last two characters of a text. -/
def numberBeforeEnd (text : List Char) : Nat :=
  digitsValue ((text.reverse.drop 2).takeWhile isAsciiDigit).reverse

theorem numberBeforeEnd_append (before : List Char) (n : Nat) :
    numberBeforeEnd (before ++ ' ' :: Nat.toDigits 10 n ++ ['s', '.']) = n := by
  have hdigits : ∀ c ∈ (Nat.toDigits 10 n).reverse, isAsciiDigit c = true :=
    fun c hc ↦ allDigits_toDigits n c (List.mem_reverse.mp hc)
  have hspace : isAsciiDigit ' ' = false := by decide
  have hreverse : (before ++ ' ' :: Nat.toDigits 10 n ++ ['s', '.']).reverse.drop 2 =
      (Nat.toDigits 10 n).reverse ++ ' ' :: before.reverse := by simp
  rw [numberBeforeEnd, hreverse, (takeWhile_append_eq hdigits (by simp [hspace])).1,
    List.reverse_reverse, digitsValue_toDigits]

theorem numberBeforeEnd_notice (action : String) (n : Nat) :
    numberBeforeEnd (s!"`{action}` is on cooldown. Try again in {n}s.").toList = n := by
  have hliteral (s : String) : toString s = s := rfl
  have hmiddle : "` is on cooldown. Try again in ".toList =
      "` is on cooldown. Try again in".toList ++ [' '] := by decide
  have hend : "s.".toList = ['s', '.'] := by decide
  simp only [String.toList_append, toList_toString, hliteral, hmiddle, hend]
  have happend := numberBeforeEnd_append
    ("`".toList ++ action.toList ++ "` is on cooldown. Try again in".toList) n
  simpa only [List.append_assoc, List.cons_append, List.nil_append] using happend

/-- The notice says one number of seconds. -/
theorem Reply.announces_iff {reply : Reply} {action : String} {left : Duration}
    (htext : reply.text = cooldownNotice action left) (n : Nat) :
    reply.Announces n ↔ n = left.ceilSeconds := by
  constructor
  · rintro ⟨other, hother⟩
    have hsame := congrArg (fun text : String ↦ numberBeforeEnd text.toList)
      (hother.symm.trans htext)
    simpa only [cooldownNotice, numberBeforeEnd_notice] using hsame
  · rintro rfl
    exact ⟨action, htext⟩

/-- What is left of a wait is never more than the longest duration. -/
theorem CooldownRule.le_longest_of_left? {rule : CooldownRule} {now : Instant} {left : Duration}
    (hleft : rule.left? now = some left) : left.nanos ≤ Duration.longest.nanos := by
  obtain ⟨last, -, hremaining⟩ := Option.bind_eq_some_iff.mp hleft
  simp only [remaining?] at hremaining
  split_ifs at hremaining
  obtain rfl := Option.some.inj hremaining
  exact min_le_right _ _

/-- What a check says is left is left of the time of some rule. -/
theorem Policy.exists_left_of_checkCooldown {st : RuleStores σ} {rank : Rank} {now : Instant}
    {action : String} {p : Policy} {s : σ} {left : Duration}
    (hleft : (p.checkCooldown st rank now action s).1 = some left) :
    ∃ rule : CooldownRule, rule.left? now = some left := by
  unfold checkCooldown at hleft
  split_ifs at hleft
  rcases hgoverning : p.cooldownRule st action s with ⟨_ | governing, p₁, s₁⟩
  · simp [hgoverning] at hleft
  rcases hget : p₁.onCooldowns (·.get st.cooldowns governing.action ·) s₁ with ⟨e | found, p₂, s₂⟩
  · simp [hgoverning, hget] at hleft
  cases hfound : found.filter (·.isEnforced) with
  | none => simp [hgoverning, hget, hfound] at hleft
  | some rule =>
    refine ⟨rule, ?_⟩
    rw [CooldownRule.left?]
    cases hwait : rule.last.bind fun last ↦ remaining? rule.duration last.instant now with
    | none => simp [hgoverning, hget, hfound, hwait] at hleft
    | some wait => simpa [hgoverning, hget, hfound, hwait] using hleft

namespace Bot

variable {bot : Bot γ ω} {m : Moment} {msg : Message} {s : BotState γ ω} {left : Duration}

/-- A message has to wait as long as the cooldown check of some action says. -/
theorem exists_checkCooldown_of_handle
    (hhandle : (bot.handle m msg s).1.map (·.1) = .ok (.coolingDown left)) :
    ∃ action p a, (Policy.checkCooldown bot.backend.stores.rules (bot.rankOf msg.invoker) m.now
      action p a).1 = some left := by
  rw [handle_eq_iff id] at hhandle
  obtain ⟨cp, -, houtcome⟩ := hhandle
  rw [pass_eq_iff id] at houtcome
  simp only [check] at houtcome
  rcases hauthorize : cp.scope.onPolicy (·.authorize bot.backend.stores.rules
    (bot.rankOf msg.invoker) msg.invoker cp.action ·) cp.world with ⟨_ | rule, sc, w⟩
  · rcases hcooldown : sc.onPolicy (·.checkCooldown bot.backend.stores.rules
      (bot.rankOf msg.invoker) m.now cp.action ·) w with ⟨_ | wait, sc', w'⟩
    · simp [hauthorize, hcooldown] at houtcome
    · simp only [hauthorize, hcooldown, Option.map_some, Option.some.injEq,
        Outcome.coolingDown.injEq] at houtcome
      refine ⟨cp.action, sc.policy, (sc.stored, w), ?_⟩
      rw [← houtcome]
      exact congrArg Prod.fst hcooldown
  · simp [hauthorize] at houtcome

/-- What is said to a message that has to wait: one number of seconds, the least that is not below
what is left. It is far from the end of 64 bits. -/
theorem announces_of_coolingDown {replies : List Reply}
    (hprocess : (bot.process true m msg s).1 = (.ok (.coolingDown left), replies)) :
    ∃ reply n, replies = [reply] ∧ (∀ k, reply.Announces k ↔ k = n) ∧ n < 2 ^ 64 ∧
      ∀ k, n ≤ k ↔ left.nanos ≤ k * nanosPerSecond := by
  have houtcome : (bot.process true m msg s).1.1 = .ok (.coolingDown left) :=
    congrArg Prod.fst hprocess
  obtain ⟨action, p, a, hleft⟩ :=
    exists_checkCooldown_of_handle (process_eq_ok_iff.mp houtcome)
  obtain ⟨rule, hrule⟩ := Policy.exists_left_of_checkCooldown hleft
  have hlongest : Duration.longest.nanos ≤ (2 ^ 64 - 1) * nanosPerSecond := by decide
  have hshort : left.ceilSeconds ≤ 2 ^ 64 - 1 :=
    (left.ceilSeconds_le_iff _).mpr ((CooldownRule.le_longest_of_left? hrule).trans hlongest)
  rcases bot.replies_process m msg s with ⟨e, hresult⟩ | hresult | ⟨outcome, text, hresult, hsays⟩
  · simp [hresult] at hprocess
  · simp [hresult] at hprocess
  · obtain ⟨hsame, rfl⟩ := Prod.mk.inj (hresult.symm.trans hprocess)
    obtain rfl := Except.ok.inj hsame
    generalize Request.ofText bot.mark.toList msg.text.toList = request at hsays
    cases hsays with
    | notice token args left =>
      exact ⟨_, left.ceilSeconds, rfl, Reply.announces_iff rfl, by omega,
        left.ceilSeconds_le_iff⟩

end Bot

/-! ### Checks -/

/-- A rule by which pings rest for longer than a signed duration lasts, and that last started ten
seconds after the epoch. -/
def endlessPing : CooldownRule where
  action := "ping"
  duration := .ofParts (2 ^ 64 - 1) 999999999
  last := some { instant := .ofParts 10 0 }

namespace Policy

/-- Cooldown arithmetic is exact and does not overflow. On a store that works, a stored cooldown of
any duration governs its own action, whenever it last started and whatever the clock says. For every
action that it governs and every invoker below admin, what is left is the wait, up to the longest
signed duration, less the time that has passed. Where that is not negative a check answers it, up
to the longest duration, and changes nothing; else it lets the action pass and the cooldown starts.
No step overflows on the way, and whatever a check of a bot answers, the reply names the least
number of whole seconds that is not below it. -/
theorem countdown_is_exact {st : RuleStores σ} {rows : σ → RuleTables}
    (hst : st.Lawful fun s t ↦ rows s = t) (hreliable : st.cooldowns.Reliable) {p : Policy} {s : σ}
    (hp : Follows rows (p, s)) {rule : CooldownRule}
    (hstored : (rows s).cooldowns.get? rule.action = some rule) (hduration : rule.duration ≠ .zero)
    {last : Timestamp} (hlast : rule.last = some last) (hstart : last.instant.InCalendar)
    {now : Instant} (hnow : now.InCalendar) {rank : Rank} (hrank : ¬ .admin ≤ rank) :
    let e : Int :=
      min (rule.duration.nanos : Int) Duration.longest.nanos - (now.nanos - last.instant.nanos)
    (p.cooldownRule st rule.action s).1 = some rule ∧
    (∀ action, (p.cooldownRule st action s).1 = some rule →
      let r := p.checkCooldown st rank now action s
      countdown? rule.duration last.instant now = some r.1 ∧
      (0 ≤ e → r.1 = some ⟨(min e Duration.longest.nanos).toNat⟩ ∧
        (rows r.2.2).cooldowns = (rows s).cooldowns) ∧
      (e < 0 → r.1 = none ∧ (rows r.2.2).cooldowns =
        (rows s).cooldowns.insert rule.action { rule with last := some { instant := now } })) ∧
    ∀ {γ ω : Type} (bot : Bot γ ω) m msg state left replies,
      (bot.process true m msg state).1 = (.ok (.coolingDown left), replies) →
        ∃ reply n, replies = [reply] ∧ (∀ k, reply.Announces k ↔ k = n) ∧ n < 2 ^ 64 ∧
          ∀ k, n ≤ k ↔ left.nanos ≤ k * nanosPerSecond := by
  intro e
  have hbelow : rank.isPrivileged = false := by
    rw [← Bool.not_eq_true, Rank.isPrivileged_iff]
    exact hrank
  have hself := cooldownRule_self hst hreliable hp hstored (rule.isEnforced_iff.mpr hduration)
  refine ⟨hself, fun action hrule ↦ ?_, fun bot m msg state left replies hprocess ↦
    Bot.announces_of_coolingDown hprocess⟩
  intro r
  obtain ⟨-, -, hanswer, hrows⟩ :=
    checkCooldown_of_reliable hst hreliable hp hbelow now hrule
  have hleft : rule.left? now = remaining? rule.duration last.instant now := by
    rw [CooldownRule.left?, hlast, Option.bind_some]
  have hexact : remaining? rule.duration last.instant now =
      if e < 0 then none else some ⟨(min e Duration.longest.nanos).toNat⟩ :=
    remaining?_eq _ _ _
  rw [hleft, hexact] at hrows hanswer
  refine ⟨?_, fun hwaits ↦ ?_, fun hover ↦ ?_⟩
  · rw [countdown?_eq _ hstart hnow, hexact]
    exact congrArg some hanswer.symm
  · rw [if_neg (not_lt.mpr hwaits)] at hanswer hrows
    exact ⟨hanswer, hrows⟩
  · rw [if_pos hover] at hanswer hrows
    exact ⟨hanswer, hrows⟩

/-- With a clock that was set back to before the epoch, pings rest for the longest duration. -/
theorem countdown_is_exact_endlessPing :
    let rows : RuleTables := ⟨∅, .ofRows [endlessPing]⟩
    let r := Policy.checkCooldown RuleStores.memory .member (.ofParts (-5) 0) "ping" {} rows
    r.1 = some .longest ∧ r.2.2.cooldowns = rows.cooldowns := by
  intro rows r
  have hfresh : Follows id (({} : Policy), rows) :=
    reflects_fresh rfl Table.isKeyed_empty (Table.isKeyed_ofRows _)
  have hreliable : RuleStores.memory.cooldowns.Reliable := RowStore.reliable_memory.within _ _
  have hstored : rows.cooldowns.get? endlessPing.action = some endlessPing := by decide
  have hduration : endlessPing.duration ≠ .zero := by decide
  have hstart : (Instant.ofParts 10 0).InCalendar := ⟨by decide, by decide⟩
  have hnow : (Instant.ofParts (-5) 0).InCalendar := ⟨by decide, by decide⟩
  obtain ⟨hself, hchecks, -⟩ := countdown_is_exact RuleStores.lawful_memory hreliable hfresh
    hstored hduration rfl hstart hnow (by decide : ¬ Rank.admin ≤ .member)
  obtain ⟨-, hwaits, -⟩ := hchecks "ping" hself
  exact hwaits (by decide)

end Policy

end Guildhall
