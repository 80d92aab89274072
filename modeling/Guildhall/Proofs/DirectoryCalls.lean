import Guildhall.Proofs.Isolation

/-!
The directory of open guilds between calls of any kind. Asking for a guild finds its scope, fails
and changes nothing, or opens a scope that is new, fully read and has the events of the seed
(`Directory.scope_asks`); what is done in it afterwards is work in its scope
(`Directory.within_eq_work`). What is kept of a guild is the scope that was given last, with the
work done in it since, unless it was closed (`DirectoryCall.kept_runAll`), and calls for other
guilds change nothing of it (`DirectoryCall.runAll_alike`). So whoever asks next gets that scope, or
a new one if one can be opened now (`DirectoryCall.scope_after_calls`).
-/

set_option autoImplicit false

namespace Guildhall

variable {γ ω : Type}

/-! ### Asking for a guild -/

namespace Scope

/-- What a scope has from its opening that no reading changes. -/
def label (sc : Scope γ) : String × Nat × Events := (sc.id, sc.serial, sc.events)

theorem label_preload (st : GuildStores (γ × ω)) (sc : Scope γ) (w : ω) :
    (sc.preload st w).2.1.label = sc.label := by
  simp only [preload]
  rcases hrules : sc.onPolicy (·.preload st.rules ·) w with ⟨e | ⟨⟩, sc₁, w₁⟩
  all_goals have hlabel₁ : sc₁.label = sc.label := congrArg (·.2.1.label) hrules.symm
  · exact hlabel₁
  dsimp only
  rcases hcommands : sc₁.onCommands (·.listAll st.commands ·) w₁ with ⟨e | rows, sc₂, w₂⟩
  all_goals have hlabel₂ : sc₂.label = sc₁.label := congrArg (·.2.1.label) hcommands.symm
  · exact hlabel₂.trans hlabel₁
  dsimp only
  rcases hkeywords : sc₂.onKeywords (·.listAll st.keywords ·) w₂ with ⟨e | rows, sc₃, w₃⟩
  all_goals
    have hlabel₃ : sc₃.label = sc₂.label := congrArg (·.2.1.label) hkeywords.symm
    exact hlabel₃.trans (hlabel₂.trans hlabel₁)

/-- A scope in which work was done. The work does not know when the guild was opened, and changes
neither that nor whose scope it is. -/
def worked (change : Scope γ → Scope γ) (sc : Scope γ) : Scope γ :=
  { change sc.unnumbered with id := sc.id, serial := sc.serial }

@[simp] theorem worked_serial (change : Scope γ → Scope γ) (sc : Scope γ) :
    (sc.worked change).serial = sc.serial := rfl

theorem worked_unnumbered (change : Scope γ → Scope γ) {sc sc' : Scope γ}
    (hsc : sc.unnumbered = sc'.unnumbered) :
    (sc.worked change).unnumbered = (sc'.worked change).unnumbered := by
  have hid : sc.id = sc'.id := congrArg (·.id) hsc
  simp only [worked, unnumbered] at hsc ⊢
  rw [hsc, hid]

end Scope

namespace Directory

variable {b : Backend γ ω} {guild : String} {d : Directory γ} {w : ω}

/-- Asking for a guild finds it open, fails without a trace, or opens a new scope that is fully
read. -/
inductive Asks (guild : String) (d : Directory γ) :
    Except OpenError (Scope γ) × Directory γ × ω → Prop
  | found {sc : Scope γ} {w : ω} (hopen : d.scopes.get? guild = some sc) :
      Asks guild d (.ok sc, d, w)
  | failed {e : OpenError} {w : ω} (hclosed : d.scopes.get? guild = none) :
      Asks guild d (.error e, d, w)
  | opened {sc : Scope γ} {w : ω} (hclosed : d.scopes.get? guild = none)
      (hlabel : sc.label = (guild, d.opened, d.events)) (hfull : sc.IsFull) :
      Asks guild d
        (.ok sc, { d with scopes := d.scopes.insert guild sc, opened := d.opened + 1 }, w)

theorem scope_asks (b : Backend γ ω) (guild : String) (d : Directory γ) (w : ω) :
    Asks guild d (d.scope b guild w) := by
  unfold scope
  cases hopen : d.scopes.get? guild with
  | some sc => exact .found hopen
  | none =>
    rcases b.openGuild guild w with ⟨fault | stored, w₁⟩
    · exact .failed hopen
    dsimp only
    generalize hnew : ({ id := guild, serial := d.opened, stored, events := d.events } :
      Scope γ) = new
    have hlabel := new.label_preload b.stores w₁
    have hfull : (new.preload b.stores w₁).1 = .ok () →
        (new.preload b.stores w₁).2.1.IsFull := Scope.isFull_of_preload
    generalize new.preload b.stores w₁ = read at hlabel hfull ⊢
    rcases read with ⟨e | ⟨⟩, sc, w₂⟩
    · exact .failed hopen
    · refine .opened hopen (hlabel.trans ?_) (hfull rfl)
      rw [← hnew]
      rfl

/-- Every open guild stands under its own id and was opened before now. -/
def Registered (d : Directory γ) : Prop :=
  ∀ guild sc, d.scopes.get? guild = some sc → sc.id = guild ∧ sc.serial < d.opened

theorem registered_empty (events : Events) : ({ events } : Directory γ).Registered :=
  fun guild sc hsc ↦ by simp at hsc

/-- Work is done in the scope of a guild, if it is open. -/
def work (guild : String) (change : Scope γ → Scope γ) (d : Directory γ) : Directory γ :=
  match d.scopes.get? guild with
  | some sc => { d with scopes := d.scopes.insert guild (sc.worked change) }
  | none => d

theorem get?_work (guild : String) (change : Scope γ → Scope γ) (d : Directory γ)
    (guild' : String) :
    (d.work guild change).scopes.get? guild' =
      if guild' = guild then (d.scopes.get? guild).map (Scope.worked change)
      else d.scopes.get? guild' := by
  unfold work
  cases hopen : d.scopes.get? guild with
  | some sc => simp only [Table.get?_insert, Option.map_some]
  | none =>
    split_ifs with hguild
    · rw [hguild, hopen, Option.map_none]
    · rfl

/-- What is done in a guild that could be given is work in its scope. -/
theorem within_eq_work {α : Type} {op : Scope γ → ω → α × Scope γ × ω} {sc sc' : Scope γ}
    {d₁ : Directory γ} {w₁ w₂ : ω} {a : α} (hscope : d.scope b guild w = (.ok sc, d₁, w₁))
    (hop : op sc w₁ = (a, sc', w₂)) (hid : sc'.id = sc.id) (hserial : sc'.serial = sc.serial) :
    d.within b guild op w = (.ok a, d₁.work guild fun _ ↦ sc', w₂) := by
  have hopen : d₁.scopes.get? guild = some sc := by
    have hasks := scope_asks b guild d w
    rw [hscope] at hasks
    cases hasks with
    | found hopen => exact hopen
    | opened hclosed hlabel hfull => rw [Table.get?_insert_self]
  have hworked : sc.worked (fun _ ↦ sc') = sc' := by rw [Scope.worked, ← hid, ← hserial]
  simp only [within, hscope, hop, work, hopen, hworked]

@[simp] theorem work_opened (guild : String) (change : Scope γ → Scope γ) (d : Directory γ) :
    (d.work guild change).opened = d.opened := by
  unfold work
  split <;> rfl

@[simp] theorem work_events (guild : String) (change : Scope γ → Scope γ) (d : Directory γ) :
    (d.work guild change).events = d.events := by
  unfold work
  split <;> rfl

namespace Registered

variable {sc : Scope γ}

theorem insert (hd : d.Registered) (hid : sc.id = guild) (hserial : sc.serial = d.opened) :
    ({ d with scopes := d.scopes.insert guild sc, opened := d.opened + 1 } :
      Directory γ).Registered := by
  intro guild' sc' hsc'
  rw [Table.get?_insert] at hsc'
  split_ifs at hsc' with hguild
  · rw [← Option.some.inj hsc', hguild, hserial]
    exact ⟨hid, Nat.lt_succ_self _⟩
  · obtain ⟨hid', hlt⟩ := hd guild' sc' hsc'
    exact ⟨hid', Nat.lt_succ_of_lt hlt⟩

theorem teardown (hd : d.Registered) (guild : String) : (d.teardown guild).2.Registered := by
  intro guild' sc' hsc'
  simp only [Directory.teardown, Table.get?_erase] at hsc'
  split_ifs at hsc'
  exact hd guild' sc' hsc'

theorem work (hd : d.Registered) (guild : String) (change : Scope γ → Scope γ) :
    (d.work guild change).Registered := by
  intro guild' sc' hsc'
  rw [get?_work] at hsc'
  rw [work_opened]
  split_ifs at hsc' with hguild
  · obtain ⟨sc, hsc, rfl⟩ := Option.map_eq_some_iff.mp hsc'
    rw [hguild]
    exact hd guild sc hsc
  · exact hd guild' sc' hsc'

end Registered

namespace Alike

variable {d' : Directory γ}

theorem contains_eq (hd : d.Alike guild d') :
    d.scopes.contains guild = d'.scopes.contains guild := by
  simpa only [Table.contains, Option.isSome_map] using congrArg Option.isSome hd.found

theorem work (hd : d.Alike guild d') (change : Scope γ → Scope γ) :
    (d.work guild change).Alike guild (d'.work guild change) where
  events := by rw [work_events, work_events, hd.events]
  found := by
    have hfound := hd.found
    rw [get?_work, get?_work, if_pos rfl, if_pos rfl]
    generalize d.scopes.get? guild = found at hfound ⊢
    generalize d'.scopes.get? guild = found' at hfound ⊢
    rcases found with _ | sc <;> rcases found' with _ | sc'
    · rfl
    · cases hfound
    · cases hfound
    · exact congrArg some (Scope.worked_unnumbered change (Option.some.inj hfound))

end Alike

end Directory

/-! ### Calls -/

/-- A call of a directory, made in whatever state the world is in then, or work that is done in a
scope which was given. -/
inductive DirectoryCall (γ ω : Type) where
  | scope (guild : String) (world : ω)
  | teardown (guild : String)
  | work (guild : String) (change : Scope γ → Scope γ)

/-- What became of a call. -/
inductive DirectoryEvent (γ : Type) where
  | given (guild : String) (sc : Scope γ)
  | failed (guild : String) (error : OpenError)
  | closed (guild : String) (wasOpen : Bool)
  | worked (guild : String) (change : Scope γ → Scope γ)

namespace DirectoryEvent

def guild : DirectoryEvent γ → String
  | given guild _ | failed guild _ | closed guild _ | worked guild _ => guild

/-- The number of the scope that was given. -/
def serial? : DirectoryEvent γ → Option Nat
  | given _ sc => some sc.serial
  | failed _ _ | closed _ _ | worked _ _ => none

/-- What became of a call, but for the number of the scope that was given. -/
def unnumbered : DirectoryEvent γ → DirectoryEvent γ
  | given guild sc => given guild sc.unnumbered
  | failed guild error => failed guild error
  | closed guild wasOpen => closed guild wasOpen
  | worked guild change => worked guild change

/-- The scope that is kept of a guild after an event, if `kept` was kept before. -/
def keeps (guild : String) (kept : Option (Scope γ)) : DirectoryEvent γ → Option (Scope γ)
  | given guild' sc => if guild = guild' then some sc else kept
  | failed _ _ => kept
  | closed guild' _ => if guild = guild' then none else kept
  | worked guild' change => if guild = guild' then kept.map (Scope.worked change) else kept

theorem keeps_of_ne {guild : String} {event : DirectoryEvent γ} (hother : event.guild ≠ guild)
    (kept : Option (Scope γ)) : event.keeps guild kept = kept := by
  cases event with
  | failed => rfl
  | given | closed | worked => exact if_neg (Ne.symm hother)

/-- The scope that was given last for a guild since it was closed last, with the work done in it
since. -/
def lastGiven? (guild : String) (events : List (DirectoryEvent γ)) : Option (Scope γ) :=
  events.foldl (keeps guild) none

/-- The numbers of the scopes that were given for a guild. -/
def serials (guild : String) (events : List (DirectoryEvent γ)) : List Nat :=
  (events.filter (·.guild = guild)).filterMap serial?

theorem serials_append_singleton (guild : String) (events : List (DirectoryEvent γ))
    (event : DirectoryEvent γ) :
    serials guild (events ++ [event]) =
      serials guild events ++ if event.guild = guild then event.serial?.toList else [] := by
  by_cases hguild : event.guild = guild
  · cases hserial : event.serial? <;> simp [serials, hguild, hserial]
  · simp [serials, hguild]

/-- Work leaves a scope its number, so that the scope that is kept is the one that was given
last. -/
theorem getLast?_serials {guild : String} {events : List (DirectoryEvent γ)} {sc : Scope γ}
    (hgiven : lastGiven? guild events = some sc) :
    (serials guild events).getLast? = some sc.serial := by
  induction events using List.reverseRecOn generalizing sc with
  | nil => cases hgiven
  | append_singleton events event ih =>
    have hkept : event.keeps guild (lastGiven? guild events) = some sc := by
      rwa [lastGiven?, List.foldl_append] at hgiven
    rw [serials_append_singleton]
    by_cases hguild : event.guild = guild
    · subst hguild
      cases event with
      | given guild' sc' =>
        obtain rfl : sc' = sc := by simpa [keeps, DirectoryEvent.guild] using hkept
        simp [serial?]
      | failed guild' error => simpa [serial?] using ih hkept
      | closed guild' wasOpen => simp [keeps, DirectoryEvent.guild] at hkept
      | worked guild' change =>
        obtain ⟨sc', hsc', rfl⟩ : ∃ sc', lastGiven? guild' events = some sc' ∧
            sc'.worked change = sc := by simpa [keeps, DirectoryEvent.guild] using hkept
        simpa [serial?] using ih hsc'
    · rw [keeps_of_ne hguild] at hkept
      rw [if_neg hguild, List.append_nil, ih hkept]

end DirectoryEvent

namespace DirectoryCall

open Directory

def guild : DirectoryCall γ ω → String
  | scope guild _ | teardown guild | work guild _ => guild

/-- Makes a call of a directory. -/
def run (b : Backend γ ω) (call : DirectoryCall γ ω) (d : Directory γ) :
    DirectoryEvent γ × Directory γ :=
  match call with
  | scope guild world =>
    match d.scope b guild world with
    | (.ok sc, d, _) => (.given guild sc, d)
    | (.error e, d, _) => (.failed guild e, d)
  | teardown guild => let r := d.teardown guild; (.closed guild r.1, r.2)
  | work guild change => (.worked guild change, d.work guild change)

/-- Makes calls in turn; gives what became of them and the directory that they leave. -/
def runAll (b : Backend γ ω) :
    List (DirectoryCall γ ω) → Directory γ → List (DirectoryEvent γ) × Directory γ
  | [], d => ([], d)
  | call :: calls, d =>
    let (event, d) := call.run b d
    let (events, d) := runAll b calls d
    (event :: events, d)

/-! ### One call -/

/-- A call for a guild finds it open, fails without a trace, opens a new scope that is fully read,
closes the guild or works in it. -/
inductive Step (guild : String) (d : Directory γ) : DirectoryEvent γ × Directory γ → Prop
  | found {sc : Scope γ} (hopen : d.scopes.get? guild = some sc) : Step guild d (.given guild sc, d)
  | failed (e : OpenError) : Step guild d (.failed guild e, d)
  | opened {sc : Scope γ} (hlabel : sc.label = (guild, d.opened, d.events)) :
      Step guild d (.given guild sc,
        { d with scopes := d.scopes.insert guild sc, opened := d.opened + 1 })
  | closed : Step guild d (.closed guild (d.scopes.contains guild), (d.teardown guild).2)
  | worked (change : Scope γ → Scope γ) :
      Step guild d (.worked guild change, d.work guild change)

theorem step_run (b : Backend γ ω) (call : DirectoryCall γ ω) (d : Directory γ) :
    Step call.guild d (call.run b d) := by
  cases call with
  | scope guild world =>
    have hasks := scope_asks b guild d world
    simp only [run]
    generalize d.scope b guild world = r at hasks ⊢
    cases hasks with
    | found hopen => exact .found hopen
    | failed hclosed => exact .failed _
    | opened hclosed hlabel hfull => exact .opened hlabel
  | teardown guild => exact .closed
  | work guild change => exact .worked change

variable {d d' : Directory γ} {guild : String} {r : DirectoryEvent γ × Directory γ}

theorem Step.guild_eq (hstep : Step guild d r) : r.1.guild = guild := by
  cases hstep <;> rfl

theorem Step.events_eq (hstep : Step guild d r) : r.2.events = d.events := by
  cases hstep with
  | found _ | failed _ | opened _ | closed => rfl
  | worked change => exact work_events guild change d

/-- After a call every guild has the scope that what became of the call keeps of it. -/
theorem Step.kept (hstep : Step guild d r) (other : String) :
    r.2.scopes.get? other = r.1.keeps other (d.scopes.get? other) := by
  cases hstep with
  | found hopen =>
    simp only [DirectoryEvent.keeps]
    split_ifs with hguild
    · rw [hguild, hopen]
    · rfl
  | failed => rfl
  | opened hlabel => simp only [DirectoryEvent.keeps, Table.get?_insert]
  | closed => simp only [Directory.teardown, DirectoryEvent.keeps, Table.get?_erase]
  | worked change =>
    simp only [get?_work, DirectoryEvent.keeps]
    split_ifs with hguild
    · rw [hguild]
    · rfl

theorem Step.opened_le (hstep : Step guild d r) : d.opened ≤ r.2.opened := by
  cases hstep with
  | found _ | failed _ | closed => exact Nat.le_refl _
  | opened _ => exact Nat.le_succ _
  | worked change => exact (work_opened guild change d).ge

theorem Step.registered (hstep : Step guild d r) (hd : d.Registered) :
    r.2.Registered := by
  cases hstep with
  | found _ | failed _ => exact hd
  | opened hlabel =>
    obtain ⟨hid, hserial, -⟩ := by simpa only [Scope.label, Prod.mk.injEq] using hlabel
    exact hd.insert hid hserial
  | closed => exact hd.teardown guild
  | worked change => exact hd.work guild change

/-- The scope that a call gives was opened before now. -/
theorem Step.serial_lt (hstep : Step guild d r) (hd : d.Registered) {n : Nat}
    (hn : r.1.serial? = some n) : n < r.2.opened := by
  cases hstep with
  | found hopen =>
    rw [← Option.some.inj hn]
    exact (hd guild _ hopen).2
  | opened hlabel =>
    obtain ⟨-, hserial, -⟩ := by simpa only [Scope.label, Prod.mk.injEq] using hlabel
    rw [← Option.some.inj hn, hserial]
    exact Nat.lt_succ_self _
  | failed _ | closed | worked _ => cases hn

/-! ### Any calls -/

theorem kept_runAll (b : Backend γ ω) (calls : List (DirectoryCall γ ω)) (d : Directory γ)
    (guild : String) :
    (runAll b calls d).2.scopes.get? guild =
      (runAll b calls d).1.foldl (DirectoryEvent.keeps guild) (d.scopes.get? guild) := by
  induction calls generalizing d with
  | nil => rfl
  | cons call calls ih =>
    simp only [runAll, List.foldl_cons]
    rw [ih, (step_run b call d).kept]

theorem events_runAll (b : Backend γ ω) (calls : List (DirectoryCall γ ω)) (d : Directory γ) :
    (runAll b calls d).2.events = d.events := by
  induction calls generalizing d with
  | nil => rfl
  | cons call calls ih => exact (ih _).trans (step_run b call d).events_eq

theorem opened_le_runAll (b : Backend γ ω) (calls : List (DirectoryCall γ ω))
    (d : Directory γ) : d.opened ≤ (runAll b calls d).2.opened := by
  induction calls generalizing d with
  | nil => exact Nat.le_refl _
  | cons call calls ih => exact (step_run b call d).opened_le.trans (ih _)

/-- After any calls the open guilds are registered, and the scopes that were given so far were all
opened before now. -/
theorem registered_runAll (b : Backend γ ω) (calls : List (DirectoryCall γ ω))
    {d : Directory γ} (hd : d.Registered) :
    (runAll b calls d).2.Registered ∧
      ∀ n ∈ (runAll b calls d).1.filterMap DirectoryEvent.serial?,
        n < (runAll b calls d).2.opened := by
  induction calls generalizing d with
  | nil => exact ⟨hd, by simp [runAll]⟩
  | cons call calls ih =>
    have hstep := step_run b call d
    obtain ⟨hregistered, hserials⟩ := ih (hstep.registered hd)
    refine ⟨hregistered, fun n hn ↦ ?_⟩
    obtain ⟨event, hevent, hn⟩ := List.mem_filterMap.mp hn
    rcases List.mem_cons.mp hevent with rfl | hlater
    · exact (hstep.serial_lt hd hn).trans_le (opened_le_runAll b calls _)
    · exact hserials n (List.mem_filterMap.mpr ⟨event, hlater, hn⟩)

/-! ### Other guilds -/

/-- A call for one guild comes out alike in directories of which that guild sees the same, and
leaves them so. -/
theorem run_alike (b : Backend γ ω) (call : DirectoryCall γ ω) (hd : d.Alike call.guild d') :
    (call.run b d).1.unnumbered = (call.run b d').1.unnumbered ∧
      (call.run b d).2.Alike call.guild (call.run b d').2 := by
  cases call with
  | scope guild world =>
    have hscope := hd.scope_eq b world
    dsimp only [DirectoryCall.guild] at hscope
    simp only [run]
    generalize d.scope b guild world = r at hscope ⊢
    generalize d'.scope b guild world = r' at hscope ⊢
    obtain ⟨found, d₁, w₁⟩ := r
    obtain ⟨found', d₁', w₁'⟩ := r'
    obtain ⟨hfound, hd₁, -⟩ := hscope
    rcases found with e | sc <;> rcases found' with e' | sc'
    · exact ⟨congrArg (DirectoryEvent.failed guild) (Except.error.inj hfound), hd₁⟩
    · cases hfound
    · cases hfound
    · exact ⟨congrArg (DirectoryEvent.given guild) (Except.ok.inj hfound), hd₁⟩
  | teardown guild => exact ⟨congrArg (DirectoryEvent.closed guild) hd.contains_eq, hd.teardown⟩
  | work guild change => exact ⟨rfl, hd.work change⟩

/-- A call for another guild is nothing that a guild sees. -/
theorem run_alike_of_ne (b : Backend γ ω) {call : DirectoryCall γ ω} (hother : call.guild ≠ guild)
    (d : Directory γ) : (call.run b d).2.Alike guild d := by
  have hstep := step_run b call d
  refine ⟨hstep.events_eq, ?_⟩
  rw [hstep.kept guild, DirectoryEvent.keeps_of_ne]
  rwa [hstep.guild_eq]

/-- What becomes of the calls for a guild, but for the numbers of its scopes, is what becomes of
them alone. -/
theorem runAll_alike (b : Backend γ ω) (calls : List (DirectoryCall γ ω))
    (hd : d.Alike guild d') :
    ((runAll b calls d).1.filter (·.guild = guild)).map DirectoryEvent.unnumbered =
      (runAll b (calls.filter (·.guild = guild)) d').1.map DirectoryEvent.unnumbered := by
  induction calls generalizing d d' with
  | nil => rfl
  | cons call calls ih =>
    have hguild := (step_run b call d).guild_eq
    by_cases hcall : call.guild = guild
    · subst hcall
      obtain ⟨hevent, halike⟩ := run_alike b call hd
      simp only [runAll, List.filter_cons, hguild, decide_true, if_true, List.map_cons, hevent,
        ih halike]
    · have halike := (run_alike_of_ne b hcall d).trans hd
      simp only [runAll, List.filter_cons, hguild, hcall, decide_false, Bool.false_eq_true,
        if_false, ih halike]

/-! ### Who asks next -/

/-- Guilds stay open until they are closed. After any calls, among them such that failed, whoever
asks for a guild is given the very scope, with its number, that was given last since the guild was
closed, with the work done in it since; or, if there is none, what is given in a directory in which
nothing was asked for before, up to its number: a scope that is new, has read all four collections
and has the events of the seed, or an error that leaves the directory as it is. What becomes of the
calls for a guild does not depend on those for others. -/
theorem scope_after_calls (b : Backend γ ω) (seed : Table String (List String))
    (calls : List (DirectoryCall γ ω)) (guild : String) (world : ω) :
    let new : Directory γ := { events := .ofSeed seed }
    let before := runAll b calls new
    let asked := before.2.scope b guild world
    (match DirectoryEvent.lastGiven? guild before.1 with
      | some sc => asked.1 = .ok sc ∧ asked.2.1 = before.2 ∧ sc.id = guild ∧
          (DirectoryEvent.serials guild before.1).getLast? = some sc.serial
      | none =>
        asked.1.map Scope.unnumbered = (new.scope b guild world).1.map Scope.unnumbered ∧
          match asked.1 with
          | .ok sc => sc.IsFull ∧ sc.events = .ofSeed seed ∧ sc.id = guild ∧
              sc.serial ∉ before.1.filterMap DirectoryEvent.serial?
          | .error _ => asked.2.1 = before.2) ∧
      (before.1.filter (·.guild = guild)).map DirectoryEvent.unnumbered =
        (runAll b (calls.filter (·.guild = guild)) new).1.map DirectoryEvent.unnumbered := by
  intro new before asked
  refine ⟨?_, runAll_alike b calls ⟨rfl, rfl⟩⟩
  have hkept : before.2.scopes.get? guild = DirectoryEvent.lastGiven? guild before.1 :=
    kept_runAll b calls new guild
  have hevents : before.2.events = .ofSeed seed := events_runAll b calls new
  obtain ⟨hregistered, hserials⟩ : before.2.Registered ∧
      ∀ n ∈ before.1.filterMap DirectoryEvent.serial?, n < before.2.opened :=
    registered_runAll b calls (registered_empty _)
  have hasks : Asks guild before.2 asked := scope_asks b guild before.2 world
  rw [← hkept]
  cases hopen : before.2.scopes.get? guild with
  | some sc =>
    have hserial := DirectoryEvent.getLast?_serials (hkept.symm.trans hopen)
    generalize asked = r at hasks
    cases hasks with
    | found hopen' =>
      rw [hopen] at hopen'
      cases hopen'
      exact ⟨rfl, rfl, (hregistered guild sc hopen).1, hserial⟩
    | failed hclosed => simp [hopen] at hclosed
    | opened hclosed _ _ => simp [hopen] at hclosed
  | none =>
    have halike : before.2.Alike guild new := ⟨hevents, by rw [hopen]; rfl⟩
    refine ⟨(halike.scope_eq b world).1, ?_⟩
    generalize asked = r at hasks ⊢
    cases hasks with
    | found hopen' => simp [hopen] at hopen'
    | failed hclosed => rfl
    | opened hclosed hlabel hfull =>
      obtain ⟨hid, hserial, hseed⟩ := by simpa only [Scope.label, Prod.mk.injEq] using hlabel
      refine ⟨hfull, hseed.trans hevents, hid, fun hmem ↦ ?_⟩
      have hlt := hserials _ hmem
      rw [hserial] at hlt
      exact Nat.lt_irrefl _ hlt

/-- A guild that cannot be opened, then not be read, then signs a member up, and another guild that
is closed: the first is kept even where it could not be opened any more, the other is opened anew
with a number of its own. -/
example :
    let unreadable : Switchboard := { switches := ⟨{}, {}, {}, { failReads := true }⟩ }
    let join : Scope (GuildRows Switched) → Scope (GuildRows Switched) := fun sc ↦
      { sc with events := (sc.events.join "feast" "cas").2 }
    let before := runAll .switched [.scope "hall" { openFails := true }, .scope "hall" unreadable,
      .scope "hall" {}, .work "hall" join, .scope "yard" {}, .teardown "yard"] {}
    let card := fun (sc : Scope (GuildRows Switched)) ↦ (sc.serial, sc.events.names)
    (before.2.scope .switched "hall" { openFails := true }).1.toOption.map card =
        some (0, ["feast"]) ∧
      (before.2.scope .switched "yard" {}).1.toOption.map card = some (2, []) ∧
      (before.2.scope .switched "yard" unreadable).1.toOption.map card = none := by
  decide

end DirectoryCall

end Guildhall
