import Guildhall.Bot.Console
import Guildhall.Proofs.MentionedMembers
import Mathlib.Data.List.DropRight

/-!
Who a message at the console is from. A line that begins with a slash orders a guild, a channel or
a speaker if a verb and one word follow (`Console.order?`, `Console.speaker?`), and a line changes
what it orders and nothing else (`Console.read_snd`). So after a session of any length each part of
the console is what the last line ordered that orders it (`Console.after_eq`). A message carries
that, with the name and the roles that the configuration has for this speaker, whoever spoke before
(`Console.message_is_attributed`).
-/

set_option autoImplicit false

namespace Guildhall.Console

open Text

/-! ### What lines order -/

/-- The one word that follows a verb. -/
def wordAfter? (verb : String) : List String → Option String
  | [v, word] => if v = verb then some word else none
  | _ => none

/-- The word that a line has after a slash and a verb. -/
def order? (verb line : String) : Option String :=
  if line.toList.head? = some '/' then
    wordAfter? verb ((words line.toList.tail).map String.ofList)
  else none

/-- The member that a line orders the console to speak as. -/
def speaker? (line : String) : Option Id := (order? "as" line).bind (signedWord? ·.toList)

/-- The last of what lines order. -/
def last? {α : Type} (order : String → Option α) (lines : List String) : Option α :=
  lines.reverse.findSome? order

/-- The console after lines. -/
def after (cfg : Config) (lines : List String) (c : Console) : Console :=
  lines.foldl (fun c line ↦ (c.read cfg line).2) c

/-- The console after orders. -/
def obey (cfg : Config) (guild channel : Option String) (speaker : Option Id) (c : Console) :
    Console where
  guild := guild.getD c.guild
  channel := channel.getD c.channel
  speaker := speaker.getD c.speaker
  speakerName :=
    (speaker.map fun id ↦ (cfg.name? id).getD s!"user{id}").getD c.speakerName

theorem wordAfter?_eq_some_iff {verb word : String} {ws : List String} :
    wordAfter? verb ws = some word ↔ ws = [verb, word] := by
  unfold wordAfter?
  split
  · simp
  · next hother =>
    refine ⟨fun h ↦ absurd h nofun, ?_⟩
    rintro rfl
    exact absurd rfl (hother verb word)

theorem wordAfter?_eq_none {verb : String} {ws : List String} (hws : ∀ word, ws ≠ [verb, word]) :
    wordAfter? verb ws = none :=
  Option.eq_none_iff_forall_ne_some.mpr fun word h ↦ hws word (wordAfter?_eq_some_iff.mp h)

theorem last?_concat {α : Type} (order : String → Option α) (lines : List String) (line : String) :
    last? order (lines ++ [line]) = (order line).or (last? order lines) := by
  rw [last?, List.reverse_append, List.reverse_singleton, List.singleton_append,
    List.findSome?_cons]
  cases order line <;> rfl

section

variable {cfg : Config} (c : Console)

theorem after_concat (lines : List String) (line : String) :
    c.after cfg (lines ++ [line]) = ((c.after cfg lines).read cfg line).2 := by
  rw [after, List.foldl_append]
  rfl

/-- Of two orders the later one counts. -/
theorem obey_obey (guild guild' channel channel' : Option String) (speaker speaker' : Option Id) :
    (c.obey cfg guild channel speaker).obey cfg guild' channel' speaker' =
      c.obey cfg (guild'.or guild) (channel'.or channel) (speaker'.or speaker) := by
  simp only [obey]
  congr 1
  · cases guild' <;> rfl
  · cases channel' <;> rfl
  · cases speaker' <;> rfl
  · cases speaker' <;> rfl

/-- A speaker without a configured name is called by their id, or as the console was told at its
start if no line ordered a speaker. -/
theorem name_getD_obey (guild channel : Option String) (speaker : Option Id) :
    (cfg.name? (speaker.getD c.speaker)).getD (c.obey cfg guild channel speaker).speakerName =
      (cfg.name? (speaker.getD c.speaker)).getD
        ((speaker.map fun id ↦ s!"user{id}").getD c.speakerName) := by
  cases speaker with
  | none => rfl
  | some id =>
    rw [Option.getD_some, obey, Option.map_some, Option.getD_some, Option.map_some,
      Option.getD_some]
    cases cfg.name? id <;> rfl

/-! ### One line -/

theorem isBlank_of_isLineEnd {ch : Char} (hch : isLineEnd ch = true) : isBlank ch = true := by
  simp only [isLineEnd, Bool.or_eq_true, beq_iff_eq] at hch
  rcases hch with rfl | rfl <;> decide

/-- What is made of a line: its first character tells, unless the line is blank. -/
theorem read_eq (line : String) :
    c.read cfg line =
      if line.toList.all isBlank then (.blank, c)
      else if line.toList.head? = some '/' then
        c.control cfg ((words line.toList.tail).map String.ofList)
      else (.message (c.say cfg (line.toList.rdropWhile isLineEnd)), c) := by
  have htext : (line.toList.reverse.dropWhile isLineEnd).reverse =
      line.toList.rdropWhile isLineEnd := rfl
  have hsplit : line.toList.rdropWhile isLineEnd ++ line.toList.rtakeWhile isLineEnd =
      line.toList := List.rdropWhile_append_rtakeWhile
  have hends : ∀ ch ∈ line.toList.rtakeWhile isLineEnd, isBlank ch = true :=
    fun ch hch ↦ isBlank_of_isLineEnd (List.mem_rtakeWhile_imp hch)
  simp only [read, htext]
  generalize line.toList.rdropWhile isLineEnd = text at hsplit ⊢
  rw [← hsplit, List.all_append, List.all_eq_true.mpr hends, Bool.and_true]
  -- What ends the line is blank, so it is no part of a word.
  cases text with
  | nil => rfl
  | cons ch rest =>
    rw [List.cons_append, List.head?_cons, List.tail_cons, words_append_blanks rest hends]
    by_cases hch : ch = '/'
    · subst hch
      rfl
    · have hhead : some ch ≠ some '/' := fun h ↦ hch (Option.some.inj h)
      rw [if_neg hhead]
      split_ifs
      · rfl
      · split
        · next h => exact absurd (List.cons.inj h).1 hch
        · rfl

/-- What a control line is answered with is a notice, unless it ends the session. -/
theorem control_fst (cfg : Config) (ws : List String) :
    (c.control cfg ws).1 = .quit ∨ ∃ notice, (c.control cfg ws).1 = .notice notice := by
  unfold control
  split
  · exact .inl rfl
  · exact .inl rfl
  · split <;> exact .inr ⟨_, rfl⟩
  · exact .inr ⟨_, rfl⟩
  · exact .inr ⟨_, rfl⟩
  · exact .inr ⟨_, rfl⟩

theorem control_snd (ws : List String) :
    (c.control cfg ws).2 = c.obey cfg (wordAfter? "guild" ws) (wordAfter? "channel" ws)
      ((wordAfter? "as" ws).bind (signedWord? ·.toList)) := by
  unfold control
  split
  · rfl
  · rfl
  · rename_i word
    have hspeaker : wordAfter? "as" ["as", word] = some word := rfl
    rw [hspeaker, Option.bind_some]
    cases signedWord? word.toList <;> rfl
  · rfl
  · rfl
  · next _ _ has hchannel hguild =>
    rw [wordAfter?_eq_none hguild, wordAfter?_eq_none hchannel, wordAfter?_eq_none has]
    rfl

/-- A line changes what it orders. -/
theorem read_snd (line : String) :
    (c.read cfg line).2 =
      c.obey cfg (order? "guild" line) (order? "channel" line) (speaker? line) := by
  rw [read_eq]
  simp only [speaker?, order?]
  by_cases hslash : line.toList.head? = some '/'
  · have hblank : line.toList.all isBlank = false := by
      refine List.all_eq_false.mpr ⟨'/', List.mem_of_head? hslash, by decide⟩
    simp only [hblank, hslash, Bool.false_eq_true, if_false, if_true, control_snd]
  · simp only [hslash, if_false]
    split_ifs <;> rfl

/-- After a session each part of the console is what the last line ordered that orders it. -/
theorem after_eq (lines : List String) :
    c.after cfg lines = c.obey cfg (last? (order? "guild") lines) (last? (order? "channel") lines)
      (last? speaker? lines) := by
  induction lines using List.reverseRecOn with
  | nil => rfl
  | append_singleton lines line ih =>
    rw [after_concat, read_snd, ih, obey_obey, last?_concat, last?_concat, last?_concat]

end

/-! ### A session -/

/-- Every line that is neither blank nor a control line is a message, from the place and the speaker
that the last lines before it ordered or that the console started with. It has the name and the
roles that the configuration has for this speaker, and it mentions the configured members that its
tokens name, in their order. A line that orders nothing changes nothing. -/
theorem message_is_attributed (cfg : Config) (start : Console) (lines : List String)
    (line : String) :
    let c := start.after cfg lines
    let speaker := last? speaker? lines
    (match (c.read cfg line).1 with
      | .message msg =>
        line.toList.head? ≠ some '/' ∧ (∃ ch ∈ line.toList, isBlank ch = false) ∧
          msg.guild = (last? (order? "guild") lines).getD start.guild ∧
          msg.channel = (last? (order? "channel") lines).getD start.channel ∧
          msg.invoker.id = speaker.getD start.speaker ∧
          msg.invoker.name = (cfg.name? msg.invoker.id).getD
            ((speaker.map fun id ↦ s!"user{id}").getD start.speakerName) ∧
          msg.invoker.roles = (cfg.roles.get? msg.invoker.id).getD [] ∧
          msg.text.toList = line.toList.rdropWhile isLineEnd ∧
          ∃ ids, (∀ ids', Mention.Members msg.text.toList ids' ↔ ids' = ids) ∧
            msg.mentions = ids.filterMap cfg.name?
      | .blank => ∀ ch ∈ line.toList, isBlank ch = true
      | .notice _ | .quit => line.toList.head? = some '/') ∧
    (order? "guild" line = none → order? "channel" line = none → speaker? line = none →
      (c.read cfg line).2 = c) := by
  intro c speaker
  have hc : c = start.obey cfg (last? (order? "guild") lines) (last? (order? "channel") lines)
      speaker := start.after_eq lines
  refine ⟨?_, fun hguild hchannel hspeaker ↦ ?_⟩
  · rw [read_eq]
    by_cases hblank : line.toList.all isBlank
    · rw [if_pos hblank]
      exact List.all_eq_true.mp hblank
    rw [if_neg hblank]
    by_cases hslash : line.toList.head? = some '/'
    · rw [if_pos hslash]
      obtain hquit | ⟨notice, hnotice⟩ :=
        c.control_fst cfg ((words line.toList.tail).map String.ofList)
      · rw [hquit]
        exact hslash
      · rw [hnotice]
        exact hslash
    · rw [if_neg hslash]
      refine ⟨hslash, by simpa using hblank, ?_⟩
      rw [hc]
      refine ⟨rfl, rfl, rfl, ?_, rfl, String.toList_ofList, _, fun ids ↦ Mention.members_iff, ?_⟩
      · exact start.name_getD_obey _ _ speaker
      · simp only [say, String.toList_ofList, mentions, List.filterMap_filterMap]
  · rw [read_snd, hguild, hchannel, hspeaker]
    rfl

/-- Roles and name are those of the last speaker that a line orders; a line that names none leaves
them. -/
example :
    let cfg : Config := { names := .ofList [(1, "Ada"), (2, "Bob")], roles := .ofList [(2, [5])] }
    let start : Console := { guild := "hall", speaker := 1, speakerName := "operator" }
    let c := start.after cfg ["/as 2", "/as 7", "/channel memes", "/as Bob", "/guild", " "]
    (c.read cfg "hi <@2>, <@!1> and <@99>\n").1 = .message
      { guild := "hall", channel := "memes", invoker := { id := 7, name := "user7", roles := [] },
        text := "hi <@2>, <@!1> and <@99>", mentions := ["Bob", "Ada"] } := by
  decide +kernel

end Guildhall.Console
