import Guildhall.Command.Authoring
import Guildhall.Command.Cooldowns
import Guildhall.Command.Permissions
import Guildhall.Proofs.ActionWords
import Guildhall.Proofs.CheckedAction
import Guildhall.Proofs.NormalTriggers

/-!
Keys as members type them. A text names a rule by a trigger and what follows it, a custom command by
a trigger and a keyword by a word (`Collection.keyNamed?`). Only the words of the text count
(`Collection.keyNamed?_congr`), and the key is in a form that reading it again does not change,
whatever characters were typed (`Collection.keyNamed?_self`). Each request that asks for a row to be
written does so under a key that a text named, and the verbs of a removal take a key as one is named
(for rules `PermissionRequest.exists_text_of_ofArgs` and `PermissionRequest.ofArgs_removal`).
-/

set_option autoImplicit false

namespace Guildhall

open Text

variable {σ : Type}

/-! ### The words of a text -/

namespace Text

theorem words_splitFirst (s : List Char) :
    (splitFirst s).1 = (words s).headD [] ∧ words (splitFirst s).2 = (words s).tail := by
  by_cases hempty : (splitFirst s).1 = []
  · have hnone : words s = [] := by rw [words_eq, if_pos hempty]
    have htrim : trim s = [] := (words_eq_nil_iff s).mp hnone
    have hrest : (splitFirst s).2 = [] := by simp [splitFirst, htrim, splitBlank?_eq]
    rw [hnone, hempty, hrest]
    exact ⟨rfl, rfl⟩
  · have hwords := words_eq s
    rw [if_neg hempty] at hwords
    rw [hwords]
    exact ⟨rfl, rfl⟩

end Text

/-! ### Named actions -/

/-- An action is named by its words: the first one as a trigger, the others as they are. -/
theorem actionNamed?_eq (s : List Char) :
    actionNamed? s =
      if normalizeTrigger ((words s).headD []) = [] then none
      else some (normalizeTrigger ((words s).headD []) ++ (words s).tail.flatMap (' ' :: ·)) := by
  have hword : ∀ c ∈ (splitFirst s).1, isBlank c = false := fun c hc ↦ isBlank_of_mem_splitFirst hc
  obtain ⟨hfirst, hrest⟩ := words_splitFirst s
  have hlower : toLower (trim (normalizeTrigger (splitFirst s).1)) =
      normalizeTrigger (splitFirst s).1 := by
    rw [trim_eq_self (normalizeTrigger_word hword).1, toLower_normalizeTrigger]
  simp only [actionNamed?, List.isEmpty_iff, actionString, hrest, hlower]
  rw [hfirst]

/-- An action that a text names, names itself. -/
theorem actionNamed?_self {text action : List Char} (haction : actionNamed? text = some action) :
    actionNamed? action = some action := by
  have hwords : ∀ word ∈ (words text).tail, word ≠ [] ∧ ∀ c ∈ word, isBlank c = false :=
    fun word hword ↦ isWord_of_mem_words (List.mem_of_mem_tail hword)
  have hfirst : ∀ c ∈ (words text).headD [], isBlank c = false := by
    rw [← (words_splitFirst text).1]
    exact fun c hc ↦ isBlank_of_mem_splitFirst hc
  rw [actionNamed?_eq] at haction
  split_ifs at haction with hempty
  obtain rfl := Option.some.inj haction
  have hagain : words (normalizeTrigger ((words text).headD []) ++
      (words text).tail.flatMap (' ' :: ·)) =
        normalizeTrigger ((words text).headD []) :: (words text).tail :=
    words_append_flatMap hempty (normalizeTrigger_word hfirst).1 hwords
  rw [actionNamed?_eq, hagain, List.headD_cons, List.tail_cons,
    normalizeTrigger_normalizeTrigger hfirst]
  exact if_neg hempty

namespace Collection

/-- The key under which a text names a row of a collection. -/
def keyNamed? (c : Collection) (text : List Char) : Option (List Char) :=
  match c with
  | permissions | cooldowns => actionNamed? text
  | commands =>
    let name := normalizeTrigger (splitFirst text).1
    if name = [] then none else some name
  | keywords =>
    let name := toLower (splitFirst text).1
    if name = [] then none else some name

variable {c : Collection} {text key : List Char}

/-- Only the words of a text count. -/
theorem keyNamed?_congr {text' : List Char} (hwords : words text = words text') :
    c.keyNamed? text = c.keyNamed? text' := by
  have hfirst : (splitFirst text).1 = (splitFirst text').1 := by
    rw [(words_splitFirst text).1, (words_splitFirst text').1, hwords]
  cases c with
  | permissions => rw [keyNamed?, keyNamed?, actionNamed?_eq, actionNamed?_eq, hwords]
  | cooldowns => rw [keyNamed?, keyNamed?, actionNamed?_eq, actionNamed?_eq, hwords]
  | commands => rw [keyNamed?, keyNamed?, hfirst]
  | keywords => rw [keyNamed?, keyNamed?, hfirst]

/-- A key that a text names, names itself. -/
theorem keyNamed?_self (hkey : c.keyNamed? text = some key) : c.keyNamed? key = some key := by
  have hword : ∀ ch ∈ (splitFirst text).1, isBlank ch = false :=
    fun ch hch ↦ isBlank_of_mem_splitFirst hch
  have hself {word : List Char} (hne : word ≠ []) (hblank : ∀ ch ∈ word, isBlank ch = false) :
      (splitFirst word).1 = word := by
    rw [(words_splitFirst word).1, words_word hne hblank]
    rfl
  cases c with
  | permissions | cooldowns =>
    simp only [keyNamed?] at hkey ⊢
    exact actionNamed?_self hkey
  | commands =>
    simp only [keyNamed?] at hkey ⊢
    split_ifs at hkey with hempty
    obtain rfl := Option.some.inj hkey
    rw [hself hempty (normalizeTrigger_word hword).1, normalizeTrigger_normalizeTrigger hword,
      if_neg hempty]
  | keywords =>
    simp only [keyNamed?] at hkey ⊢
    split_ifs at hkey with hempty
    obtain rfl := Option.some.inj hkey
    rw [hself hempty (isBlank_of_mem_toLower hword), toLower_toLower, if_neg hempty]

end Collection

/-! ### The arguments of commands -/

theorem actionArgument?_eq_some_iff {text : List Char} {action : String} :
    actionArgument? text = some action ↔ actionNamed? text = some action.toList := by
  rw [actionArgument?, Option.map_eq_some_iff]
  constructor
  · rintro ⟨key, hkey, rfl⟩
    rwa [String.toList_ofList]
  · exact fun hkey ↦ ⟨_, hkey, String.ofList_toList⟩

theorem Collection.keyNamed?_commands_iff {text : List Char} {name : String} :
    commands.keyNamed? text = some name.toList ↔
      (triggerArgument text).1 = name ∧ name.isEmpty = false := by
  simp only [keyNamed?, triggerArgument]
  rw [Option.ite_none_left_eq_some, Option.some.injEq]
  constructor
  · rintro ⟨hne, hname⟩
    rw [hname] at hne ⊢
    exact ⟨String.ofList_toList, by simpa [String.isEmpty_iff] using hne⟩
  · rintro ⟨rfl, hne⟩
    rw [String.toList_ofList]
    exact ⟨by simpa [String.isEmpty_iff] using hne, rfl⟩

theorem Collection.keyNamed?_keywords_iff {text : List Char} {name : String} :
    keywords.keyNamed? text = some name.toList ↔
      (nameArgument text).1 = name ∧ name.isEmpty = false := by
  simp only [keyNamed?, nameArgument, subcommand]
  rw [Option.ite_none_left_eq_some, Option.some.injEq]
  constructor
  · rintro ⟨hne, hname⟩
    rw [hname] at hne ⊢
    exact ⟨String.ofList_toList, by simpa [String.isEmpty_iff] using hne⟩
  · rintro ⟨rfl, hne⟩
    rw [String.toList_ofList]
    exact ⟨by simpa [String.isEmpty_iff] using hne, rfl⟩

/-! ### The keys of requests -/

/-- The verbs that ask for a row to be taken away. -/
def removalVerbs : List String := ["remove", "delete"]

/-- A verb before a key is read as a verb, and the words of the key are left. -/
theorem subcommand_append {verb : String} (hverb : verb ∈ removalVerbs) (key : String) :
    (subcommand (verb ++ " " ++ key).toList).1 = verb ∧
      words (subcommand (verb ++ " " ++ key).toList).2 = words key.toList := by
  have hall : ∀ verb ∈ removalVerbs, verb.toList ≠ [] ∧ verb.toList.all (!isBlank ·) = true ∧
      String.ofList (toLower verb.toList) = verb := by decide
  obtain ⟨hne, hplain, hlower⟩ := hall verb hverb
  have hword : ∀ c ∈ verb.toList, isBlank c = false := by simpa using hplain
  have hspace : isBlank ' ' = true := by decide
  have htext : (verb ++ " " ++ key).toList = verb.toList ++ ' ' :: key.toList := by simp
  have hwords : words (verb ++ " " ++ key).toList = verb.toList :: words key.toList := by
    rw [htext, words_word_append hne hword hspace]
  obtain ⟨hfirst, hrest⟩ := words_splitFirst (verb ++ " " ++ key).toList
  rw [hwords] at hfirst hrest
  simp only [subcommand, hfirst, List.headD_cons, hlower, hrest, List.tail_cons, and_self]

/-- What is found in a value that was made, and not in the one that stands for none, was made. -/
theorem exists_of_map_getD {α β δ : Type} {found : Option α} {make : α → β} {otherwise : β}
    {f : β → Option δ} (hotherwise : f otherwise = none) {x : δ}
    (hx : f ((found.map make).getD otherwise) = some x) :
    ∃ a, found = some a ∧ f (make a) = some x := by
  cases found with
  | none => simp [hotherwise] at hx
  | some a => exact ⟨a, rfl, hx⟩

namespace PermissionRequest

/-- The action of the rule that a request asks to be written. -/
def written? : PermissionRequest → Option String
  | set _ action | addRole _ action => some action
  | unknownRank _ | get _ | remove _ | list | usage => none

theorem ofArgs_removal {args : List Char} {action : String}
    (hverb : (subcommand args).1 ∈ removalVerbs)
    (haction : actionNamed? (subcommand args).2 = some action.toList) :
    ofArgs args = .remove action := by
  rw [← actionArgument?_eq_some_iff] at haction
  simp only [removalVerbs, List.mem_cons, List.not_mem_nil, or_false] at hverb
  rcases hverb with hverb | hverb <;> simp [ofArgs, hverb, haction]

theorem exists_text_of_ofArgs {args : List Char} {action : String}
    (hwritten : (ofArgs args).written? = some action) :
    ∃ text, actionNamed? text = some action.toList := by
  simp only [← actionArgument?_eq_some_iff]
  unfold ofArgs at hwritten
  dsimp only at hwritten
  split at hwritten
  · split at hwritten
    · cases hwritten
    · obtain ⟨named, hnamed, hsame⟩ := exists_of_map_getD rfl hwritten
      exact ⟨_, hnamed.trans hsame⟩
  · split at hwritten
    · rename_i hnamed
      exact ⟨_, hnamed.trans hwritten⟩
    · cases hwritten
  · obtain ⟨_, -, hnone⟩ := exists_of_map_getD rfl hwritten
    cases hnone
  · obtain ⟨_, -, hnone⟩ := exists_of_map_getD rfl hwritten
    cases hnone
  · obtain ⟨_, -, hnone⟩ := exists_of_map_getD rfl hwritten
    cases hnone
  · cases hwritten
  · cases hwritten
  · cases hwritten

variable {st : RuleStores σ}

theorem rule_of_store {rule rule' : PermissionRule} {p : Policy} {s : σ}
    (hanswer : (store st rule p s).1 = .requires rule') : rule' = rule := by
  unfold store at hanswer
  split at hanswer
  · exact (PermissionAnswer.requires.inj hanswer).symm
  · cases hanswer

theorem written?_of_requires {request : PermissionRequest} {p : Policy} {s : σ}
    {rule : PermissionRule} (hanswer : (request.run st p s).1 = .requires rule) :
    request.written? = some rule.action := by
  cases request with
  | set rank action => rw [rule_of_store hanswer, written?]
  | addRole role action => rw [rule_of_store hanswer, written?]
  | usage => cases hanswer
  | unknownRank word => cases hanswer
  | get action => cases hanswer
  | remove action => 
    simp only [run] at hanswer
    split at hanswer <;> cases hanswer
  | list => 
    simp only [run] at hanswer
    split at hanswer <;> cases hanswer

end PermissionRequest

namespace CooldownRequest

/-- The action of the cooldown that a request asks to be written. -/
def written? : CooldownRequest → Option String
  | set _ action => some action
  | remove _ | list | usage => none

theorem ofArgs_removal {args : List Char} {action : String}
    (hverb : (subcommand args).1 ∈ removalVerbs)
    (haction : actionNamed? (subcommand args).2 = some action.toList) :
    ofArgs args = .remove action := by
  rw [← actionArgument?_eq_some_iff] at haction
  simp only [removalVerbs, List.mem_cons, List.not_mem_nil, or_false] at hverb
  rcases hverb with hverb | hverb <;> simp [ofArgs, hverb, haction]

theorem exists_text_of_ofArgs {args : List Char} {action : String}
    (hwritten : (ofArgs args).written? = some action) :
    ∃ text, actionNamed? text = some action.toList := by
  simp only [← actionArgument?_eq_some_iff]
  unfold ofArgs at hwritten
  dsimp only at hwritten
  split at hwritten
  · split at hwritten
    · rename_i hnamed
      exact ⟨_, hnamed.trans hwritten⟩
    · cases hwritten
  · obtain ⟨_, -, hnone⟩ := exists_of_map_getD rfl hwritten
    cases hnone
  · obtain ⟨_, -, hnone⟩ := exists_of_map_getD rfl hwritten
    cases hnone
  · cases hwritten
  · cases hwritten
  · cases hwritten

theorem written?_of_limited {st : RuleStores σ} {request : CooldownRequest} {p : Policy} {s : σ}
    {action : String} {duration : Duration}
    (hanswer : (request.run st p s).1 = .limited action duration) :
    request.written? = some action := by
  cases request with
  | set duration action =>
    simp only [run] at hanswer
    split at hanswer
    · obtain ⟨rfl, -⟩ := CooldownAnswer.limited.inj hanswer
      rfl
    · cases hanswer
  | usage => cases hanswer
  | remove action =>
    simp only [run] at hanswer
    split at hanswer <;> cases hanswer
  | list =>
    simp only [run] at hanswer
    split at hanswer <;> cases hanswer

end CooldownRequest

namespace CustomRequest

/-- The name of the command that a request asks to be written. -/
def written? : CustomRequest → Option String
  | write _ name _ => some name
  | delete _ | display _ | list | usage => none

theorem ofArgs_removal {args : List Char} {name : String}
    (hverb : (subcommand args).1 ∈ removalVerbs)
    (hname : Collection.commands.keyNamed? (subcommand args).2 = some name.toList) :
    ofArgs args = .delete name := by
  obtain ⟨hargument, hne⟩ := Collection.keyNamed?_commands_iff.mp hname
  simp only [removalVerbs, List.mem_cons, List.not_mem_nil, or_false] at hverb
  rcases hverb with hverb | hverb <;> simp [ofArgs, hverb, hargument, hne, WriteMode.ofVerb?]

theorem exists_text_of_ofArgs {args : List Char} {name : String}
    (hwritten : (ofArgs args).written? = some name) :
    ∃ text, Collection.commands.keyNamed? text = some name.toList := by
  simp only [Collection.keyNamed?_commands_iff]
  unfold ofArgs at hwritten
  dsimp only at hwritten
  split at hwritten
  · split_ifs at hwritten with hempty
    · cases hwritten
    · obtain rfl := Option.some.inj hwritten
      exact ⟨_, rfl, by simpa using (not_or.mp (by simpa using hempty)).1⟩
  all_goals first | (split_ifs at hwritten <;> cases hwritten) | cases hwritten

theorem written?_of_written {st : RowStore σ CustomCommand} {isBuiltin : String → Bool} {owner : Id}
    {request : CustomRequest} {c : Cache CustomCommand} {s : σ} {mode : WriteMode} {name : String}
    (hanswer : (request.run st isBuiltin owner c s).1 = .written mode name) :
    request.written? = some name := by
  cases request with
  | write mode name template =>
    simp only [run] at hanswer
    split_ifs at hanswer
    split at hanswer
    · obtain ⟨-, rfl⟩ := CustomAnswer.written.inj hanswer
      rfl
    · cases hanswer
    · cases hanswer
  | usage => cases hanswer
  | delete name =>
    simp only [run] at hanswer
    split at hanswer <;> cases hanswer
  | display name =>
    simp only [run] at hanswer
    split at hanswer <;> cases hanswer
  | list =>
    simp only [run] at hanswer
    split at hanswer <;> cases hanswer

end CustomRequest

namespace KeywordRequest

/-- The name of the keyword that a request asks to be written. -/
def written? : KeywordRequest → Option String
  | write _ name _ _ => some name
  | delete _ | list | usage => none

theorem ofArgs_removal {args : List Char} {name : String}
    (hverb : (subcommand args).1 ∈ removalVerbs)
    (hname : Collection.keywords.keyNamed? (subcommand args).2 = some name.toList) :
    ofArgs args = .delete name := by
  obtain ⟨hargument, hne⟩ := Collection.keyNamed?_keywords_iff.mp hname
  simp only [removalVerbs, List.mem_cons, List.not_mem_nil, or_false] at hverb
  rcases hverb with hverb | hverb <;> simp [ofArgs, hverb, hargument, hne, WriteMode.ofVerb?]

theorem exists_text_of_ofArgs {args : List Char} {name : String}
    (hwritten : (ofArgs args).written? = some name) :
    ∃ text, Collection.keywords.keyNamed? text = some name.toList := by
  simp only [Collection.keyNamed?_keywords_iff]
  unfold ofArgs at hwritten
  dsimp only at hwritten
  split at hwritten
  · split_ifs at hwritten with hempty
    · cases hwritten
    · obtain rfl := Option.some.inj hwritten
      simp only [Bool.or_eq_true, not_or] at hempty
      exact ⟨_, rfl, by simpa using hempty.1.1⟩
  all_goals first | (split_ifs at hwritten <;> cases hwritten) | cases hwritten

theorem written?_of_written {st : RowStore σ Keyword} {owner : Id} {request : KeywordRequest}
    {c : Cache Keyword} {s : σ} {mode : WriteMode} {name : String}
    (hanswer : (request.run st owner c s).1 = .written mode name) :
    request.written? = some name := by
  cases request with
  | write mode name pattern template =>
    simp only [run] at hanswer
    split_ifs at hanswer
    split at hanswer
    · obtain ⟨-, rfl⟩ := KeywordAnswer.written.inj hanswer
      rfl
    · cases hanswer
    · cases hanswer
  | usage => cases hanswer
  | delete name =>
    simp only [run] at hanswer
    split at hanswer <;> cases hanswer
  | list =>
    simp only [run] at hanswer
    split at hanswer <;> cases hanswer

end KeywordRequest

end Guildhall
