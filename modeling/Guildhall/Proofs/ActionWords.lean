import Guildhall.Proofs.Governing
import Guildhall.Proofs.Words
import Mathlib.Data.List.Infix

/-!
The words of an action. An action is a command token and the words of its arguments with single
spaces between them (`actionOf`), and these are its words again (`words_actionOf`). What governs an
action is found at the beginnings of its list of words (`Table.governing?_actionOf`), so that a key
that has as many words as an action governs it only if it is the action (`eq_of_governs_actionOf`).
-/

set_option autoImplicit false

namespace Guildhall

open Text

variable {V : Type}

/-- The action of a command with some words after it. -/
def actionOf (token : List Char) (ws : List (List Char)) : String :=
  String.ofList (toLower (trim token) ++ ws.flatMap (' ' :: ·))

theorem ofList_actionString (token args : List Char) :
    String.ofList (actionString token args) = actionOf token (words args) := rfl

theorem space_notMem {word : List Char} (hword : ∀ c ∈ word, isBlank c = false) : ' ' ∉ word :=
  fun hspace ↦ absurd (hword ' ' hspace) (by decide)

/-- What has no space in it is in front of every word-bounded beginning. -/
theorem wordStarts_append {p : List Char} (hp : ' ' ∉ p) (s : List Char) :
    wordStarts (p ++ s) = (wordStarts s).map (p ++ ·) := by
  induction p with
  | nil => simp
  | cons c p ih =>
    obtain ⟨hc, hp⟩ := not_or.mp (mt List.mem_cons.mpr hp)
    rw [List.cons_append, wordStarts_cons, if_neg (Ne.symm hc), ih hp, List.map_map]
    rfl

/-- The word-bounded beginnings of words are the beginnings of their list. -/
theorem wordStarts_flatMap {ws : List (List Char)} (hws : ∀ word ∈ ws, ' ' ∉ word) :
    wordStarts (ws.flatMap (' ' :: ·)) = ws.inits.map fun ws ↦ ws.flatMap (' ' :: ·) := by
  induction ws with
  | nil => rfl
  | cons word ws ih =>
    obtain ⟨hword, hws⟩ := List.forall_mem_cons.mp hws
    rw [List.flatMap_cons, List.cons_append, wordStarts_cons, if_pos rfl, wordStarts_append hword,
      ih hws, List.inits_cons, List.map_cons, List.map_map, List.map_map, List.map_map]
    rfl

section Actions

variable {token : List Char} {ws : List (List Char)}

/-- The word-bounded beginnings of an action are the actions of the beginnings of its words. -/
theorem wordStarts_actionOf (htoken : ∀ c ∈ token, isBlank c = false)
    (hws : ∀ word ∈ ws, ∀ c ∈ word, isBlank c = false) :
    wordStarts (actionOf token ws).toList = ws.inits.map fun ws ↦ (actionOf token ws).toList := by
  have hlower : ' ' ∉ toLower (trim token) := by
    rw [trim_eq_self htoken]
    exact space_notMem (isBlank_of_mem_toLower htoken)
  simp only [actionOf, String.toList_ofList]
  rw [wordStarts_append hlower, wordStarts_flatMap fun word hword ↦ space_notMem (hws word hword),
    List.map_map]
  rfl

/-- The rule of an action is that at the longest beginning of its words that has one. -/
theorem Table.governing?_actionOf (t : Table String V)
    (htoken : ∀ c ∈ token, isBlank c = false)
    (hws : ∀ word ∈ ws, ∀ c ∈ word, isBlank c = false) :
    t.governing? (actionOf token ws) =
      ws.inits.reverse.findSome? fun ws ↦ t.get? (actionOf token ws) := by
  rw [governing?_eq_findSome?, wordStarts_actionOf htoken hws, ← List.map_reverse,
    List.findSome?_map]
  simp only [Function.comp_def, String.ofList_toList]

/-- Words with single spaces between them are read back. -/
theorem words_append_flatMap {word : List Char} (hne : word ≠ [])
    (hword : ∀ c ∈ word, isBlank c = false)
    (hws : ∀ w ∈ ws, w ≠ [] ∧ ∀ c ∈ w, isBlank c = false) :
    words (word ++ ws.flatMap (' ' :: ·)) = word :: ws := by
  induction ws generalizing word with
  | nil =>
    rw [List.flatMap_nil, List.append_nil]
    exact words_word hne hword
  | cons next ws ih =>
    obtain ⟨⟨hnext, hblank⟩, hws⟩ := List.forall_mem_cons.mp hws
    have hspace : isBlank ' ' = true := by decide
    rw [List.flatMap_cons, List.cons_append, words_word_append hne hword hspace,
      ih hnext hblank hws]

theorem words_actionOf (hne : token ≠ []) (htoken : ∀ c ∈ token, isBlank c = false)
    (hws : ∀ word ∈ ws, word ≠ [] ∧ ∀ c ∈ word, isBlank c = false) :
    words (actionOf token ws).toList = toLower token :: ws := by
  rw [actionOf, String.toList_ofList, trim_eq_self htoken]
  exact words_append_flatMap (mt (toLower_eq_nil_iff token).mp hne) (isBlank_of_mem_toLower htoken)
    hws

/-- A key of as many words as an action governs it only if it is the action. -/
theorem eq_of_governs_actionOf (hne : token ≠ []) (htoken : ∀ c ∈ token, isBlank c = false)
    (hws : ∀ word ∈ ws, word ≠ [] ∧ ∀ c ∈ word, isBlank c = false) {key : String}
    (hgoverns : Governs key (actionOf token ws))
    (hlength : (words key.toList).length = ws.length + 1) : key = actionOf token ws := by
  rw [governs_iff_mem_wordStarts, wordStarts_actionOf htoken fun word hword ↦ (hws word hword).2,
    List.mem_map] at hgoverns
  obtain ⟨begun, hbegun, hkey⟩ := hgoverns
  have hbegins := (List.mem_inits begun ws).mp hbegun
  rw [← hkey, words_actionOf hne htoken fun word hword ↦ hws word (hbegins.subset hword),
    List.length_cons, Nat.add_right_cancel_iff] at hlength
  rw [hbegins.eq_of_length hlength, String.toList_inj] at hkey
  exact hkey.symm

end Actions

end Guildhall
