import GiftExchange.Text.Wrap
import Mathlib.Data.List.Basic

set_option autoImplicit false

/-! # The words of a line

A word is a run of characters that are no white space, as long as it can be: it ends where the line
does or where white space begins (`HasWords`). Splitting a line finds its words, and there is no other
way to split it (`hasWords_iff`). Words that are joined by single spaces are the words of the line that
they make (`hasWords_joinWords`). -/

namespace GiftExchange.Text

/-- At least one character, and no white space. -/
def IsWord (w : List Char) : Prop := w ≠ [] ∧ ∀ c ∈ w, isBlankChar c = false

/-- What a word can stand in front of: nothing, or white space. -/
def EndsWord (rest : List Char) : Prop := ∀ c ∈ rest.head?, isBlankChar c = true

/-- A line consists of these words, in this order, and of white space. -/
inductive HasWords : List Char → List (List Char) → Prop where
  | none : HasWords [] []
  | blank {c : Char} {rest : List Char} {ws : List (List Char)} (hblank : isBlankChar c = true)
      (later : HasWords rest ws) : HasWords (c :: rest) ws
  | word {w rest : List Char} {ws : List (List Char)} (hword : IsWord w) (ends : EndsWord rest)
      (later : HasWords rest ws) : HasWords (w ++ rest) (w :: ws)

variable {c d : Char} {cs w rest : List Char} {ws line more : List (List Char)}

/-! ## Splitting -/

theorem words_cons_blank (h : isBlankChar c = true) (rest : List Char) :
    words (c :: rest) = words rest := by
  cases rest <;> simp [words, h]

/-- A character at the end of its word. -/
theorem words_cons_ends (h : isBlankChar c = false) (hends : EndsWord rest) :
    words (c :: rest) = [c] :: words rest := by
  cases rest with
  | nil => simp [words, h]
  | cons d rest => simp [words, h, hends d rest.head?_cons]

/-- A character before another one of its word. -/
theorem words_cons_letter (hc : isBlankChar c = false) (hd : isBlankChar d = false)
    (h : words (d :: rest) = w :: ws) : words (c :: d :: rest) = (c :: w) :: ws := by
  rw [words.eq_def]
  simp [hc, hd, h]

theorem words_append (hword : IsWord w) (hends : EndsWord rest) :
    words (w ++ rest) = w :: words rest := by
  obtain ⟨hne, hletters⟩ := hword
  induction w with
  | nil => exact absurd rfl hne
  | cons c w ih =>
    obtain ⟨hc, hletters⟩ := List.forall_mem_cons.1 hletters
    cases w with
    | nil => exact words_cons_ends hc hends
    | cons d w =>
      exact words_cons_letter hc (hletters d List.mem_cons_self) (ih (List.cons_ne_nil d w) hletters)

theorem HasWords.words_eq (h : HasWords cs ws) : words cs = ws := by
  induction h with
  | none => rfl
  | blank hblank _ ih => rw [words_cons_blank hblank, ih]
  | word hword hends _ ih => rw [words_append hword hends, ih]

theorem HasWords.isWord (h : HasWords cs ws) : ∀ w ∈ ws, IsWord w := by
  induction h with
  | none => simp
  | blank _ _ ih => exact ih
  | word hword _ _ ih => exact List.forall_mem_cons.2 ⟨hword, ih⟩

/-- A line that begins with a character of a word begins with that word. -/
theorem HasWords.of_letter (hc : isBlankChar c = false) (h : HasWords (c :: rest) ws) :
    ∃ w behind later, rest = w ++ behind ∧ ws = (c :: w) :: later ∧ IsWord (c :: w) ∧
      EndsWord behind ∧ HasWords behind later := by
  generalize hcs : c :: rest = cs at h
  cases h with
  | none => cases hcs
  | blank hblank =>
    cases hcs
    rw [hc] at hblank
    cases hblank
  | @word w behind later hword hends hlater =>
    cases w with
    | nil => exact absurd rfl hword.1
    | cons d w =>
      cases hcs
      exact ⟨w, behind, later, rfl, rfl, hword, hends, hlater⟩

theorem hasWords_words (cs : List Char) : HasWords cs (words cs) := by
  induction cs with
  | nil => exact .none
  | cons c rest ih =>
    by_cases hc : isBlankChar c = true
    · rw [words_cons_blank hc]
      exact .blank hc ih
    · rw [Bool.not_eq_true] at hc
      by_cases hends : EndsWord rest
      · rw [words_cons_ends hc hends]
        exact .word ⟨List.cons_ne_nil c [], by simpa using hc⟩ hends ih
      · cases rest with
        | nil => simp [EndsWord] at hends
        | cons d rest =>
          -- the word goes on, so it is the first word of the rest with one more character
          have hd : isBlankChar d = false := by simpa [EndsWord] using hends
          obtain ⟨w, behind, later, rfl, hws, hword, hends, hlater⟩ := ih.of_letter hd
          rw [words_cons_letter hc hd hws]
          have hlonger : IsWord (c :: d :: w) :=
            ⟨List.cons_ne_nil c _, List.forall_mem_cons.2 ⟨hc, hword.2⟩⟩
          exact .word hlonger hends hlater

/-- Splitting finds the words of a line. -/
theorem hasWords_iff : HasWords cs ws ↔ words cs = ws :=
  ⟨HasWords.words_eq, fun h => h ▸ hasWords_words cs⟩

/-! ## Joining -/

/-- The separator of two lists that are joined stands between what each of them makes. -/
theorem intercalate_append {α : Type} (sep : List α) {xs ys : List (List α)} (hxs : xs ≠ [])
    (hys : ys ≠ []) :
    sep.intercalate (xs ++ ys) = sep.intercalate xs ++ sep ++ sep.intercalate ys := by
  induction xs with
  | nil => exact absurd rfl hxs
  | cons x xs ih =>
    cases xs with
    | nil => rw [List.singleton_append, List.intercalate_cons_of_ne_nil hys, List.intercalate_singleton]
    | cons y xs =>
      rw [List.cons_append, List.intercalate_cons_of_ne_nil (by simp), ih (List.cons_ne_nil y xs),
        List.intercalate_cons_cons]
      simp only [List.append_assoc]

@[simp] theorem joinWords_nil : joinWords [] = [] := rfl

@[simp] theorem joinWords_singleton (w : List Char) : joinWords [w] = w :=
  List.intercalate_singleton

theorem joinWords_cons_cons (w v : List Char) (line : List (List Char)) :
    joinWords (w :: v :: line) = w ++ ' ' :: joinWords (v :: line) := by
  rw [joinWords, List.intercalate_cons_cons, List.append_assoc, List.singleton_append]
  rfl

theorem length_joinWords_append (hline : line ≠ []) (hmore : more ≠ []) :
    (joinWords (line ++ more)).length = (joinWords line).length + 1 + (joinWords more).length := by
  rw [joinWords, intercalate_append [' '] hline hmore, List.length_append, List.length_append]
  rfl

/-- A part of a line is not longer than the line. -/
theorem length_joinWords_le_left (line more : List (List Char)) :
    (joinWords line).length ≤ (joinWords (line ++ more)).length := by
  by_cases hline : line = []
  · simp [hline]
  by_cases hmore : more = []
  · simp [hmore]
  rw [length_joinWords_append hline hmore]
  omega

theorem length_joinWords_le_right (line more : List (List Char)) :
    (joinWords more).length ≤ (joinWords (line ++ more)).length := by
  by_cases hline : line = []
  · simp [hline]
  by_cases hmore : more = []
  · simp [hmore]
  rw [length_joinWords_append hline hmore]
  omega

/-- Words that are joined by single spaces are the words of what they make. -/
theorem hasWords_joinWords (hline : ∀ w ∈ line, IsWord w) : HasWords (joinWords line) line := by
  induction line with
  | nil => exact .none
  | cons w line ih =>
    obtain ⟨hw, hrest⟩ := List.forall_mem_cons.1 hline
    cases line with
    | nil =>
      have halone : HasWords (w ++ []) [w] := .word hw (by simp [EndsWord]) .none
      rw [joinWords_singleton]
      rwa [List.append_nil] at halone
    | cons v line =>
      have hspace : isBlankChar ' ' = true := by decide
      rw [joinWords_cons_cons]
      exact .word hw (by simpa [EndsWord] using hspace) (.blank hspace (ih hrest))

/-- The only white space between words that are joined is the space. -/
theorem not_mem_joinWords (hline : ∀ w ∈ line, IsWord w) (hblank : isBlankChar c = true)
    (hspace : c ≠ ' ') : c ∉ joinWords line := by
  have hword : ∀ w ∈ line, c ∉ w := by
    intro w hw hc
    rw [(hline w hw).2 c hc] at hblank
    cases hblank
  clear hline
  induction line with
  | nil => simp
  | cons w line ih =>
    obtain ⟨hw, hrest⟩ := List.forall_mem_cons.1 hword
    cases line with
    | nil => rwa [joinWords_singleton]
    | cons v line =>
      rw [joinWords_cons_cons, List.mem_append, List.mem_cons]
      rintro (hin | heq | hlater)
      · exact hw hin
      · exact hspace heq
      · exact ih hrest hlater

end GiftExchange.Text
