import GiftExchange.Proofs.Text.Lines
import GiftExchange.Proofs.Text.Words
import Mathlib.Data.List.Chain
import Mathlib.Data.List.Forall2

set_option autoImplicit false

/-! # How a text is laid out on lines

Wrapping a text puts the words of every source line on lines of their own (`Layout`), as many on each as
fit: a line ends only where the next word does not fit on it. Filling goes through the words once, with
the line that is being filled, so what holds of all lines follows from what holds when a word is added
(`forall_mem_fillAfter`). -/

namespace GiftExchange.Text

variable {limit : Nat} {line more ws : List (List Char)}

/-! ## Filling -/

theorem flatten_fillAfter (limit : Nat) (line ws : List (List Char)) :
    (fillAfter limit line ws).flatten = line ++ ws := by
  induction ws generalizing line with
  | nil => simp [fillAfter]
  | cons w ws ih =>
    rw [fillAfter]
    split
    · rw [ih, List.append_assoc, List.singleton_append]
    · rw [List.flatten_cons, ih, List.singleton_append]

/-- The lines for the words that are left; none if no word is. -/
def refill (limit : Nat) : List (List Char) → List (List (List Char))
  | [] => []
  | w :: ws => fillAfter limit [w] ws

/-- A line takes some of the words to come, and the others are filled anew. -/
theorem exists_refill (limit : Nat) (line ws : List (List Char)) :
    ∃ taken left, ws = taken ++ left ∧
      fillAfter limit line ws = (line ++ taken) :: refill limit left := by
  induction ws generalizing line with
  | nil => exact ⟨[], [], rfl, by rw [fillAfter, List.append_nil, refill]⟩
  | cons w ws ih =>
    rw [fillAfter]
    split
    next =>
      obtain ⟨taken, left, rfl, h⟩ := ih (line ++ [w])
      exact ⟨w :: taken, left, rfl, by rw [h, List.append_assoc, List.singleton_append]⟩
    next => exact ⟨[], w :: ws, rfl, by rw [List.append_nil, refill]⟩

/-- Words that fit behind a line all go on it. -/
theorem fillAfter_append (ws : List (List Char)) (hline : line ≠ [])
    (hshort : (joinWords (line ++ more)).length ≤ limit) :
    fillAfter limit line (more ++ ws) = fillAfter limit (line ++ more) ws := by
  induction more generalizing line with
  | nil => rw [List.nil_append, List.append_nil]
  | cons w more ih =>
    have hsplit : line ++ w :: more = (line ++ [w]) ++ more := by simp
    rw [hsplit] at hshort ⊢
    have hfits : fits limit line w = true := by
      have hone := (length_joinWords_le_left (line ++ [w]) more).trans hshort
      rw [length_joinWords_append hline (List.cons_ne_nil w []), joinWords_singleton] at hone
      simpa [fits] using hone
    rw [List.cons_append, fillAfter, if_pos hfits]
    exact ih (by simp) hshort

theorem length_le_of_fits {w : List Char} (h : fits limit line w = true) :
    (joinWords (line ++ [w])).length ≤ limit := by
  have hle : (joinWords line).length + 1 + w.length ≤ limit := by simpa [fits] using h
  cases line with
  | nil =>
    rw [List.nil_append, joinWords_singleton]
    omega
  | cons v line =>
    rwa [length_joinWords_append (List.cons_ne_nil v line) (List.cons_ne_nil w []), joinWords_singleton]

/-- What holds of every line with one word, and still when a word that fits is added, holds of all
lines. -/
theorem forall_mem_fillAfter {p : List (List Char) → Prop} (hnew : ∀ w, p [w])
    (hadd : ∀ line w, p line → fits limit line w = true → p (line ++ [w])) (hline : p line) :
    ∀ l ∈ fillAfter limit line ws, p l := by
  induction ws generalizing line with
  | nil => simpa [fillAfter] using hline
  | cons w ws ih =>
    rw [fillAfter]
    split
    next hfits => exact ih (hadd line w hline hfits)
    next => exact List.forall_mem_cons.2 ⟨hline, ih (hnew w)⟩

/-- How a line and the next one stand to each other: the next line begins with a word, which does not fit
on the line any more. -/
def Overflows (limit : Nat) (line next : List (List Char)) : Prop :=
  ∃ w more, next = w :: more ∧ limit < (joinWords line).length + 1 + w.length

theorem isChain_fillAfter (limit : Nat) (line ws : List (List Char)) :
    (fillAfter limit line ws).IsChain (Overflows limit) := by
  induction ws generalizing line with
  | nil => exact .singleton line
  | cons w ws ih =>
    rw [fillAfter]
    split
    next => exact ih (line ++ [w])
    next hfull =>
      obtain ⟨taken, left, -, hnext⟩ := exists_refill limit [w] ws
      have hchain := ih [w]
      rw [hnext] at hchain ⊢
      refine List.isChain_cons_cons.2 ⟨⟨w, taken, rfl, ?_⟩, hchain⟩
      simpa [fits] using hfull

/-- The lines that one source line is laid out on, each given as the words on it. -/
structure Layout (limit : Nat) (source : List Char) (group : List (List (List Char))) : Prop where
  /-- The words on the lines are the words of the source line, in order. -/
  sameWords : HasWords source group.flatten
  /-- A source line without words makes one empty line. -/
  empty : HasWords source [] → group = [[]]
  /-- Only such a source line makes an empty line. -/
  filled : ¬ HasWords source [] → [] ∉ group
  /-- The words on a line are the words of the text of the line. -/
  written : ∀ line ∈ group, HasWords (joinWords line) line
  /-- A line is not too long, unless a single word is. -/
  short : ∀ line ∈ group, (joinWords line).length ≤ limit ∨ ∃ w, line = [w]
  /-- A line ends only where the next word does not fit. -/
  full : group.IsChain (Overflows limit)

theorem layout_fill (limit : Nat) (source : List Char) :
    Layout limit source (fill limit (words source)) := by
  have hwords := hasWords_words source
  cases hsource : words source with
  | nil =>
    rw [hsource] at hwords
    exact ⟨hwords, fun _ => rfl, fun h => absurd hwords h, by simp [fill, HasWords.none],
      by simp [fill], .singleton []⟩
  | cons w ws =>
    rw [hsource] at hwords
    have hflat : (fill limit (w :: ws)).flatten = w :: ws := flatten_fillAfter limit [w] ws
    refine ⟨by rwa [hflat], fun h => ?_, fun _ => ?_, fun line hline => ?_, ?_,
      isChain_fillAfter limit [w] ws⟩
    · rw [h.words_eq] at hsource
      cases hsource
    · have hne : ∀ line ∈ fillAfter limit [w] ws, line ≠ [] :=
        forall_mem_fillAfter (fun w => List.cons_ne_nil w []) (fun line w _ _ => by simp)
          (List.cons_ne_nil w [])
      exact fun hmem => hne [] hmem rfl
    · refine hasWords_joinWords fun v hv => hwords.isWord v ?_
      rw [← hflat]
      exact List.mem_flatten.2 ⟨line, hline, hv⟩
    · exact forall_mem_fillAfter (fun w => .inr ⟨w, rfl⟩)
        (fun line w _ hfits => .inl (length_le_of_fits hfits)) (.inr ⟨w, rfl⟩)

/-- **Wrapping fills each line of a text with its words.** Whatever the text, the width and the ending:
the result is made of lines that are joined by the ending, in one group after the other, a group for each
line of the text. The words of a group are those of the source line, in order, and a source line without
words makes one empty line. Every line of the result is its words joined by single spaces. It has at most
as many characters as the width allows, one being allowed always, or else it is a single word. And a line
ends only where the first word of the next one would not have fitted. -/
theorem wrapping_fills_lines (text : String) (width : Nat) (ending : String) :
    ∃ sources groups, HasLines text.toList sources ∧
      List.Forall₂ (Layout (max width 1)) sources groups ∧
      wrap text width ending =
        String.ofList (List.intercalate ending.toList (groups.flatten.map joinWords)) := by
  refine ⟨lines text.toList,
    (lines text.toList).map fun source => fill (max width 1) (words source),
    hasLines_lines text.toList, ?_, ?_⟩
  · exact List.forall₂_map_right_iff.2
      (List.forall₂_same.2 fun source _ => layout_fill (max width 1) source)
  · have hlines : (lines text.toList).flatMap (wrapOne width) =
        ((lines text.toList).map fun source => fill (max width 1) (words source)).flatten.map
          joinWords := by
      rw [List.map_flatten, List.map_map]
      rfl
    rw [wrap, wrapChars, hlines]

/-- Words that are too long stand alone, and a full line is not left before it has to be. -/
example : wrap "a  abcdefgh ij\tk l" 5 "|" = "a|abcdefgh|ij k|l" := by decide +kernel

end GiftExchange.Text
