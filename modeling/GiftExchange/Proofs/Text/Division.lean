import GiftExchange.Proofs.Text.Wrap

set_option autoImplicit false

/-! # Dividing words into lines

The words of a line can be divided in many ways into lines that are not too long (`Division`). Filling is
one of them, and none has fewer lines. Line by line, filling has put at least as many words behind it as
the other division has; what it has left is the end of what the other one has left. So the induction is
on the lines of the other division, and the statement is about all words at the end of its words
(`length_refill_le`). -/

namespace GiftExchange.Text

variable {limit : Nat} {ws : List (List Char)} {group : List (List (List Char))}

/-- Words are divided, in order, into lines that hold a word each and are not too long, unless a single
word is. -/
structure Division (limit : Nat) (ws : List (List Char)) (group : List (List (List Char))) :
    Prop where
  sameWords : group.flatten = ws
  filled : [] ∉ group
  short : ∀ line ∈ group, (joinWords line).length ≤ limit ∨ ∃ w, line = [w]

/-- The lines of a source line that has words divide its words. -/
theorem Layout.division {source : List Char} (h : Layout limit source group)
    (hwords : HasWords source ws) (hne : ws ≠ []) : Division limit ws group where
  sameWords := h.sameWords.words_eq.symm.trans hwords.words_eq
  filled := h.filled fun hnone => hne (hwords.words_eq.symm.trans hnone.words_eq)
  short := h.short

/-! ## Fewest lines -/

theorem fill_eq_refill (h : ws ≠ []) : fill limit ws = refill limit ws := by
  cases ws with
  | nil => exact absurd rfl h
  | cons w ws => rfl

/-- The words at the end of a line that is not too long all go on one line. -/
theorem fillAfter_of_short {before more rest : List (List Char)} {w : List Char}
    (hline : (joinWords (before ++ w :: more)).length ≤ limit ∨ ∃ v, before ++ w :: more = [v]) :
    fillAfter limit [w] (more ++ rest) = fillAfter limit (w :: more) rest := by
  rcases hline with hshort | ⟨v, hone⟩
  · exact fillAfter_append rest (List.cons_ne_nil w [])
      ((length_joinWords_le_right before (w :: more)).trans hshort)
  · have hlength := congrArg List.length hone
    simp only [List.length_append, List.length_cons, List.length_nil] at hlength
    obtain rfl : more = [] := List.length_eq_zero_iff.1 (by omega)
    rfl

/-- Words at the end of those on some lines can be filled into as few lines. -/
theorem length_refill_le
    (hshort : ∀ line ∈ group, (joinWords line).length ≤ limit ∨ ∃ w, line = [w])
    (hlast : ws <:+ group.flatten) : (refill limit ws).length ≤ group.length := by
  induction group generalizing ws with
  | nil =>
    rw [List.flatten_nil, List.suffix_nil] at hlast
    rw [hlast, refill]
  | cons line rest ih =>
    obtain ⟨hline, hrest⟩ := List.forall_mem_cons.1 hshort
    rw [List.flatten_cons] at hlast
    rcases List.suffix_or_suffix_of_suffix hlast (List.suffix_append line rest.flatten) with
      hlater | ⟨kept, rfl⟩
    · exact Nat.le_succ_of_le (ih hrest hlater)
    · obtain ⟨before, hbefore⟩ := hlast
      rw [← List.append_assoc, List.append_cancel_right_eq] at hbefore
      cases kept with
      | nil => exact Nat.le_succ_of_le (ih hrest (List.suffix_refl _))
      | cons w more =>
        -- all of `more` goes on the first line, so what is left is an end of the other lines' words
        obtain ⟨taken, left, hleft, hfill⟩ := exists_refill limit (w :: more) rest.flatten
        rw [List.cons_append, refill, fillAfter_of_short (hbefore ▸ hline), hfill, List.length_cons,
          List.length_cons]
        exact Nat.succ_le_succ (ih hrest ⟨taken, hleft.symm⟩)

/-- No division has fewer lines than filling. -/
theorem Division.length_fill_le (h : Division limit ws group) (hne : ws ≠ []) :
    (fill limit ws).length ≤ group.length := by
  rw [fill_eq_refill hne]
  exact length_refill_le h.short (h.sameWords ▸ List.suffix_refl _)

/-- **Wrapping uses the fewest lines.** A wrapped text is made of the lines for each line of the text,
one after the other. For a source line with words these divide the words, in order, into lines that hold
a word each and have at most as many characters as the width allows, one being allowed always, or else
are a single word; and no such division has fewer lines. -/
theorem wrapping_uses_fewest_lines (text : String) (width : Nat) (ending : String) :
    (∃ sources, HasLines text.toList sources ∧
      wrap text width ending =
        String.ofList (List.intercalate ending.toList (sources.flatMap (wrapOne width)))) ∧
    ∀ source ws, HasWords source ws → ws ≠ [] →
      (∃ group, Division (max width 1) ws group ∧ wrapOne width source = group.map joinWords) ∧
      ∀ group, Division (max width 1) ws group → (wrapOne width source).length ≤ group.length := by
  refine ⟨⟨lines text.toList, hasLines_lines text.toList, rfl⟩, fun source ws hwords hne => ?_⟩
  have hlayout : Layout (max width 1) source (fill (max width 1) ws) := by
    rw [← hwords.words_eq]
    exact layout_fill (max width 1) source
  have hlines : wrapOne width source = (fill (max width 1) ws).map joinWords := by
    rw [wrapOne, hwords.words_eq]
  refine ⟨⟨_, hlayout.division hwords hne, hlines⟩, fun group hgroup => ?_⟩
  rw [hlines, List.length_map]
  exact hgroup.length_fill_le hne

/-- Six words, one of them longer than a line. -/
def sixWords : List (List Char) :=
  ["a".toList, "bb".toList, "c".toList, "dddddd".toList, "ee".toList, "f".toList]

/-- Filling needs four lines. So does a division that leaves its first line early, and none needs
three. -/
theorem wrapping_uses_fewest_lines_of_sixWords :
    HasWords "a bb\tc dddddd  ee f".toList sixWords ∧ sixWords ≠ [] ∧
      Division 5 sixWords [["a".toList], ["bb".toList, "c".toList], ["dddddd".toList],
        ["ee".toList, "f".toList]] ∧
      wrap "a bb\tc dddddd  ee f" 5 "|" = "a bb|c|dddddd|ee f" ∧
      (wrapOne 5 "a bb\tc dddddd  ee f".toList).length = 4 ∧
      (∃ group, Division 5 sixWords group ∧
        wrapOne 5 "a bb\tc dddddd  ee f".toList = group.map joinWords) ∧
      ∀ group, Division 5 sixWords group → 4 ≤ group.length := by
  have hwords : HasWords "a bb\tc dddddd  ee f".toList sixWords :=
    hasWords_iff.2 (by decide +kernel)
  have hne : sixWords ≠ [] := List.cons_ne_nil _ _
  have hfour : (wrapOne 5 "a bb\tc dddddd  ee f".toList).length = 4 := by decide +kernel
  obtain ⟨hdivides, hfewest⟩ :=
    (wrapping_uses_fewest_lines "a bb\tc dddddd  ee f" 5 "|").2 _ _ hwords hne
  refine ⟨hwords, hne, ⟨rfl, by decide, ?_⟩, by decide +kernel, hfour, hdivides,
    fun group hgroup => ?_⟩
  · simp [joinWords, List.intercalate]
  · exact hfour ▸ hfewest group hgroup

end GiftExchange.Text
