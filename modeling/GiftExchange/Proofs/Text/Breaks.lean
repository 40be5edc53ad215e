import GiftExchange.Proofs.Text.Wrap
import Mathlib.Algebra.GroupWithZero.Nat

set_option autoImplicit false

/-! # The breaks of a wrapped text

The lines of a wrapped text (`printed`) are wrapped to themselves, and no break is on them. So they are
found again in what they are joined to, and wrapping it again changes nothing (`wrapChars_wrapChars`).
Only an empty line at the end is not found again, since nothing stands behind the last ending. Counting
the lines tells how many endings there are: one for every break of the text and for every break that
wrapping puts between two words, but none for a break at the end of the text (`occurrences_wrapChars`). -/

namespace GiftExchange.Text

variable {limit width : Nat} {line ws : List (List Char)} {source l ending text : List Char}
  {ls : List (List Char)}

/-! ## Lines of the result -/

/-- Words that fit behind a line go on it. -/
theorem fillAfter_of_le (hne : line ≠ []) (hle : (joinWords (line ++ ws)).length ≤ limit) :
    fillAfter limit line ws = [line ++ ws] := by
  have h := fillAfter_append [] hne hle
  rwa [List.append_nil, fillAfter] at h

theorem wrapOne_ne_nil (width : Nat) (source : List Char) : wrapOne width source ≠ [] := by
  rw [wrapOne, Ne, List.map_eq_nil_iff]
  cases hsource : words source with
  | nil => exact List.cons_ne_nil [] []
  | cons w ws =>
    obtain ⟨taken, left, -, h⟩ := exists_refill (max width 1) [w] ws
    rw [fill, h]
    exact List.cons_ne_nil _ (refill (max width 1) left)

/-- A line of the result is wrapped to itself. -/
theorem wrapOne_of_mem (h : l ∈ wrapOne width source) : wrapOne width l = [l] := by
  obtain ⟨line, hline, rfl⟩ := List.mem_map.1 h
  have hlayout := layout_fill (max width 1) source
  rw [wrapOne, (hlayout.written line hline).words_eq]
  cases line with
  | nil => rfl
  | cons w line =>
    have hfill : fill (max width 1) (w :: line) = [w :: line] := by
      rcases hlayout.short _ hline with hle | ⟨v, hv⟩
      · exact fillAfter_of_le (List.cons_ne_nil w []) hle
      · cases hv
        rfl
    rw [hfill]
    rfl

/-- Nor is there a break on it. -/
theorem not_mem_of_mem_wrapOne (h : l ∈ wrapOne width source) : '\n' ∉ l ∧ '\r' ∉ l := by
  obtain ⟨line, hline, rfl⟩ := List.mem_map.1 h
  have hwords := ((layout_fill (max width 1) source).written line hline).isWord
  exact ⟨not_mem_joinWords hwords (by decide) (by decide),
    not_mem_joinWords hwords (by decide) (by decide)⟩

/-- The lines of a wrapped text. -/
def printed (width : Nat) (text : List Char) : List (List Char) :=
  (lines text).flatMap (wrapOne width)

theorem wrapChars_eq (width : Nat) (ending text : List Char) :
    wrapChars width ending text = ending.intercalate (printed width text) := rfl

theorem printed_ne_nil (width : Nat) (htext : text ≠ []) : printed width text ≠ [] := by
  obtain ⟨source, hsource⟩ := List.exists_mem_of_ne_nil _ (mt lines_eq_nil_iff.1 htext)
  obtain ⟨l, hl⟩ := List.exists_mem_of_ne_nil _ (wrapOne_ne_nil width source)
  exact List.ne_nil_of_mem (List.mem_flatMap.2 ⟨source, hsource, hl⟩)

theorem of_mem_printed (hl : l ∈ printed width text) :
    wrapOne width l = [l] ∧ '\n' ∉ l ∧ '\r' ∉ l := by
  obtain ⟨source, -, hl⟩ := List.mem_flatMap.1 hl
  exact ⟨wrapOne_of_mem hl, not_mem_of_mem_wrapOne hl⟩

/-- Lines that are wrapped to themselves are the lines of the wrapped text. -/
theorem printed_of_fixed (hlines : HasLines text ls) (hfixed : ∀ l ∈ ls, wrapOne width l = [l]) :
    printed width text = ls := by
  rw [printed, hlines.lines_eq, List.flatMap_congr hfixed]
  exact List.flatMap_singleton' ls

/-! ## Wrapping again -/

theorem intercalate_concat (hls : ls ≠ []) (ending last : List Char) :
    ending.intercalate (ls ++ [last]) = ending.intercalate ls ++ ending ++ last := by
  rw [intercalate_append ending hls (List.cons_ne_nil last []), List.intercalate_singleton]

theorem getLast?_intercalate_concat {last : List Char} (hlast : last ≠ [])
    (ending : List Char) (ls : List (List Char)) :
    (ending.intercalate (ls ++ [last])).getLast? = last.getLast? := by
  cases ls with
  | nil => rw [List.nil_append, List.intercalate_singleton]
  | cons l ls =>
    rw [intercalate_concat (List.cons_ne_nil l ls), List.getLast?_append_of_ne_nil _ hlast]

/-- A wrapped text does not end with a break and is wrapped to itself, or it ends with an ending, which is
dropped when it is wrapped again. -/
theorem wrapChars_wrapChars (hending : ending = ['\n'] ∨ ending = ['\r', '\n']) (width : Nat)
    (text : List Char) :
    (wrapChars width ending text).getLast? ≠ some '\n' ∧
        wrapChars width ending (wrapChars width ending text) = wrapChars width ending text ∨
      wrapChars width ending text =
        wrapChars width ending (wrapChars width ending text) ++ ending := by
  have hout : ∀ l ∈ printed width text, wrapOne width l = [l] ∧ '\n' ∉ l ∧ '\r' ∉ l :=
    fun l hl => of_mem_printed hl
  rw [wrapChars_eq width ending text]
  generalize printed width text = out at hout
  rcases List.eq_nil_or_concat' out with rfl | ⟨ls, last, rfl⟩
  · exact .inl ⟨by simp, rfl⟩
  · obtain ⟨hls, hlast⟩ := List.forall_mem_append.1 hout
    obtain ⟨-, hclean⟩ := hlast last (List.mem_singleton_self last)
    by_cases hempty : last = []
    · -- nothing stands behind the last ending, so it makes no line
      subst hempty
      have hlines := hasLines_intercalate hending (fun l hl => (hls l hl).2) .none
      rw [List.append_nil] at hlines
      rw [wrapChars_eq, printed_of_fixed hlines fun l hl => (hls l hl).1]
      cases ls with
      | nil => exact .inl ⟨by simp, by simp⟩
      | cons l ls => exact .inr (by rw [intercalate_concat (List.cons_ne_nil l ls), List.append_nil])
    · have hlines := hasLines_intercalate hending (fun l hl => (hls l hl).2) (.last hempty hclean.1)
      rw [wrapChars_eq, printed_of_fixed hlines fun l hl => (hout l hl).1]
      refine .inl ⟨?_, rfl⟩
      rw [getLast?_intercalate_concat hempty]
      exact fun h => hclean.1 (List.mem_of_getLast? h)

theorem toList_wrap (text : String) (width : Nat) (ending : String) :
    (wrap text width ending).toList = wrapChars width ending.toList text.toList := by
  rw [wrap, String.toList_ofList]

theorem toList_ending {ending : String} (hending : ending = "\n" ∨ ending = "\r\n") :
    ending.toList = ['\n'] ∨ ending.toList = ['\r', '\n'] :=
  hending.imp (congrArg String.toList) (congrArg String.toList)

/-- A text with an ending behind it ends with a break. -/
theorem getLast?_append_ending {ending : String} (hending : ending = "\n" ∨ ending = "\r\n")
    (front : String) : (front ++ ending).toList.getLast? = some '\n' := by
  rw [String.toList_append, List.getLast?_append]
  rcases toList_ending hending with h | h
  · rw [h]
    rfl
  · rw [h]
    rfl

/-- **Wrapping a wrapped text changes no line.** With line feeds as endings, or with carriage returns and
line feeds: a wrapped text that does not end with the ending is wrapped to itself, and one that does is
wrapped to what stands in front of that one ending. -/
theorem wrapping_again_changes_no_line {ending : String} (hending : ending = "\n" ∨ ending = "\r\n")
    (text : String) (width : Nat) :
    ((∀ front, wrap text width ending ≠ front ++ ending) →
      wrap (wrap text width ending) width ending = wrap text width ending) ∧
    ∀ front, wrap text width ending = front ++ ending →
      wrap (wrap text width ending) width ending = front := by
  have hagain := wrapChars_wrapChars (toList_ending hending) width text.toList
  simp only [← toList_wrap, ← String.toList_append, String.toList_inj] at hagain
  rcases hagain with ⟨hopen, hsame⟩ | hends
  · refine ⟨fun _ => hsame, fun front hfront => absurd ?_ hopen⟩
    rw [hfront]
    exact getLast?_append_ending hending front
  · refine ⟨fun hnever => absurd hends (hnever _), fun front hfront => ?_⟩
    exact (String.append_left_inj ending).1 (hends.symm.trans hfront)

/-- The blank line at the end is left out, and then nothing changes any more. -/
theorem wrapping_again_drops_blank_line :
    wrap "to  you and me\r\n \n" 6 "\r\n" = "to you\r\nand me" ++ "\r\n" ∧
      wrap (wrap "to  you and me\r\n \n" 6 "\r\n") 6 "\r\n" = "to you\r\nand me" ∧
      (∀ front, wrap "to  you and me" 6 "\r\n" ≠ front ++ "\r\n") ∧
      wrap (wrap "to  you and me" 6 "\r\n") 6 "\r\n" = wrap "to  you and me" 6 "\r\n" := by
  have hblank : wrap "to  you and me\r\n \n" 6 "\r\n" = "to you\r\nand me" ++ "\r\n" := by
    decide +kernel
  have hopen : ∀ front, wrap "to  you and me" 6 "\r\n" ≠ front ++ "\r\n" := by
    intro front h
    have hlast := getLast?_append_ending (.inr rfl) front
    rw [← h] at hlast
    revert hlast
    decide +kernel
  exact ⟨hblank, (wrapping_again_changes_no_line (.inr rfl) _ 6).2 _ hblank, hopen,
    (wrapping_again_changes_no_line (.inr rfl) _ 6).1 hopen⟩

/-! ## Counting endings -/

theorem length_flatMap_add {α β : Type} {f : α → List β} (hf : ∀ a, f a ≠ []) (as : List α) :
    (as.flatMap f).length = as.length + (as.map fun a => (f a).length - 1).sum := by
  induction as with
  | nil => rfl
  | cons a as ih =>
    have hpos : 0 < (f a).length := List.length_pos_iff.2 (hf a)
    rw [List.flatMap_cons, List.length_append, ih, List.length_cons, List.map_cons, List.sum_cons]
    omega

/-- How many breaks wrapping puts between the words of a text. -/
def breaksAdded (width : Nat) (text : List Char) : Nat :=
  ((lines text).map fun source => (wrapOne width source).length - 1).sum

theorem breaksAdded_pos_iff :
    0 < breaksAdded width text ↔ ∃ source ∈ lines text, 1 < (wrapOne width source).length := by
  simp only [breaksAdded, List.sum_pos_iff_exists_pos_nat, List.mem_map, exists_exists_and_eq_and,
    Nat.sub_pos_iff_lt]

/-- The endings of a wrapped text stand for the breaks of the text and for those that are added; only a
break at the end of the text has no ending. -/
theorem occurrences_wrapChars (width : Nat) (text : List Char) :
    occurrences ['\r', '\n'] (wrapChars width ['\r', '\n'] text) +
        (if text.getLast? = some '\n' then 1 else 0) =
      text.count '\n' + breaksAdded width text := by
  by_cases hempty : text = []
  · subst hempty
    rfl
  · have hcount := (hasLines_lines text).length_add
    rw [if_neg hempty] at hcount
    have hlength : (printed width text).length = (lines text).length + breaksAdded width text :=
      length_flatMap_add (wrapOne_ne_nil width) (lines text)
    have hendings := occurrences_intercalate (printed_ne_nil width hempty)
      fun l hl => (of_mem_printed hl).2.2
    rw [← wrapChars_eq] at hendings
    omega

/-- A break that something stands behind is one ending of the wrapped text, whatever is in front of it. -/
theorem wrapChars_append_break (width : Nat) (ending front : List Char) {behind : List Char}
    (hbehind : behind ≠ []) :
    wrapChars width ending (front ++ '\n' :: behind) =
      wrapChars width ending (front ++ ['\n']) ++ ending ++ wrapChars width ending behind := by
  have hprinted : printed width (front ++ '\n' :: behind) =
      printed width (front ++ ['\n']) ++ printed width behind := by
    rw [printed, lines_append_break, List.flatMap_append]
    rfl
  rw [wrapChars_eq, hprinted, intercalate_append ending (printed_ne_nil width (by simp))
    (printed_ne_nil width hbehind)]
  rfl

/-- **Wrapping keeps the breaks of a text, but for one at its end.** With carriage returns and line feeds as
endings: the result has an ending for every break of the text and for every break that is added between
words, and none for a break at the end of the text. So it has as many endings as the text has breaks,
unless the text ends with a break and no line of it is too long. And every break that something stands
behind, be it leading, inner or repeated, is an ending where it stands. -/
theorem wrapping_keeps_inner_breaks (text : String) (width : Nat) :
    occurrences ['\r', '\n'] (wrap text width "\r\n").toList +
        (if text.toList.getLast? = some '\n' then 1 else 0) =
      text.toList.count '\n' + breaksAdded width text.toList ∧
    (text.toList.count '\n' ≤ occurrences ['\r', '\n'] (wrap text width "\r\n").toList ↔
      (text.toList.getLast? = some '\n' →
        ∃ source ∈ lines text.toList, 1 < (wrapOne width source).length)) ∧
    ∀ front behind : String, behind ≠ "" →
      wrap (front ++ "\n" ++ behind) width "\r\n" =
        wrap (front ++ "\n") width "\r\n" ++ "\r\n" ++ wrap behind width "\r\n" := by
  have hcount : occurrences ['\r', '\n'] (wrap text width "\r\n").toList +
      (if text.toList.getLast? = some '\n' then 1 else 0) =
      text.toList.count '\n' + breaksAdded width text.toList := by
    rw [toList_wrap]
    exact occurrences_wrapChars width text.toList
  refine ⟨hcount, ?_, fun front behind hbehind => ?_⟩
  · rw [← breaksAdded_pos_iff]
    split at hcount
    next hends =>
      simp only [hends, true_imp_iff]
      omega
    next hopen =>
      simp only [hopen, false_imp_iff, iff_true]
      omega
  · rw [← String.toList_inj]
    have hchars : (front ++ "\n" ++ behind).toList = front.toList ++ '\n' :: behind.toList := by
      rw [String.toList_append, String.toList_append, List.append_assoc]
      rfl
    have hne : behind.toList ≠ [] := mt String.toList_eq_nil_iff.1 hbehind
    rw [toList_wrap, hchars, wrapChars_append_break width _ _ hne, String.toList_append,
      String.toList_append, toList_wrap, toList_wrap, String.toList_append]
    rfl

/-- Of four breaks the last one is lost: those at the beginning, behind the word and on the blank line are
endings. -/
theorem wrapping_loses_last_break :
    wrap "\nfirst\r\n\r\nsecond\n" 75 "\r\n" = "\r\nfirst\r\n\r\nsecond" ∧
      "\nfirst\r\n\r\nsecond\n".toList.count '\n' = 4 ∧
      occurrences ['\r', '\n'] (wrap "\nfirst\r\n\r\nsecond\n" 75 "\r\n").toList = 3 ∧
      wrap ("\nfirst\r" ++ "\n" ++ "\r\nsecond\n") 75 "\r\n" =
        wrap ("\nfirst\r" ++ "\n") 75 "\r\n" ++ "\r\n" ++ wrap "\r\nsecond\n" 75 "\r\n" := by
  obtain ⟨hcount, -, hinner⟩ := wrapping_keeps_inner_breaks "\nfirst\r\n\r\nsecond\n" 75
  have hbreaks : "\nfirst\r\n\r\nsecond\n".toList.count '\n' = 4 := by decide
  have hends : "\nfirst\r\n\r\nsecond\n".toList.getLast? = some '\n' := by decide
  have hadded : breaksAdded 75 "\nfirst\r\n\r\nsecond\n".toList = 0 := by decide +kernel
  rw [hbreaks, if_pos hends, hadded] at hcount
  exact ⟨by decide +kernel, hbreaks, Nat.succ.inj hcount, hinner _ _ (by decide)⟩

end GiftExchange.Text
