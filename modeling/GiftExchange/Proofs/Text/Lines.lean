import GiftExchange.Text.Lines
import Mathlib.Data.List.Infix

set_option autoImplicit false

/-! # Where the lines of a text end

A line ends at a break, which is a line feed with or without a carriage return in front of it, or with
the text (`HasLines`). Splitting a text finds its lines, and there is no other way to split it
(`hasLines_iff`). So a text has as many lines as breaks, and one more if something stands behind the
last break (`HasLines.length_add`). Lines that are joined by breaks of one kind are the lines of the text
that they make, but for an empty one at the end (`hasLines_intercalate`). -/

namespace GiftExchange.Text

/-- A text consists of these lines, in this order, and of the breaks behind them; only the last line may
have no break. -/
inductive HasLines : List Char → List (List Char) → Prop where
  | none : HasLines [] []
  | last {line : List Char} (hne : line ≠ []) (hline : '\n' ∉ line) : HasLines line [line]
  | feed {line rest : List Char} {ls : List (List Char)} (hline : '\n' ∉ line)
      (hreturn : line.getLast? ≠ some '\r') (later : HasLines rest ls) :
      HasLines (line ++ '\n' :: rest) (line :: ls)
  | returnFeed {line rest : List Char} {ls : List (List Char)} (hline : '\n' ∉ line)
      (later : HasLines rest ls) : HasLines (line ++ '\r' :: '\n' :: rest) (line :: ls)

variable {c : Char} {cs line last rest ending : List Char} {l : List Char} {ls : List (List Char)}

/-! ## Splitting -/

theorem lines_singleton (hc : c ≠ '\n') : lines [c] = [[c]] := by
  rw [lines.eq_4 c [] hc nofun, lines]

theorem lines_cons (hc : c ≠ '\n') (hreturn : c = '\r' → rest.head? ≠ some '\n')
    (h : lines rest = l :: ls) : lines (c :: rest) = (c :: l) :: ls := by
  rw [lines.eq_4 c rest hc fun behind hr heq => hreturn hr (by rw [heq, List.head?_cons]), h]

/-- What stands in front of a text without a break goes on its first line. -/
theorem lines_append (hline : '\n' ∉ line)
    (hreturn : line.getLast? = some '\r' → rest.head? ≠ some '\n') (h : lines rest = l :: ls) :
    lines (line ++ rest) = (line ++ l) :: ls := by
  induction line with
  | nil => exact h
  | cons c line ih =>
    rw [List.mem_cons, not_or] at hline
    obtain ⟨hc, hline⟩ := hline
    cases line with
    | nil => exact lines_cons (Ne.symm hc) (fun hr => hreturn (by rw [hr]; rfl)) h
    | cons d line =>
      rw [List.getLast?_cons_cons] at hreturn
      have hd : '\n' ≠ d := fun heq => hline (heq ▸ List.mem_cons_self)
      exact lines_cons (Ne.symm hc) (fun _ hhead => hd (Option.some.inj hhead).symm) (ih hline hreturn)

theorem HasLines.lines_eq (h : HasLines cs ls) : lines cs = ls := by
  induction h with
  | none => rfl
  | @last line hne hline =>
    obtain ⟨front, c, rfl⟩ := (List.eq_nil_or_concat' line).resolve_left hne
    rw [List.mem_append, List.mem_singleton, not_or] at hline
    obtain ⟨hfront, hc⟩ := hline
    exact lines_append hfront (fun _ hhead => hc (Option.some.inj hhead).symm)
      (lines_singleton (Ne.symm hc))
  | feed hline hreturn _ ih =>
    rw [lines_append hline (fun hr => absurd hr hreturn) rfl, List.append_nil, ih]
  | returnFeed hline _ ih =>
    rw [lines_append hline (fun _ => by simp) rfl, List.append_nil, ih]

/-- One more character goes on the first line, unless it makes or widens a break. -/
theorem HasLines.cons (hc : c ≠ '\n') (hreturn : c = '\r' → rest.head? ≠ some '\n')
    (h : HasLines rest (l :: ls)) : HasLines (c :: rest) ((c :: l) :: ls) := by
  have hline : '\n' ∉ l → '\n' ∉ c :: l := fun hl => by simp [Ne.symm hc, hl]
  cases h with
  | last hne hl => exact .last (List.cons_ne_nil c _) (hline hl)
  | @feed _ rest _ hl hr later =>
    rw [← List.cons_append]
    refine .feed (hline hl) (fun hlast => ?_) later
    cases l with
    | nil => exact hreturn (Option.some.inj hlast) rfl
    | cons d l => exact hr (by rwa [List.getLast?_cons_cons] at hlast)
  | returnFeed hl later =>
    rw [← List.cons_append]
    exact .returnFeed (hline hl) later

theorem hasLines_lines (cs : List Char) : HasLines cs (lines cs) := by
  fun_induction lines cs with
  | case1 => exact .none
  | case2 rest ih =>
    rw [← List.nil_append ('\n' :: rest)]
    exact .feed List.not_mem_nil (by simp) ih
  | case3 rest ih =>
    rw [← List.nil_append ('\r' :: '\n' :: rest)]
    exact .returnFeed List.not_mem_nil ih
  | case4 c rest hc hr hnone ih =>
    rw [hnone] at ih
    cases ih
    exact .last (List.cons_ne_nil c []) (by simpa [eq_comm] using hc)
  | case5 c rest hc hr l ls hsome ih =>
    rw [hsome] at ih
    refine ih.cons hc fun hreturn hfeed => ?_
    obtain ⟨behind, rfl⟩ := List.head?_eq_some_iff.1 hfeed
    exact hr behind hreturn rfl

/-- Splitting finds the lines of a text. -/
theorem hasLines_iff : HasLines cs ls ↔ lines cs = ls :=
  ⟨HasLines.lines_eq, fun h => h ▸ hasLines_lines cs⟩

/-- Only an empty text has no lines. -/
theorem lines_eq_nil_iff : lines cs = [] ↔ cs = [] := by
  rw [← hasLines_iff]
  constructor
  · rintro ⟨⟩
    rfl
  · rintro rfl
    exact .none

/-- Behind a break, or at the beginning of a text, a line begins. -/
theorem HasLines.append {behind : List Char} {later : List (List Char)} (h : HasLines cs ls)
    (hbreak : cs = [] ∨ cs.getLast? = some '\n') (hbehind : HasLines behind later) :
    HasLines (cs ++ behind) (ls ++ later) := by
  have hrest : ∀ {line rest : List Char},
      line ++ '\n' :: rest = [] ∨ (line ++ '\n' :: rest).getLast? = some '\n' →
        rest = [] ∨ rest.getLast? = some '\n' := by
    rintro line (_ | ⟨c, rest⟩) h
    · exact .inl rfl
    · exact .inr (by simpa [List.getLast?_append_cons] using h)
  induction h with
  | none => exact hbehind
  | last hne hline => exact absurd (List.mem_of_getLast? (hbreak.resolve_left hne)) hline
  | feed hline hreturn _ ih =>
    rw [List.append_assoc]
    exact .feed hline hreturn (ih (hrest hbreak))
  | @returnFeed line rest _ hline _ ih =>
    rw [List.append_cons line '\r'] at hbreak
    rw [List.append_assoc]
    exact .returnFeed hline (ih (hrest hbreak))

theorem lines_append_break (front behind : List Char) :
    lines (front ++ '\n' :: behind) = lines (front ++ ['\n']) ++ lines behind := by
  rw [List.append_cons, ← hasLines_iff]
  exact (hasLines_lines _).append (.inr List.getLast?_concat) (hasLines_lines behind)

/-! ## Counting breaks -/

/-- A line and its break in front of a text whose `n` lines are counted. -/
theorem length_add_of_break {n : Nat} (hline : '\n' ∉ line)
    (h : n + (if rest.getLast? = some '\n' then 1 else 0) =
      rest.count '\n' + (if rest = [] then 0 else 1)) :
    n + 1 + (if (line ++ '\n' :: rest).getLast? = some '\n' then 1 else 0) =
      (line ++ '\n' :: rest).count '\n' + (if line ++ '\n' :: rest = [] then 0 else 1) := by
  rw [List.getLast?_append_cons, List.count_append, List.count_eq_zero.2 hline, List.count_cons_self,
    if_neg (List.append_ne_nil_of_right_ne_nil line (List.cons_ne_nil '\n' rest))]
  cases rest with
  | nil => simpa using h
  | cons c rest =>
    rw [if_neg (List.cons_ne_nil c rest)] at h
    rw [List.getLast?_cons_cons]
    omega

/-- There is a break behind every line, but for what stands behind the last break. -/
theorem HasLines.length_add (h : HasLines cs ls) :
    ls.length + (if cs.getLast? = some '\n' then 1 else 0) =
      cs.count '\n' + (if cs = [] then 0 else 1) := by
  induction h with
  | none => rfl
  | @last line hne hline =>
    have hopen : line.getLast? ≠ some '\n' := fun h => hline (List.mem_of_getLast? h)
    rw [if_neg hopen, if_neg hne, List.count_eq_zero.2 hline]
    rfl
  | feed hline _ _ ih => exact length_add_of_break hline ih
  | @returnFeed line rest ls hline _ ih =>
    rw [List.append_cons line '\r']
    exact length_add_of_break (by simpa using hline) ih

/-- How often one text stands in another. -/
def occurrences (part cs : List Char) : Nat := cs.tails.countP part.isPrefixOf

theorem occurrences_append (hline : '\r' ∉ line) (rest : List Char) :
    occurrences ['\r', '\n'] (line ++ rest) = occurrences ['\r', '\n'] rest := by
  induction line with
  | nil => rfl
  | cons c line ih =>
    rw [List.mem_cons, not_or] at hline
    obtain ⟨hc, hline⟩ := hline
    rw [← ih hline]
    simp [occurrences, List.isPrefixOf, hc]

/-- Lines without carriage returns are joined by one ending less than there are lines. -/
theorem occurrences_intercalate (hne : ls ≠ []) (hls : ∀ l ∈ ls, '\r' ∉ l) :
    occurrences ['\r', '\n'] (['\r', '\n'].intercalate ls) + 1 = ls.length := by
  induction ls with
  | nil => exact absurd rfl hne
  | cons l ls ih =>
    obtain ⟨hl, hls⟩ := List.forall_mem_cons.1 hls
    cases ls with
    | nil =>
      rw [List.intercalate_singleton, ← List.append_nil l, occurrences_append hl]
      rfl
    | cons l' ls =>
      rw [List.intercalate_cons_cons, List.append_assoc, occurrences_append hl, List.length_cons,
        ← ih (List.cons_ne_nil l' ls) hls]
      simp [occurrences, List.isPrefixOf]

/-! ## Joining -/

section Joining

variable (hending : ending = ['\n'] ∨ ending = ['\r', '\n'])

include hending

theorem HasLines.append_ending (hline : '\n' ∉ line ∧ '\r' ∉ line) (later : HasLines rest ls) :
    HasLines (line ++ ending ++ rest) (line :: ls) := by
  rcases hending with rfl | rfl
  · rw [List.append_assoc]
    exact .feed hline.1 (fun h => hline.2 (List.mem_of_getLast? h)) later
  · rw [List.append_assoc]
    exact .returnFeed hline.1 later

/-- Lines without breaks that are joined are found again; the text behind the last ending has its own
lines, none if it is empty. -/
theorem hasLines_intercalate (hls : ∀ l ∈ ls, '\n' ∉ l ∧ '\r' ∉ l) {behind : List (List Char)}
    (hlast : HasLines last behind) : HasLines (ending.intercalate (ls ++ [last])) (ls ++ behind) := by
  induction ls with
  | nil =>
    rw [List.nil_append, List.intercalate_singleton]
    exact hlast
  | cons l ls ih =>
    obtain ⟨hl, hls⟩ := List.forall_mem_cons.1 hls
    rw [List.cons_append, List.intercalate_cons_of_ne_nil (by simp)]
    exact .append_ending hending hl (ih hls)

end Joining

end GiftExchange.Text
