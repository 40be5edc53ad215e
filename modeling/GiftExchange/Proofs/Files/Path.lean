import GiftExchange.Files.Path
import Mathlib.Data.List.DropRight
import Mathlib.Tactic.SplitIfs

set_option autoImplicit false

/-! # Parts of paths

A part of a path is no step, or two dots, or too long for a name, or a name; these exclude each
other (`part_cases`). Empty parts at the end of a path are no steps, so the steps are the same without
them. A part that is joined to a path comes behind the steps of the path. -/

namespace GiftExchange.Path

theorem isStep_of_isName {part : String} (h : isName part = true) : isStep part = true := by
  simp only [isName, Bool.and_eq_true] at h
  exact h.1.1

theorem ne_up_of_isName {part : String} (h : isName part = true) : part ≠ ".." := by
  simp only [isName, Bool.and_eq_true, bne_iff_ne] at h
  exact h.1.2

theorem isLongPart_of_isName {part : String} (h : isName part = true) :
    isLongPart part = false := by
  simp only [isName, Bool.and_eq_true, Bool.not_eq_true'] at h
  exact h.2

theorem isStep_of_isLongPart {part : String} (h : isLongPart part = true) :
    isStep part = true := by
  by_contra hstep
  simp only [isStep, Bool.and_eq_true, bne_iff_ne, not_and_or, not_not] at hstep
  rcases hstep with rfl | rfl
  · exact absurd h (by decide)
  · exact absurd h (by decide)

theorem ne_up_of_isLongPart {part : String} (h : isLongPart part = true) : part ≠ ".." := by
  rintro rfl
  exact absurd h (by decide)

/-- A part leads nowhere, or up, or has too long a name, or leads down. -/
theorem part_cases (part : String) :
    isStep part = false ∨ part = ".." ∨ isLongPart part = true ∨ isName part = true := by
  by_cases hstep : isStep part = true
  · by_cases hup : part = ".."
    · exact .inr (.inl hup)
    · by_cases hlong : isLongPart part = true
      · exact .inr (.inr (.inl hlong))
      · exact .inr (.inr (.inr (by simp [isName, hstep, hup, hlong])))
  · exact .inl (eq_false_of_ne_true hstep)

/-! ## The end of a path -/

theorem filter_dropEmptyEnd (parts : List String) :
    (dropEmptyEnd parts).filter isStep = parts.filter isStep := by
  show (parts.rdropWhile (·.isEmpty)).filter isStep = parts.filter isStep
  induction parts using List.reverseRecOn with
  | nil => rfl
  | append_singleton parts part ih =>
    rw [List.rdropWhile_concat]
    split_ifs with hempty
    · have hstep : isStep part = false := by simp [isStep, String.isEmpty_iff.1 hempty]
      rw [ih, List.filter_append, List.filter_singleton, hstep]
      simp
    · rfl

theorem ne_empty_of_dropEmptyEnd {parts front : List String} {name : String}
    (h : dropEmptyEnd parts = front ++ [name]) : name ≠ "" := by
  have hne : parts.rdropWhile (·.isEmpty) ≠ [] := by
    show dropEmptyEnd parts ≠ []
    simp [h]
  have hlast := List.rdropWhile_last_not (·.isEmpty) parts hne
  have hname : (parts.rdropWhile (·.isEmpty)).getLast hne = name := by
    have hall : parts.rdropWhile (·.isEmpty) = front ++ [name] := h
    simp [hall]
  rw [hname] at hlast
  rintro rfl
  exact hlast rfl

/-- The parts before the last step are steps. -/
theorem filter_parent (parts : List String) :
    (parent parts).filter isStep = parent parts := by
  rw [List.filter_eq_self]
  intro part hpart
  exact (List.mem_filter.1 ((List.dropLast_sublist _).subset hpart)).2

theorem dropEmptyEnd_parent_ne_dot (parts : List String) :
    (dropEmptyEnd (parent parts)).getLast? ≠ some "." := by
  intro hdot
  have hmem : "." ∈ (parent parts).rdropWhile (·.isEmpty) := List.mem_of_getLast? hdot
  have hparent := (List.rdropWhile_prefix _ _).subset hmem
  rw [← filter_parent] at hparent
  exact absurd (List.mem_filter.1 hparent).2 (by decide)

/-! ## A path with one more part -/

theorem splitSlashes_ne_nil (cs : List Char) : splitSlashes cs ≠ [] := by
  cases cs with
  | nil => simp [splitSlashes]
  | cons c rest =>
    rw [splitSlashes]
    split_ifs
    · simp
    · split <;> simp

theorem splitSlashes_append (front rest : List Char) :
    splitSlashes (front ++ '/' :: rest) = splitSlashes front ++ splitSlashes rest := by
  induction front with
  | nil => simp [splitSlashes]
  | cons c front ih =>
    rw [List.cons_append, splitSlashes, splitSlashes, ih]
    by_cases hslash : c = '/'
    · rw [if_pos hslash, if_pos hslash, List.cons_append]
    · rw [if_neg hslash, if_neg hslash]
      cases hfront : splitSlashes front with
      | nil => exact absurd hfront (splitSlashes_ne_nil front)
      | cons part parts => rfl

theorem splitSlashes_of_not_mem {cs : List Char} (h : '/' ∉ cs) : splitSlashes cs = [cs] := by
  induction cs with
  | nil => rfl
  | cons c rest ih =>
    rw [List.mem_cons, not_or] at h
    rw [splitSlashes, if_neg (Ne.symm h.1), ih h.2]

theorem parts_append {path name : String} {front : List Char} (hname : '/' ∉ name.toList)
    (h : path.toList = front ++ '/' :: name.toList) :
    parts path = (splitSlashes front).map String.ofList ++ [name] := by
  rw [parts, h, splitSlashes_append, splitSlashes_of_not_mem hname, List.map_append,
    List.map_singleton, String.ofList_toList]

/-- A path with one more part leads through the path to the part. -/
theorem exists_parts_join (path : String) {name : String} (hname : '/' ∉ name.toList) :
    ∃ front, parts (join path name) = front ++ [name] ∧
      front.filter isStep = (parts path).filter isStep := by
  rw [join]
  split_ifs with hend
  · rw [Bool.or_eq_true, String.isEmpty_iff, beq_iff_eq] at hend
    rcases hend with rfl | hslash
    · refine ⟨[], ?_, rfl⟩
      rw [String.empty_append, parts, splitSlashes_of_not_mem hname, List.map_singleton,
        String.ofList_toList]
      rfl
    · -- the slash at the end is followed by an empty part, which is no step
      obtain ⟨front, hfront⟩ := List.getLast?_eq_some_iff.1 hslash
      refine ⟨(splitSlashes front).map String.ofList, parts_append hname ?_, ?_⟩
      · rw [String.toList_append, hfront, List.append_assoc]
        rfl
      · have hparts : parts path = (splitSlashes front).map String.ofList ++ [""] :=
          parts_append (by decide) hfront
        rw [hparts, List.filter_append]
        exact (List.append_nil _).symm
  · refine ⟨parts path, parts_append hname ?_, rfl⟩
    rw [String.toList_append, String.toList_append, List.append_assoc]
    rfl

theorem isAbsolute_join {path : String} (h : isAbsolute path = true) (name : String) :
    isAbsolute (join path name) = true := by
  rw [isAbsolute, beq_iff_eq, List.head?_eq_some_iff] at h
  obtain ⟨rest, hpath⟩ := h
  rw [isAbsolute, join]
  split_ifs <;> simp [hpath]

end GiftExchange.Path
