import GiftExchange.Text.Blank
import Mathlib.Data.List.DropRight
import Mathlib.Data.List.TakeWhile

set_option autoImplicit false

/-! # What trimming leaves

Trimming takes the white space off both ends and nothing else, so it leaves nothing of a blank text,
leaves a text alone that has no white space, and changes nothing the second time. -/

namespace GiftExchange.Text

variable {cs : List Char}

theorem trimChars_eq_nil_iff : trimChars cs = [] ↔ cs.all isBlankChar = true := by
  have hend : trimChars cs = [] ↔ ∀ c ∈ cs.dropWhile isBlankChar, isBlankChar c = true :=
    List.rdropWhile_eq_nil_iff
  rw [hend, List.all_eq_true]
  constructor
  · intro h c hc
    rw [← List.takeWhile_append_dropWhile (p := isBlankChar) (l := cs)] at hc
    rcases List.mem_append.1 hc with hfront | hbehind
    · exact List.mem_takeWhile_imp hfront
    · exact h c hbehind
  · intro h c hc
    exact h c ((List.dropWhile_suffix isBlankChar).subset hc)

theorem trimChars_of_no_blank (h : ∀ c ∈ cs, isBlankChar c = false) : trimChars cs = cs := by
  have hfront : cs.dropWhile isBlankChar = cs :=
    List.dropWhile_eq_self_iff.2 fun hl => by simp [h _ (List.getElem_mem hl)]
  have hbehind : cs.rdropWhile isBlankChar = cs :=
    List.rdropWhile_eq_self_iff.2 fun hne => by simp [h _ (List.getLast_mem hne)]
  show (cs.dropWhile isBlankChar).rdropWhile isBlankChar = cs
  rw [hfront, hbehind]

/-- What is trimmed stays as it is. -/
theorem trimChars_trimChars (cs : List Char) : trimChars (trimChars cs) = trimChars cs := by
  have hbegins : trimChars cs <+: cs.dropWhile isBlankChar :=
    List.rdropWhile_prefix _ _
  -- what is left begins like the text behind the first white space
  have hfront : (trimChars cs).dropWhile isBlankChar = trimChars cs := by
    refine List.dropWhile_eq_self_iff.2 fun hl => ?_
    rw [hbegins.getElem hl]
    exact List.dropWhile_get_zero_not _ cs (hl.trans_le hbegins.length_le)
  show ((trimChars cs).dropWhile isBlankChar).rdropWhile isBlankChar = trimChars cs
  rw [hfront]
  exact List.rdropWhile_idempotent _ _

theorem toList_trim (s : String) : (trim s).toList = trimChars s.toList := by
  rw [trim, String.toList_ofList]

theorem isEmpty_trim (s : String) : (trim s).isEmpty = isBlank s := by
  rw [Bool.eq_iff_iff, String.isEmpty_iff, isBlank, ← trimChars_eq_nil_iff, ← toList_trim,
    String.toList_eq_nil_iff]

end GiftExchange.Text
