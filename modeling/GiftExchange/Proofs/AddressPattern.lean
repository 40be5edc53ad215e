import GiftExchange.Proofs.Contact
import Mathlib.Computability.Language
import Mathlib.Tactic.TFAE

set_option autoImplicit false

/-! # The pattern of a mail address

The shape of an address is a regular expression: characters that are neither at signs nor white space,
an at sign, more of these characters, a dot, and more of them (`pattern`). The pattern leaves open which
dot of the domain is meant, and the check of the shape takes none in particular: it asks for a dot that
is neither the first nor the last character. That both say the same, and the same as counting the at
signs and looking for white space, follows from the three parts of an address (`hasShape_iff`). -/

namespace GiftExchange.Address

open Computability

/-! ## The pattern -/

/-- One character that is neither an at sign nor white space. -/
def onePart : Language Char :=
  fun cs => ∃ c, c ≠ '@' ∧ Text.isBlankChar c = false ∧ cs = [c]

/-- One or more words of a language, put together. -/
def plus (l : Language Char) : Language Char := l * l∗

/-- An at sign with such characters before it, and behind it a dot with such characters on both of its
sides. -/
def pattern : Language Char :=
  plus onePart * {['@']} * plus onePart * {['.']} * plus onePart

theorem isPartChar_iff {c : Char} :
    isPartChar c = true ↔ c ≠ '@' ∧ Text.isBlankChar c = false := by
  rw [isPartChar, Bool.and_eq_true, bne_iff_ne, Bool.not_eq_true']

theorem mem_onePart_iff {cs : List Char} :
    cs ∈ onePart ↔ ∃ c, isPartChar c = true ∧ cs = [c] := by
  simp only [isPartChar_iff, and_assoc]
  rfl

theorem mem_kstar_onePart_iff {cs : List Char} :
    cs ∈ onePart∗ ↔ ∀ c ∈ cs, isPartChar c = true := by
  rw [Language.mem_kstar]
  constructor
  · rintro ⟨words, rfl, hwords⟩ c hc
    obtain ⟨word, hword, hmem⟩ := List.mem_flatten.1 hc
    obtain ⟨d, hd, rfl⟩ := mem_onePart_iff.1 (hwords word hword)
    rwa [List.mem_singleton.1 hmem]
  · intro h
    have hcut : (cs.map fun c => [c]).flatten = cs := by
      rw [← List.flatMap_def, List.flatMap_singleton']
    refine ⟨cs.map fun c => [c], hcut.symm, fun word hword => ?_⟩
    obtain ⟨c, hc, rfl⟩ := List.mem_map.1 hword
    exact mem_onePart_iff.2 ⟨c, h c hc, rfl⟩

theorem mem_plus_onePart_iff {cs : List Char} :
    cs ∈ plus onePart ↔ cs ≠ [] ∧ ∀ c ∈ cs, isPartChar c = true := by
  rw [plus, Language.mem_mul]
  constructor
  · rintro ⟨first, hfirst, rest, hrest, rfl⟩
    obtain ⟨c, hc, rfl⟩ := mem_onePart_iff.1 hfirst
    exact ⟨by simp, List.forall_mem_cons.2 ⟨hc, mem_kstar_onePart_iff.1 hrest⟩⟩
  · rintro ⟨hne, h⟩
    obtain ⟨c, rest, rfl⟩ := List.exists_cons_of_ne_nil hne
    obtain ⟨hc, hrest⟩ := List.forall_mem_cons.1 h
    exact ⟨[c], mem_onePart_iff.2 ⟨c, hc, rfl⟩, rest, mem_kstar_onePart_iff.2 hrest, rfl⟩

theorem mem_pattern_iff {cs : List Char} :
    cs ∈ pattern ↔ ∃ front host tail, cs = front ++ '@' :: (host ++ '.' :: tail) ∧
      front ∈ plus onePart ∧ host ∈ plus onePart ∧ tail ∈ plus onePart := by
  simp only [pattern, Language.mem_mul]
  constructor
  · rintro ⟨_, ⟨_, ⟨_, ⟨front, hfront, _, rfl, rfl⟩, host, hhost, rfl⟩, _, rfl, rfl⟩, tail, htail, rfl⟩
    exact ⟨front, host, tail, by simp, hfront, hhost, htail⟩
  · rintro ⟨front, host, tail, rfl, hfront, hhost, htail⟩
    exact ⟨_, ⟨_, ⟨_, ⟨front, hfront, _, rfl, rfl⟩, host, hhost, rfl⟩, _, rfl, rfl⟩, tail, htail,
      by simp⟩

/-- The check of the shape is the pattern. -/
theorem hasShape_iff_mem_pattern {cs : List Char} : hasShape cs = true ↔ cs ∈ pattern := by
  simp only [hasShape_iff, mem_pattern_iff, mem_plus_onePart_iff, List.forall_mem_append]
  constructor
  · rintro ⟨front, host, tail, rfl, hfront, hhost, htail, ⟨hf, hh⟩, ht⟩
    exact ⟨front, host, tail, rfl, ⟨hfront, hf⟩, ⟨hhost, hh⟩, htail, ht⟩
  · rintro ⟨front, host, tail, rfl, ⟨hfront, hf⟩, ⟨hhost, hh⟩, htail, ht⟩
    exact ⟨front, host, tail, rfl, hfront, hhost, htail, ⟨hf, hh⟩, ht⟩

/-! ## At signs and white space -/

/-- Around one at sign there is no other. -/
theorem count_at_eq_one_iff {front behind : List Char} :
    (front ++ '@' :: behind).count '@' = 1 ↔ '@' ∉ front ∧ '@' ∉ behind := by
  rw [List.count_append, List.count_cons_self, ← List.count_eq_zero, ← List.count_eq_zero]
  omega

theorem hasShape_iff_count {cs : List Char} :
    hasShape cs = true ↔
      (∀ c ∈ cs, Text.isBlankChar c = false) ∧ cs.count '@' = 1 ∧
        ∃ front host tail, cs = front ++ '@' :: (host ++ '.' :: tail) ∧
          front ≠ [] ∧ host ≠ [] ∧ tail ≠ [] := by
  constructor
  · intro h
    refine ⟨not_isBlankChar_of_hasShape h, ?_⟩
    obtain ⟨front, host, tail, rfl, hfront, hhost, htail, hparts⟩ := hasShape_iff.1 h
    have hat : '@' ∉ front ++ host ++ tail := fun hmem =>
      absurd (hparts '@' hmem) (by decide)
    refine ⟨count_at_eq_one_iff.2 ?_, front, host, tail, rfl, hfront, hhost, htail⟩
    simpa [and_assoc] using hat
  · rintro ⟨hblank, hcount, front, host, tail, rfl, hfront, hhost, htail⟩
    obtain ⟨hbefore, hbehind⟩ := count_at_eq_one_iff.1 hcount
    rw [List.mem_append, List.mem_cons, not_or, not_or] at hbehind
    refine hasShape_iff.2 ⟨front, host, tail, rfl, hfront, hhost, htail, fun c hc => ?_⟩
    simp only [List.mem_append, List.mem_cons] at hc hblank
    refine isPartChar_iff.2 ⟨?_, hblank c (by tauto)⟩
    rintro rfl
    exact hc.elim (·.elim hbefore hbehind.1) hbehind.2.2

/-- **Which texts are mail addresses.** A text is well formed exactly if what trimming leaves of it has
the pattern of an address; and that is the case exactly if no white space is left in it, it has one at
sign and no other, something stands before the at sign, and behind it stands a dot with something
between the two and something behind the dot. -/
theorem well_formed_texts (s : String) :
    List.TFAE [
      isWellFormed s = true,
      (Text.trim s).toList ∈ pattern,
      (∀ c ∈ (Text.trim s).toList, Text.isBlankChar c = false) ∧
        (Text.trim s).toList.count '@' = 1 ∧
        ∃ front host tail, (Text.trim s).toList = front ++ '@' :: (host ++ '.' :: tail) ∧
          front ≠ [] ∧ host ≠ [] ∧ tail ≠ []] := by
  have hshape : isWellFormed s = hasShape (Text.trim s).toList := by
    rw [isWellFormed, Text.toList_trim]
  rw [hshape]
  tfae_have 1 ↔ 2 := hasShape_iff_mem_pattern
  tfae_have 1 ↔ 3 := hasShape_iff_count
  tfae_finish

/-- The dot that counts is any but the first and the last character of the domain. -/
example :
    ["a@..b", "a@b..", "a@.b", "a@b.", "a@b@c.d", "a b@c.d", "\u2003a@b.c\u0085"].map isWellFormed =
      [true, true, false, false, false, false, true] := by
  decide +kernel

end GiftExchange.Address
