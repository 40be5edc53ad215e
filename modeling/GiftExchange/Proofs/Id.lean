import GiftExchange.Id
import Mathlib.Algebra.Group.Nat.Defs
import Mathlib.Data.List.Basic

set_option autoImplicit false

/-! # Identifiers are read back from their text

The digits that are written have values, and hyphens have none. So taking the hyphens out of a text
gives back the digits that were grouped, and these digits give back the number (`ofText?_toText`). No
other form of an identifier is as long as the grouped one, or has a hyphen in its ninth place. -/

namespace GiftExchange

theorem Text.hexValue?_hexDigit : ∀ n < 16, Text.hexValue? (Text.hexDigit n) = some n := by
  decide

namespace Id

theorem length_hexDigits (count n : Nat) : (hexDigits count n).length = count := by
  induction count generalizing n with
  | zero => rfl
  | succ count ih => rw [hexDigits, List.length_append, ih, List.length_singleton]

/-- Everything that is written is a digit. -/
theorem exists_hexValue_of_mem {count n : Nat} {c : Char} (h : c ∈ hexDigits count n) :
    ∃ d, Text.hexValue? c = some d := by
  induction count generalizing n with
  | zero => cases h
  | succ count ih =>
    rcases List.mem_append.1 h with hfront | hlast
    · exact ih hfront
    · rw [List.mem_singleton.1 hlast]
      exact ⟨_, Text.hexValue?_hexDigit _ (Nat.mod_lt _ (by decide))⟩

theorem readHex?_append (soFar : Nat) (cs : List Char) (c : Char) :
    readHex? soFar (cs ++ [c]) =
      (readHex? soFar cs).bind fun n => (Text.hexValue? c).map fun d => 16 * n + d := by
  induction cs generalizing soFar with
  | nil =>
    rw [List.nil_append, readHex?, readHex?]
    cases Text.hexValue? c <;> rfl
  | cons a rest ih =>
    rw [List.cons_append, readHex?, readHex?]
    cases Text.hexValue? a with
    | none => rfl
    | some d => exact ih _

/-- The last digits of a number are the number, if there are no others. -/
theorem readHex?_hexDigits (count n : Nat) :
    readHex? 0 (hexDigits count n) = some (n % 16 ^ count) := by
  induction count generalizing n with
  | zero => rw [hexDigits, readHex?, Nat.pow_zero, Nat.mod_one]
  | succ count ih =>
    have hlast := Text.hexValue?_hexDigit (n % 16) (Nat.mod_lt _ (by decide))
    rw [hexDigits, readHex?_append, ih, Option.bind_some, hlast, Option.map_some, Nat.pow_succ,
      Nat.mul_comm (16 ^ count), Nat.mod_mul, Nat.add_comm]

theorem ofDigits?_hexDigits (id : Id) : ofDigits? (hexDigits 32 id.toNat) = some id := by
  have hbound : id.toNat % 16 ^ 32 = id.toNat := Nat.mod_eq_of_lt id.bits.isLt
  rw [ofDigits?, if_pos (length_hexDigits _ _), readHex?_hexDigits, hbound, Option.map_some, ofNat,
    toNat, BitVec.ofNat_toNat, BitVec.setWidth_eq]

/-! ## Groups -/

/-- The groups one after the other are what was grouped. -/
theorem groups_append (cs : List Char) :
    cs.take 8 ++ ((cs.drop 8).take 4 ++ ((cs.drop 12).take 4 ++ ((cs.drop 16).take 4 ++
      cs.drop 20))) = cs := by
  have hfour : ∀ k, (cs.drop k).take 4 ++ cs.drop (k + 4) = cs.drop k := fun k => by
    rw [← List.drop_drop]
    exact List.take_append_drop 4 (cs.drop k)
  rw [hfour 16, hfour 12, hfour 8, List.take_append_drop]

/-- The hyphens are all that grouping adds. -/
theorem filter_grouped {cs : List Char} (h : ∀ c ∈ cs, c ≠ '-') :
    (grouped cs).filter (· != '-') = cs := by
  have hkept : ∀ part : List Char, part ⊆ cs → part.filter (· != '-') = part := by
    intro part hpart
    exact List.filter_eq_self.2 fun c hc => by simpa using h c (hpart hc)
  have htake : ∀ j k, ((cs.drop j).take k).filter (· != '-') = (cs.drop j).take k := fun j k =>
    hkept _ fun c hc => List.mem_of_mem_drop (List.mem_of_mem_take hc)
  have hhyphen : ('-' != '-') = false := by decide
  simp only [grouped, List.filter_append, List.filter_cons, hhyphen, Bool.false_eq_true, if_false,
    htake, hkept _ (List.take_subset 8 cs), hkept _ (List.drop_subset 20 cs), List.append_assoc]
  exact groups_append cs

theorem length_grouped {cs : List Char} (h : cs.length = 32) : (grouped cs).length = 36 := by
  simp [grouped, h]

/-- The ninth character of the grouped form is a hyphen. -/
theorem getElem?_grouped {cs : List Char} (h : cs.length = 32) : (grouped cs)[8]? = some '-' := by
  simp [grouped, h]

/-! ## Texts -/

/-- No text with a hyphen in the ninth place begins with the scheme. -/
theorem map_take_scheme_ne {cs : List Char} (h : cs[8]? = some '-') :
    (cs.take scheme.length).map Char.toLower ≠ scheme := by
  intro heq
  have hninth : ((cs.take scheme.length).map Char.toLower)[8]? = scheme[8]? := by rw [heq]
  rw [List.getElem?_map, List.getElem?_take_of_lt (by decide), h] at hninth
  exact absurd hninth (by decide)

/-- A text that does not begin with a brace or the scheme is read as bare digits or in groups. -/
theorem ofChars?_of_plain {cs : List Char} (hbrace : cs.head? ≠ some '{')
    (hscheme : (cs.take scheme.length).map Char.toLower ≠ scheme) :
    ofChars? cs = (ofDigits? cs).or (ofGrouped? cs) := by
  unfold ofChars?
  split
  · exact absurd rfl hbrace
  · rw [if_neg hscheme]

theorem ofChars?_toChars (id : Id) : ofChars? id.toChars = some id := by
  have hlength := length_hexDigits 32 id.toNat
  have hdigit : ∀ c ∈ hexDigits 32 id.toNat, c ≠ '-' ∧ c ≠ '{' := by
    intro c hc
    obtain ⟨d, hd⟩ := exists_hexValue_of_mem hc
    constructor
    · rintro rfl
      cases hd
    · rintro rfl
      cases hd
  have hdigits : id.toChars.filter (· != '-') = hexDigits 32 id.toNat :=
    filter_grouped fun c hc => (hdigit c hc).1
  have hbrace : id.toChars.head? ≠ some '{' := by
    intro hhead
    have hmem : '{' ∈ id.toChars.filter (· != '-') :=
      List.mem_filter.2 ⟨List.mem_of_mem_head? hhead, by decide⟩
    rw [hdigits] at hmem
    exact (hdigit _ hmem).2 rfl
  have hscheme : (id.toChars.take scheme.length).map Char.toLower ≠ scheme :=
    map_take_scheme_ne (getElem?_grouped hlength)
  -- the hyphens make the text too long for bare digits
  have hlong : ofDigits? id.toChars = none := by
    rw [ofDigits?, toChars, length_grouped hlength, if_neg (by decide)]
  have hgrouped : ofGrouped? id.toChars = some id := by
    rw [ofGrouped?, hdigits, ofDigits?_hexDigits, toChars]
    simp only [if_true]
  rw [ofChars?_of_plain hbrace hscheme, hlong, hgrouped]
  rfl

/-- An identifier is read back from its text. -/
theorem ofText?_toText (id : Id) : ofText? id.toText = some id := by
  rw [ofText?, toText, String.toList_ofList, ofChars?_toChars]

end Id

end GiftExchange
