import GiftExchange.Json.Value
import GiftExchange.Proofs.Json.Tree
import Mathlib.Data.Nat.Digits.Defs

set_option autoImplicit false

/-! # A written value is read back whole

Every JSON value has a tree (`Json.toTree`), and the compact text of the value is one of the texts that
write the tree (`Json.writes_render`). So the value is read back from its text. -/

namespace GiftExchange

/-! ## Numbers -/

namespace Numeral

/-- The numeral that is written for a natural number. -/
def ofNat (n : Nat) : Numeral := ⟨false, Nat.toDigits 10 n, [], none⟩

theorem digitChar_ne_zero : ∀ n < 10, 0 < n → Nat.digitChar n ≠ '0' := by
  decide

/-- Only zero is written with a zero in front. -/
theorem head?_toDigits {n : Nat} (h : 0 < n) : (Nat.toDigits 10 n).head? ≠ some '0' := by
  induction n using Nat.strong_induction_on with
  | _ n ih =>
    by_cases hn : n < 10
    · rw [Nat.toDigits_of_lt_base hn, List.head?_cons]
      exact fun heq => digitChar_ne_zero n hn h (Option.some.inj heq)
    · rw [Nat.toDigits_of_base_le (by decide) (by omega),
        List.head?_append_of_ne_nil _ Nat.toDigits_ne_nil]
      exact ih (n / 10) (by omega) (by omega)

theorem isWhole_toDigits (n : Nat) : IsWhole (Nat.toDigits 10 n) := by
  refine ⟨⟨Nat.toDigits_ne_nil, fun c hc => Nat.isDigit_of_mem_toDigits (by decide) (by decide) hc⟩,
    fun hzero => ?_⟩
  rcases Nat.eq_zero_or_pos n with rfl | hpos
  · rfl
  · exact absurd hzero (head?_toDigits hpos)

theorem toNat_digitChar : ∀ n < 10, (Nat.digitChar n).toNat - 48 = n := by
  decide

/-- The digits that are written for a number write it. -/
theorem digitsValue_toDigits (n : Nat) : digitsValue (Nat.toDigits 10 n) = n := by
  induction n using Nat.strong_induction_on with
  | _ n ih =>
    by_cases hn : n < 10
    · rw [Nat.toDigits_of_lt_base hn]
      show 10 * 0 + ((Nat.digitChar n).toNat - 48) = n
      rw [toNat_digitChar n hn]
      omega
    · have hfront : digitsValue (Nat.toDigits 10 (n / 10)) = n / 10 := ih (n / 10) (by omega)
      rw [digitsValue] at hfront
      rw [Nat.toDigits_of_base_le (by decide) (by omega), digitsValue, List.foldl_append, hfront]
      show 10 * (n / 10) + ((Nat.digitChar (n % 10)).toNat - 48) = n
      rw [toNat_digitChar (n % 10) (by omega)]
      omega

theorem integer?_ofNat (n : Nat) : (ofNat n).integer? = some (n : Int) := by
  simp [integer?, ofNat, digitsValue_toDigits]

theorem spells_toDigits (n : Nat) : (ofNat n).Spells (Nat.toDigits 10 n) := by
  have hparts : UnsignedSpells (ofNat n) (Nat.toDigits 10 n ++ ([] ++ [])) :=
    .parts (isWhole_toDigits n) .none .none
  rw [List.append_nil, List.append_nil] at hparts
  exact .positive rfl hparts

end Numeral

/-! ## Strings -/

namespace Json

open GiftExchange.Tree

theorem hexUnit?_of_byte {n : Nat} (h : n < 0x100) :
    hexUnit? '0' '0' (Text.hexDigit (n / 16)) (Text.hexDigit (n % 16)) = some n := by
  have hzero : Text.hexValue? '0' = some 0 := by decide
  rw [hexUnit?, hzero, Text.hexValue?_hexDigit (n / 16) (by omega),
    Text.hexValue?_hexDigit (n % 16) (by omega)]
  show some (((0 * 16 + 0) * 16 + n / 16) * 16 + n % 16) = some n
  rw [Nat.zero_mul, Nat.zero_add, Nat.div_add_mod' n 16]

/-- What is written for a character is a piece with its units. -/
theorem exists_piece (c : Char) : ∃ p : Piece, p.Spells (escapeChar c) ∧ p.units = utf16 c := by
  unfold escapeChar
  split_ifs with hquote hbackslash hb hf hn hr ht hcontrol
  · exact ⟨.char c, .short (by rw [hquote]; rfl), rfl⟩
  · exact ⟨.char c, .short (by rw [hbackslash]; rfl), rfl⟩
  · exact ⟨.char c, .short (by rw [hb]; rfl), rfl⟩
  · exact ⟨.char c, .short (by rw [hf]; rfl), rfl⟩
  · exact ⟨.char c, .short (by rw [hn]; rfl), rfl⟩
  · exact ⟨.char c, .short (by rw [hr]; rfl), rfl⟩
  · exact ⟨.char c, .short (by rw [ht]; rfl), rfl⟩
  · refine ⟨.unit c.toNat, .unit (hexUnit?_of_byte (by omega)), ?_⟩
    rw [utf16, if_pos (by omega), Piece.units]
  · exact ⟨.char c, .plain (by omega) hquote hbackslash, rfl⟩

theorem exists_pieces (cs : List Char) :
    ∃ ps, PiecesSpell ps (cs.flatMap escapeChar) ∧ SameUnits ps cs := by
  induction cs with
  | nil => exact ⟨[], .nil, rfl⟩
  | cons c cs ih =>
    obtain ⟨ps, hps, hsame⟩ := ih
    obtain ⟨p, hp, hunits⟩ := exists_piece c
    refine ⟨p :: ps, .cons hp hps, ?_⟩
    rw [SameUnits, List.flatMap_cons, List.flatMap_cons, hunits, hsame]

theorem stringSpells_quoted (s : String) : StringSpells (some s) (quoted s) := by
  obtain ⟨ps, hps, hsame⟩ := exists_pieces s.toList
  exact .quoted hsame hps

/-! ## Values -/

mutual

/-- What reading the text of a value gives. -/
def toTree : Json → Tree
  | .null => .null
  | .bool b => .bool b
  | .number n => .number (.ofNat n)
  | .string s => .string (some s)
  | .array items => .array (itemTrees items)
  | .object members => .object (memberTrees members)

def itemTrees : List Json → List Tree
  | [] => []
  | v :: rest => v.toTree :: itemTrees rest

def memberTrees : List (String × Json) → List (Tree × Tree)
  | [] => []
  | (key, v) :: rest => (.string (some key), v.toTree) :: memberTrees rest

end

theorem itemsSpell_itemChars {items : List Json} (h : ∀ v ∈ items, v.toTree.Spells v.chars) :
    ItemsSpell (itemTrees items) (itemChars items) := by
  induction items with
  | nil => exact blank_nil
  | cons v items ih =>
    obtain ⟨hv, hitems⟩ := List.forall_mem_cons.1 h
    cases items with
    | nil => exact .bare hv
    | cons w items => exact ⟨_, _, .bare hv, ih hitems, rfl⟩

theorem membersSpell_memberChars {members : List (String × Json)}
    (h : ∀ m ∈ members, m.2.toTree.Spells m.2.chars) :
    MembersSpell (memberTrees members) (memberChars members) := by
  induction members with
  | nil => exact blank_nil
  | cons m members ih =>
    obtain ⟨key, v⟩ := m
    obtain ⟨(hv : v.toTree.Spells v.chars), hmembers⟩ := List.forall_mem_cons.1 h
    have hmember : MemberSpells (.string (some key)) v.toTree.Spells (quoted key ++ ':' :: v.chars) :=
      .colon (.bare (.string (stringSpells_quoted key))) (.bare hv)
    cases members with
    | nil => exact hmember
    | cons next members =>
      refine ⟨_, _, hmember, ih hmembers, ?_⟩
      rw [memberChars, List.append_assoc, List.cons_append]

/-- The compact text of a value writes its tree. -/
theorem spells_chars : ∀ v : Json, v.toTree.Spells v.chars
  | .null => rfl
  | .bool true => rfl
  | .bool false => rfl
  | .number n => Numeral.spells_toDigits n
  | .string s => stringSpells_quoted s
  | .array _ => ⟨_, itemsSpell_itemChars fun v _ => spells_chars v, rfl⟩
  | .object members => ⟨_, membersSpell_memberChars fun m hm =>
    have _ : sizeOf m.2 < sizeOf members := sizeOf_snd_lt hm
    spells_chars m.2, rfl⟩
termination_by v => sizeOf v

/-- What is written for a value writes its tree. -/
theorem writes_render (v : Json) : v.toTree.Writes v.render := by
  rw [Writes, render, String.toList_ofList]
  exact .bare v.spells_chars

end Json

end GiftExchange
