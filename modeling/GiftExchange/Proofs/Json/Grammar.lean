import GiftExchange.Json.Tree

set_option autoImplicit false

/-! # How trees are written

The texts that write a tree, said without the reader. A string is written piece by piece between
quotes, and the pieces stand for the string that has the same units in UTF-16; pieces with the units
of no string stand for none, which is half of a surrogate pair alone. A numeral is written part by
part. White space may stand around every value and every key. -/

namespace GiftExchange

/-! ## Numbers -/

namespace Numeral

/-- One digit or more. -/
def AreDigits (cs : List Char) : Prop := cs ≠ [] ∧ ∀ c ∈ cs, c.isDigit = true

/-- Only zero itself begins with a zero. -/
def IsWhole (cs : List Char) : Prop := AreDigits cs ∧ (cs.head? = some '0' → cs = ['0'])

/-- A point and the digits behind it, or nothing. -/
inductive FractionSpells : List Char → List Char → Prop where
  | none : FractionSpells [] []
  | digits {ds : List Char} (h : AreDigits ds) : FractionSpells ds ('.' :: ds)

/-- The signs in front of an exponent; no sign is plus. -/
inductive SignSpells : Bool → List Char → Prop where
  | none : SignSpells false []
  | plus : SignSpells false ['+']
  | minus : SignSpells true ['-']

/-- A letter, a sign and digits, or nothing. -/
inductive ExponentSpells : Option (Bool × List Char) → List Char → Prop where
  | none : ExponentSpells none []
  | digits {letter : Char} {negative : Bool} {sign ds : List Char}
      (hletter : letter = 'e' ∨ letter = 'E') (hsign : SignSpells negative sign)
      (h : AreDigits ds) : ExponentSpells (some (negative, ds)) (letter :: (sign ++ ds))

/-- The text of the parts behind the sign. -/
inductive UnsignedSpells (n : Numeral) : List Char → Prop where
  | parts {fraction exponent : List Char} (hwhole : IsWhole n.whole)
      (hfraction : FractionSpells n.fraction fraction)
      (hexponent : ExponentSpells n.exponent exponent) :
      UnsignedSpells n (n.whole ++ (fraction ++ exponent))

/-- The texts of a numeral. -/
inductive Spells (n : Numeral) : List Char → Prop where
  | positive {cs : List Char} (hsign : n.negative = false) (h : UnsignedSpells n cs) : Spells n cs
  | negative {cs : List Char} (hsign : n.negative = true) (h : UnsignedSpells n cs) :
      Spells n ('-' :: cs)

end Numeral

/-! ## Strings -/

namespace Tree

/-- The units of a character in UTF-16: one in the first plane, and else a surrogate pair. -/
def utf16 (c : Char) : List Nat :=
  if c.toNat < 0x10000 then [c.toNat]
  else [0xD800 + (c.toNat - 0x10000) / 0x400, 0xDC00 + (c.toNat - 0x10000) % 0x400]

/-- The units that a piece writes. -/
def Piece.units : Piece → List Nat
  | .char c => utf16 c
  | .unit n => [n]

/-- The texts of a piece: a character that needs no escape, or an escape. -/
inductive Piece.Spells : Piece → List Char → Prop where
  | plain {c : Char} (hcontrol : 0x20 ≤ c.toNat) (hquote : c ≠ '"') (hescape : c ≠ '\\') :
      Spells (.char c) [c]
  | short {c e : Char} (h : shortEscape? e = some c) : Spells (.char c) ['\\', e]
  | unit {a b c d : Char} {n : Nat} (h : hexUnit? a b c d = some n) :
      Spells (.unit n) ['\\', 'u', a, b, c, d]

/-- The texts of pieces one after the other. -/
inductive PiecesSpell : List Piece → List Char → Prop where
  | nil : PiecesSpell [] []
  | cons {p : Piece} {ps : List Piece} {first others : List Char} (h : p.Spells first)
      (hothers : PiecesSpell ps others) : PiecesSpell (p :: ps) (first ++ others)

/-- Whether the units of pieces are those of characters. -/
def SameUnits (ps : List Piece) (cs : List Char) : Prop :=
  ps.flatMap Piece.units = cs.flatMap utf16

/-- The string that pieces stand for, if their units are those of a string. -/
def StandFor (ps : List Piece) : Option String → Prop
  | some s => SameUnits ps s.toList
  | none => ∀ cs, ¬ SameUnits ps cs

/-- The texts of a string. -/
inductive StringSpells : Option String → List Char → Prop where
  | quoted {s : Option String} {ps : List Piece} {cs : List Char} (hstand : StandFor ps s)
      (h : PiecesSpell ps cs) : StringSpells s ('"' :: (cs ++ ['"']))

/-- The texts of a key, which is a string. -/
inductive KeySpells : Tree → List Char → Prop where
  | string {s : Option String} {cs : List Char} (h : StringSpells s cs) : KeySpells (.string s) cs

/-! ## Values -/

/-- Nothing but white space. -/
def Blank (cs : List Char) : Prop := ∀ c ∈ cs, isSpace c = true

instance (cs : List Char) : Decidable (Blank cs) := List.decidableBAll (isSpace · = true) cs

theorem blank_nil : Blank [] := List.forall_mem_nil _

/-- White space around a text. -/
inductive Padded (P : List Char → Prop) : List Char → Prop where
  | around {before inner behind : List Char} (hbefore : Blank before) (h : P inner)
      (hbehind : Blank behind) : Padded P (before ++ (inner ++ behind))

theorem Padded.bare {P : List Char → Prop} {cs : List Char} (h : P cs) : Padded P cs := by
  have hpadded : Padded P ([] ++ (cs ++ [])) := .around blank_nil h blank_nil
  rwa [List.nil_append, List.append_nil] at hpadded

theorem Padded.padded {P : List Char → Prop} {cs front back : List Char} (h : Padded P cs)
    (hfront : Blank front) (hback : Blank back) : Padded P (front ++ (cs ++ back)) := by
  cases h with
  | @around before inner behind hbefore h hbehind =>
    have hwider : Padded P ((front ++ before) ++ (inner ++ (behind ++ back))) :=
      .around (List.forall_mem_append.2 ⟨hfront, hbefore⟩) h
        (List.forall_mem_append.2 ⟨hbehind, hback⟩)
    simpa only [List.append_assoc] using hwider

/-- A key and a value with a colon between them. -/
inductive MemberSpells (key : Tree) (P : List Char → Prop) : List Char → Prop where
  | colon {name value : List Char} (hkey : Padded (KeySpells key) name) (hvalue : Padded P value) :
      MemberSpells key P (name ++ ':' :: value)

mutual

/-- The texts of a tree, without white space around them. -/
def Spells : Tree → List Char → Prop
  | .broken, _ => False
  | .null, cs => cs = ['n', 'u', 'l', 'l']
  | .bool true, cs => cs = ['t', 'r', 'u', 'e']
  | .bool false, cs => cs = ['f', 'a', 'l', 's', 'e']
  | .number n, cs => n.Spells cs
  | .string s, cs => StringSpells s cs
  | .array items, cs => ∃ inner, ItemsSpell items inner ∧ cs = '[' :: (inner ++ [']'])
  | .object members, cs => ∃ inner, MembersSpell members inner ∧ cs = '\x7b' :: (inner ++ ['\x7d'])

/-- The texts of items, with commas between them. -/
def ItemsSpell : List Tree → List Char → Prop
  | [], cs => Blank cs
  | [t], cs => Padded (Spells t) cs
  | t :: u :: rest, cs => ∃ first others, Padded (Spells t) first ∧ ItemsSpell (u :: rest) others ∧
      cs = first ++ ',' :: others

/-- The texts of members, with commas between them. -/
def MembersSpell : List (Tree × Tree) → List Char → Prop
  | [], cs => Blank cs
  | [(key, value)], cs => MemberSpells key (Spells value) cs
  | (key, value) :: m :: rest, cs => ∃ first others, MemberSpells key (Spells value) first ∧
      MembersSpell (m :: rest) others ∧ cs = first ++ ',' :: others

end

/-- A whole text writes a tree. -/
def Writes (t : Tree) (text : String) : Prop := Padded (Spells t) text.toList

/-- More white space around a text does not change what it writes. -/
theorem Writes.padded {t : Tree} {text front back : String} (h : t.Writes text)
    (hfront : Blank front.toList) (hback : Blank back.toList) :
    t.Writes (front ++ text ++ back) := by
  rw [Writes, String.toList_append, String.toList_append, List.append_assoc]
  exact Padded.padded h hfront hback

end Tree

end GiftExchange
