import GiftExchange.Text.Hex

set_option autoImplicit false

/-! # Identifiers

An identifier is a 128-bit number. It is written as 32 lower-case hexadecimal digits in groups
of 8, 4, 4, 4 and 12, and read from that form, from the bare digits, from the grouped form in
braces and from the grouped form behind the words `urn:uuid:`, in any case. -/

namespace GiftExchange

/-- A 128-bit identifier. -/
structure Id where
  bits : BitVec 128
  deriving DecidableEq

namespace Id

/-- The identifier with the number `n`, reduced to 128 bits. -/
def ofNat (n : Nat) : Id := ⟨BitVec.ofNat 128 n⟩

/-- The identifier made from a random number: six of its bits are fixed, and say that it has
version 4 and the usual variant. -/
def ofRandom (n : Nat) : Id :=
  ⟨BitVec.ofNat 128 n &&& 0xFFFFFFFFFFFF0FFF3FFFFFFFFFFFFFFF#128 |||
    0x00000000000040008000000000000000#128⟩

/-- The number of an identifier. -/
def toNat (id : Id) : Nat := id.bits.toNat

/-- How many identifiers there are. -/
def count : Nat := 0x100000000000000000000000000000000

/-- The identifier of nobody: all bits are zero. -/
def nil : Id := ofNat 0

/-- Identifiers are ordered as numbers. -/
instance : Ord Id := ⟨fun a b => compare a.toNat b.toNat⟩

instance : Std.TransOrd Id :=
  inferInstanceAs (Std.TransCmp (compareOn Id.toNat))

instance : Std.LawfulEqOrd Id where
  eq_of_compare {a b} h := by
    cases a; cases b
    exact congrArg Id.mk (BitVec.eq_of_toNat_eq (Nat.compare_eq_eq.1 h))

instance : Inhabited Id := ⟨nil⟩

/-! ## Writing -/

/-- The last `count` hexadecimal digits of a number, the most significant first. -/
def hexDigits : Nat → Nat → List Char
  | 0, _ => []
  | count + 1, n => hexDigits count (n / 16) ++ [Text.hexDigit (n % 16)]

/-- The characters in groups of 8, 4, 4, 4 and the rest, with hyphens between them. -/
def grouped (cs : List Char) : List Char :=
  cs.take 8 ++ '-' :: (cs.drop 8).take 4 ++ '-' :: (cs.drop 12).take 4 ++
    '-' :: (cs.drop 16).take 4 ++ '-' :: cs.drop 20

/-- The characters of an identifier's text. -/
def toChars (id : Id) : List Char :=
  grouped (hexDigits 32 id.toNat)

/-- The text of an identifier. -/
def toText (id : Id) : String :=
  String.ofList id.toChars

instance : ToString Id := ⟨toText⟩

/-! ## Reading -/

/-- Reads digits behind the number read so far. -/
def readHex? (soFar : Nat) : List Char → Option Nat
  | [] => some soFar
  | c :: rest => (Text.hexValue? c).bind fun d => readHex? (16 * soFar + d) rest

/-- Reads 32 bare digits. -/
def ofDigits? (cs : List Char) : Option Id :=
  if cs.length = 32 then (readHex? 0 cs).map ofNat else none

/-- Reads the grouped form: the digits without hyphens, if grouping them gives the text back. -/
def ofGrouped? (cs : List Char) : Option Id :=
  let digits := cs.filter (· != '-')
  if grouped digits = cs then ofDigits? digits else none

/-- The scheme that may stand before the grouped form. -/
def scheme : List Char := "urn:uuid:".toList

def ofChars? (cs : List Char) : Option Id :=
  match cs with
  | '{' :: rest =>
    if rest.getLast? = some '}' then ofGrouped? rest.dropLast else none
  | _ =>
    if (cs.take scheme.length).map Char.toLower = scheme then ofGrouped? (cs.drop scheme.length)
    else (ofDigits? cs).or (ofGrouped? cs)

def ofText? (s : String) : Option Id :=
  ofChars? s.toList

end Id

end GiftExchange
