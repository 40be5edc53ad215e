import GiftExchange.Json.Double

set_option autoImplicit false

/-! # JSON numbers as they are written

A numeral keeps its digits, because what a number may stand for depends on how it is written: only
one without fraction and exponent is an integer, and minus zero is none. A numeral is read as a
double computed from its first digits and a power of ten; if that is beyond the greatest double,
there is no number to be read at all. -/

namespace GiftExchange

/-- The parts of a written number; the fraction and the exponent hold digits only. -/
structure Numeral where
  negative : Bool
  whole : List Char
  fraction : List Char
  exponent : Option (Bool × List Char)
  deriving DecidableEq

namespace Numeral

/-- The number with one more decimal digit behind it. -/
def withDigit (n : Nat) (d : Char) : Nat := 10 * n + (d.toNat - 48)

/-- The number that decimal digits write. -/
def digitsValue (ds : List Char) : Nat := ds.foldl withDigit 0

/-- The digits in front and what is behind them. -/
def spanDigits (cs : List Char) : List Char × List Char :=
  (cs.takeWhile Char.isDigit, cs.dropWhile Char.isDigit)

/-- Reads the whole part: digits without a leading zero. -/
def readWhole? (cs : List Char) : Option (List Char × List Char) :=
  match spanDigits cs with
  | ([], _) => none
  | ('0' :: _ :: _, _) => none
  | found => some found

/-- Reads the fraction, if a point follows: at least one digit. -/
def readFraction? : List Char → Option (List Char × List Char)
  | '.' :: rest =>
    match spanDigits rest with
    | ([], _) => none
    | found => some found
  | cs => some ([], cs)

/-- Reads the digits of an exponent behind its sign. -/
def readExponentDigits? (negative : Bool) (cs : List Char) :
    Option (Option (Bool × List Char) × List Char) :=
  match spanDigits cs with
  | ([], _) => none
  | (ds, rest) => some (some (negative, ds), rest)

/-- Reads the exponent, if its letter follows: a sign or none, and at least one digit. -/
def readExponent? : List Char → Option (Option (Bool × List Char) × List Char)
  | 'e' :: rest | 'E' :: rest =>
    match rest with
    | '+' :: rest => readExponentDigits? false rest
    | '-' :: rest => readExponentDigits? true rest
    | _ => readExponentDigits? false rest
  | cs => some (none, cs)

/-- Reads the parts behind the sign. -/
def readUnsigned? (negative : Bool) (cs : List Char) : Option (Numeral × List Char) :=
  (readWhole? cs).bind fun (whole, rest) =>
    (readFraction? rest).bind fun (fraction, rest) =>
      (readExponent? rest).map fun (exponent, rest) => (⟨negative, whole, fraction, exponent⟩, rest)

def read? : List Char → Option (Numeral × List Char)
  | '-' :: rest => readUnsigned? true rest
  | cs => readUnsigned? false cs

/-- The integer that a numeral writes, if it writes one. -/
def integer? (n : Numeral) : Option Int :=
  if !n.fraction.isEmpty || n.exponent.isSome then none
  else
    match n.negative, digitsValue n.whole with
    | false, m => some m
    | true, 0 => none
    | true, m => some (-(m : Int))

/-- The power of ten that the exponent writes. -/
def writtenPower (n : Numeral) : Int :=
  match n.exponent with
  | none => 0
  | some (false, ds) => digitsValue ds
  | some (true, ds) => -(digitsValue ds : Int)

/-- Reads digits behind the number read so far while the number fits into 64 bits, and counts the
digits that are left. -/
def readFitting (soFar : Nat) : List Char → Nat × Nat
  | [] => (soFar, 0)
  | c :: rest =>
    if withDigit soFar c < UInt64.size then readFitting (withDigit soFar c) rest
    else (soFar, rest.length + 1)

/-- A number of 64 bits and a power of ten whose product is near the magnitude. A digit of the
whole part that is left raises the power, a digit of the fraction that is read lowers it, and a
digit of the fraction that is left does not count. -/
def approximation (n : Numeral) : Nat × Int :=
  let (whole, raised) := readFitting 0 n.whole
  let (significand, dropped) := readFitting whole n.fraction
  (significand, n.writtenPower + raised - (n.fraction.length - dropped : Nat))

/-- Whether the magnitude is within the doubles. It is computed from the approximation; zero and
whatever is scaled down always are. -/
def isFinite (n : Numeral) : Bool :=
  let (significand, power) := n.approximation
  significand == 0 || power < 0 || Double.holdsScaled significand power.toNat

end Numeral

end GiftExchange
