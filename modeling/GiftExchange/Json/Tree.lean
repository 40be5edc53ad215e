import GiftExchange.Json.Numeral
import GiftExchange.Text.Hex

set_option autoImplicit false

/-! # JSON text as a tree

A text is read once, strictly, into a tree that keeps the order of the text. Where the text stops
being JSON, the tree has a broken leaf and nothing behind it, so that whoever walks the tree in
order meets the faults of the text at their place among the faults that the walk itself finds.

The position of a key in an object is read as any value: that it has to be a string is for the
walk to say. A broken array or object has a broken last item or member. -/

namespace GiftExchange

/-- What a text holds. A string that has half of a surrogate pair alone has no characters. -/
inductive Tree where
  | broken
  | null
  | bool (b : Bool)
  | number (n : Numeral)
  | string (s : Option String)
  | array (items : List Tree)
  | object (members : List (Tree × Tree))

namespace Tree

/-! ## Strings -/

/-- A part of a string: a character, or the UTF-16 unit of a numeric escape. -/
inductive Piece where
  | char (c : Char)
  | unit (n : Nat)

/-- The unit that four hexadecimal digits write. -/
def hexUnit? (a b c d : Char) : Option Nat :=
  (Text.hexValue? a).bind fun a => (Text.hexValue? b).bind fun b =>
    (Text.hexValue? c).bind fun c =>
      (Text.hexValue? d).map fun d => ((a * 16 + b) * 16 + c) * 16 + d

/-- The character of a short escape. -/
def shortEscape? : Char → Option Char
  | '"' => some '"'
  | '\\' => some '\\'
  | '/' => some '/'
  | 'b' => some '\x08'
  | 'f' => some '\x0c'
  | 'n' => some '\n'
  | 'r' => some '\r'
  | 't' => some '\t'
  | _ => none

/-- Puts a piece in front of what was read. -/
def withPiece (p : Piece) (found : Option (List Piece × List Char)) :
    Option (List Piece × List Char) :=
  found.map fun (ps, rest) => (p :: ps, rest)

/-- Reads the pieces of a string up to the closing quote. -/
def readPieces? : List Char → Option (List Piece × List Char)
  | [] => none
  | '"' :: rest => some ([], rest)
  | '\\' :: 'u' :: a :: b :: c :: d :: rest =>
    (hexUnit? a b c d).bind fun n => withPiece (.unit n) (readPieces? rest)
  | '\\' :: c :: rest => (shortEscape? c).bind fun c => withPiece (.char c) (readPieces? rest)
  | c :: rest =>
    if c.toNat < 0x20 || c = '\\' then none else withPiece (.char c) (readPieces? rest)

/-- Whether a unit is the first half of a surrogate pair. -/
def isHighSurrogate (n : Nat) : Bool := 0xD800 ≤ n && n < 0xDC00

/-- Whether a unit is the second half of a surrogate pair. -/
def isLowSurrogate (n : Nat) : Bool := 0xDC00 ≤ n && n < 0xE000

/-- The characters of pieces, if every half of a surrogate pair stands by the other half. -/
def joinPieces? : List Piece → Option (List Char)
  | [] => some []
  | .char c :: rest => (joinPieces? rest).map (c :: ·)
  | .unit n :: rest =>
    if isLowSurrogate n then none
    else if isHighSurrogate n then
      match rest with
      | .unit m :: rest =>
        if isLowSurrogate m then
          (joinPieces? rest).map
            (Char.ofNat (0x10000 + (n - 0xD800) * 0x400 + (m - 0xDC00)) :: ·)
        else none
      | _ => none
    else (joinPieces? rest).map (Char.ofNat n :: ·)

/-! ## Values -/

/-- Whether a character may stand between the parts of a text. -/
def isSpace (c : Char) : Bool :=
  c = ' ' || c = '\t' || c = '\n' || c = '\r'

/-- The text from its first part on. -/
def skipSpace (cs : List Char) : List Char := cs.dropWhile isSpace

def readString (cs : List Char) : Tree × List Char :=
  match readPieces? cs with
  | none => (.broken, [])
  | some (ps, rest) => (.string ((joinPieces? ps).map String.ofList), rest)

def readNumber (cs : List Char) : Tree × List Char :=
  match Numeral.read? cs with
  | none => (.broken, [])
  | some (n, rest) => (.number n, rest)

mutual

/-- Reads a value off the front of a text; behind a break there is no text. -/
def readValue : Nat → List Char → Tree × List Char
  | 0, _ => (.broken, [])
  | fuel + 1, cs =>
    match skipSpace cs with
    | '"' :: rest => readString rest
    | '[' :: rest =>
      match skipSpace rest with
      | ']' :: rest => (.array [], rest)
      | _ =>
        let (items, rest) := readItems fuel rest
        (.array items, rest)
    | '\x7b' :: rest =>
      match skipSpace rest with
      | '\x7d' :: rest => (.object [], rest)
      | _ =>
        let (members, rest) := readMembers fuel rest
        (.object members, rest)
    | 'n' :: 'u' :: 'l' :: 'l' :: rest => (.null, rest)
    | 't' :: 'r' :: 'u' :: 'e' :: rest => (.bool true, rest)
    | 'f' :: 'a' :: 'l' :: 's' :: 'e' :: rest => (.bool false, rest)
    | other => readNumber other

/-- Reads the items of an array up to its bracket. -/
def readItems : Nat → List Char → List Tree × List Char
  | 0, _ => ([.broken], [])
  | fuel + 1, cs =>
    let (item, rest) := readValue fuel cs
    match skipSpace rest with
    | ']' :: rest => ([item], rest)
    | ',' :: rest =>
      let (items, rest) := readItems fuel rest
      (item :: items, rest)
    | _ => ([item, .broken], [])

/-- Reads the members of an object up to its brace. -/
def readMembers : Nat → List Char → List (Tree × Tree) × List Char
  | 0, _ => ([(.broken, .broken)], [])
  | fuel + 1, cs =>
    match readValue fuel cs with
    | (.string key, rest) =>
      match skipSpace rest with
      | ':' :: rest =>
        let (value, rest) := readValue fuel rest
        match skipSpace rest with
        | '\x7d' :: rest => ([(.string key, value)], rest)
        | ',' :: rest =>
          let (members, rest) := readMembers fuel rest
          ((.string key, value) :: members, rest)
        | _ => ([(.string key, value), (.broken, .broken)], [])
      | _ => ([(.string key, .broken)], [])
    | (other, _) => ([(other, .broken)], [])

end

/-- Reads a text: its value, and what stands behind the value. Every step takes a character or
breaks, but for the two steps into an array or an object, so the fuel is enough. -/
def ofText (s : String) : Tree × List Char :=
  let cs := s.toList
  let (value, rest) := readValue (2 * cs.length + 2) cs
  (value, skipSpace rest)

/-! ## Skipping -/

mutual

/-- Whether nothing in a tree is broken. -/
def isWhole : Tree → Bool
  | .broken => false
  | .array items => areWhole items
  | .object members => membersWhole members
  | _ => true

/-- Whether nothing in an array is broken. -/
def areWhole : List Tree → Bool
  | [] => true
  | t :: rest => isWhole t && areWhole rest

/-- Whether nothing in an object is broken. -/
def membersWhole : List (Tree × Tree) → Bool
  | [] => true
  | (key, value) :: rest => isWhole key && isWhole value && membersWhole rest

end

end Tree

end GiftExchange
