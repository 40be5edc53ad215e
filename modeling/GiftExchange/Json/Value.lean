import GiftExchange.Text.Hex

set_option autoImplicit false

/-! # JSON values and their compact text

Values are written without spaces. In a string the quote, the backslash and the control characters
below U+0020 are escaped, with the short escape where there is one, and every other character
stands for itself. -/

namespace GiftExchange

/-- A JSON value; the only numbers are natural numbers. -/
inductive Json where
  | null
  | bool (b : Bool)
  | number (n : Nat)
  | string (s : String)
  | array (items : List Json)
  | object (members : List (String × Json))

namespace Json

/-- A value that may be missing. -/
def ofOption {α : Type} (f : α → Json) : Option α → Json
  | none => .null
  | some a => f a

/-- How a character is written inside a string. -/
def escapeChar (c : Char) : List Char :=
  if c = '"' then ['\\', '"']
  else if c = '\\' then ['\\', '\\']
  else if c = '\x08' then ['\\', 'b']
  else if c = '\x0c' then ['\\', 'f']
  else if c = '\n' then ['\\', 'n']
  else if c = '\r' then ['\\', 'r']
  else if c = '\t' then ['\\', 't']
  else if c.toNat < 0x20 then
    ['\\', 'u', '0', '0', Text.hexDigit (c.toNat / 16), Text.hexDigit (c.toNat % 16)]
  else [c]

/-- A string in quotes. -/
def quoted (s : String) : List Char :=
  '"' :: (s.toList.flatMap escapeChar ++ ['"'])

mutual

/-- The compact text of a value. -/
def chars : Json → List Char
  | .null => ['n', 'u', 'l', 'l']
  | .bool true => ['t', 'r', 'u', 'e']
  | .bool false => ['f', 'a', 'l', 's', 'e']
  | .number n => Nat.toDigits 10 n
  | .string s => quoted s
  | .array items => '[' :: (itemChars items ++ [']'])
  | .object members => '\x7b' :: (memberChars members ++ ['\x7d'])

/-- The texts of the items of an array, with commas between them. -/
def itemChars : List Json → List Char
  | [] => []
  | [v] => chars v
  | v :: w :: rest => chars v ++ ',' :: itemChars (w :: rest)

/-- The texts of the members of an object, with commas between them. -/
def memberChars : List (String × Json) → List Char
  | [] => []
  | [(key, v)] => quoted key ++ ':' :: chars v
  | (key, v) :: m :: rest => quoted key ++ ':' :: (chars v ++ ',' :: memberChars (m :: rest))

end

/-- The compact text of a value. -/
def render (v : Json) : String := String.ofList v.chars

end Json

end GiftExchange
