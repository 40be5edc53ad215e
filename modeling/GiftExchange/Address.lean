import GiftExchange.Text.Blank

set_option autoImplicit false

/-! # The shape of a mail address

An address is a local part, one at sign and a domain, none of them with white space, and the
domain has a dot with something on both sides of it. Further dots may stand anywhere. -/

namespace GiftExchange.Address

/-- Whether a character may stand in the local part or the domain. -/
def isPartChar (c : Char) : Bool :=
  c != '@' && !Text.isBlankChar c

/-- Whether a dot stands inside the text, neither first nor last. -/
def hasInnerDot (cs : List Char) : Bool :=
  cs.tail.dropLast.contains '.'

/-- Whether the characters, as they stand, are a local part, an at sign and a dotted domain. -/
def hasShape (cs : List Char) : Bool :=
  match cs.dropWhile (· != '@') with
  | [] => false
  | _ :: domain =>
    let before := cs.takeWhile (· != '@')
    !before.isEmpty && before.all isPartChar && domain.all isPartChar && hasInnerDot domain

/-- Whether a text is a mail address once trimmed. -/
def isWellFormed (s : String) : Bool :=
  hasShape (Text.trimChars s.toList)

end GiftExchange.Address
