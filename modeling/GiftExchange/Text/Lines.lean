set_option autoImplicit false

/-! # The lines of a text

A line ends at a line feed, and one carriage return right before that line feed belongs to the
break. A break at the very end of the text opens no further line. -/

namespace GiftExchange.Text

/-- The lines of a text, without their breaks. -/
def lines : List Char → List (List Char)
  | [] => []
  | '\n' :: rest => [] :: lines rest
  | '\r' :: '\n' :: rest => [] :: lines rest
  | c :: rest =>
    match lines rest with
    | [] => [[c]]
    | l :: ls => (c :: l) :: ls

end GiftExchange.Text
