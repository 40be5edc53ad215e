set_option autoImplicit false

/-! # White space, blank texts and words

White space is the Unicode property `White_Space`, the same everywhere in the library: for
trimming, for deciding whether a field is blank, for splitting a line into words and for
rejecting mail addresses. A text is blank when nothing is left of it after trimming. -/

namespace GiftExchange.Text

/-- The first and last code points of the ranges that have the property `White_Space`. -/
def blankRanges : List (Nat × Nat) :=
  [(0x09, 0x0D), (0x20, 0x20), (0x85, 0x85), (0xA0, 0xA0), (0x1680, 0x1680), (0x2000, 0x200A),
   (0x2028, 0x2029), (0x202F, 0x202F), (0x205F, 0x205F), (0x3000, 0x3000)]

def isBlankChar (c : Char) : Bool :=
  blankRanges.any fun r => r.1 ≤ c.toNat && c.toNat ≤ r.2

/-- The characters without the white space at both ends. -/
def trimChars (cs : List Char) : List Char :=
  ((cs.dropWhile isBlankChar).reverse.dropWhile isBlankChar).reverse

/-- The text without the white space at both ends. -/
def trim (s : String) : String :=
  String.ofList (trimChars s.toList)

def isBlank (s : String) : Bool :=
  s.toList.all isBlankChar

/-- The maximal runs of characters that are no white space, in order. -/
def words : List Char → List (List Char)
  | [] => []
  | c :: rest =>
    if isBlankChar c then words rest
    else
      match rest with
      | [] => [[c]]
      | d :: _ =>
        if isBlankChar d then [c] :: words rest
        else
          match words rest with
          | [] => [[c]]
          | w :: ws => (c :: w) :: ws

end GiftExchange.Text
