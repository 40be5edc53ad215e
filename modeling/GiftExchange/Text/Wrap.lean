import GiftExchange.Text.Blank
import GiftExchange.Text.Lines

set_option autoImplicit false

/-! # Wrapping free text

Every line of the text is filled anew with its words: a word goes on the line as long as it fits,
a word longer than the width stands alone on its line, and a line without words stays as an empty
line. Filling works on lists of words; the characters of a line are only written at the end. -/

namespace GiftExchange.Text

/-- The words of a line joined by single spaces. -/
def joinWords (line : List (List Char)) : List Char :=
  List.intercalate [' '] line

/-- Whether `word` fits behind the words of `line` in at most `limit` characters. -/
def fits (limit : Nat) (line : List (List Char)) (word : List Char) : Bool :=
  (joinWords line).length + 1 + word.length ≤ limit

/-- Fills lines with the words to come, the first line holding `line` already. -/
def fillAfter (limit : Nat) (line : List (List Char)) : List (List Char) → List (List (List Char))
  | [] => [line]
  | w :: ws =>
    if fits limit line w then fillAfter limit (line ++ [w]) ws
    else line :: fillAfter limit [w] ws

/-- Fills lines of at most `limit` characters with words; no words make one empty line. -/
def fill (limit : Nat) : List (List Char) → List (List (List Char))
  | [] => [[]]
  | w :: ws => fillAfter limit [w] ws

/-- The lines that one source line becomes. -/
def wrapOne (width : Nat) (line : List Char) : List (List Char) :=
  (fill (max width 1) (words line)).map joinWords

/-- The characters of a wrapped text: its lines joined by `ending`. -/
def wrapChars (width : Nat) (ending : List Char) (text : List Char) : List Char :=
  List.intercalate ending ((lines text).flatMap (wrapOne width))

/-- The text wrapped to lines of at most `width` characters that are joined by `ending`. -/
def wrap (text : String) (width : Nat) (ending : String) : String :=
  String.ofList (wrapChars width ending.toList text.toList)

/-- The width of free text in plain mails. -/
def mailWidth : Nat := 75

/-- The line ending that mail templates expect. -/
def mailEnding : String := "\r\n"

end GiftExchange.Text
