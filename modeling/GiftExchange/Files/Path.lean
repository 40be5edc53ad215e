set_option autoImplicit false

/-! # Paths

A path is taken apart at its slashes. Two absolute paths are the same if their parts are, where
empty parts and single dots count for nothing and two dots are a part like any other. -/

namespace GiftExchange.Path

/-- The characters between slashes, empty ones included. -/
def splitSlashes : List Char → List (List Char)
  | [] => [[]]
  | c :: rest =>
    if c = '/' then [] :: splitSlashes rest
    else
      match splitSlashes rest with
      | [] => [[c]]
      | part :: parts => (c :: part) :: parts

/-- The parts of a path as they stand. -/
def parts (path : String) : List String :=
  (splitSlashes path.toList).map String.ofList

/-- Whether a part leads somewhere else than where the path is already. -/
def isStep (part : String) : Bool := part != "" && part != "."

/-- The parts of a path that lead somewhere. -/
def components (path : String) : List String := (parts path).filter isStep

/-- Parts without the empty ones at their end. -/
def dropEmptyEnd (parts : List String) : List String :=
  (parts.reverse.dropWhile (·.isEmpty)).reverse

/-- The parts that lead somewhere, without the last of them. -/
def parent (parts : List String) : List String := (parts.filter isStep).dropLast

/-- Whether a part is too long for the name of a file: more than 255 bytes. -/
def isLongPart (part : String) : Bool := 255 < part.utf8ByteSize

/-- Whether a part can be the name of a file: it leads down, and it is not too long. -/
def isName (part : String) : Bool := isStep part && part != ".." && !isLongPart part

/-- Whether a path is too long to be looked up: more than 4095 bytes. -/
def isLong (path : String) : Bool := 4095 < path.utf8ByteSize

/-- Whether a character of the path is NUL, which no path may contain. -/
def hasNul (path : String) : Bool := path.toList.contains '\x00'

def isAbsolute (path : String) : Bool := path.toList.head? == some '/'

/-- A path with one more part; a slash is put between them where one is needed. -/
def join (path part : String) : String :=
  if path.isEmpty || path.toList.getLast? == some '/' then path ++ part else path ++ "/" ++ part

end GiftExchange.Path
