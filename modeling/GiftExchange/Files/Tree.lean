import GiftExchange.Files.Path

set_option autoImplicit false

/-! # A tree of files

The directories and files that reading settings and setting up the log meet. A path is walked from
the root, and one that is not absolute from the working directory. Two dots lead one directory up,
and nothing leads through a file. Names and paths have a greatest length; a path is checked as a
whole before the tree is looked at, a name when the walk comes to it. -/

namespace GiftExchange

/-- Why an operation on files failed. -/
inductive FileError where
  | notFound
  | exists
  | notDirectory
  | isDirectory
  | notText
  | nameTooLong
  | nulInPath
  deriving DecidableEq

def FileError.message : FileError → String
  | .notFound => "No such file or directory (os error 2)"
  | .exists => "File exists (os error 17)"
  | .notDirectory => "Not a directory (os error 20)"
  | .isDirectory => "Is a directory (os error 21)"
  | .notText => "stream did not contain valid UTF-8"
  | .nameTooLong => "File name too long (os error 36)"
  | .nulInPath => "file name contained an unexpected NUL byte"

namespace FileTree

/-- What stands under a name in a directory. -/
inductive Entry where
  | file (bytes : ByteArray)
  | directory (entries : List (String × Entry))

/-- What a directory holds, by name. -/
abbrev Directory := List (String × Entry)

/-- The directory with an entry under a name. -/
def setEntry (d : Directory) (name : String) (e : Entry) : Directory :=
  (name, e) :: d.filter (·.1 != name)

/-- A directory that was walked to: what it holds, and the directories above it up to the root,
each with the name that leads down from it. -/
structure Spot where
  entries : Directory
  above : List (String × Directory)

/-- One directory up; the root is above itself. -/
def Spot.up (s : Spot) : Spot :=
  match s.above with
  | [] => s
  | (_, parent) :: rest => ⟨parent, rest⟩

/-- One directory down. -/
def Spot.down (s : Spot) (name : String) (entries : Directory) : Spot :=
  ⟨entries, (name, s.entries) :: s.above⟩

/-- The root above a directory that now holds `entries`. -/
def rootAbove (entries : Directory) : List (String × Directory) → Directory
  | [] => entries
  | (name, parent) :: rest => rootAbove (setEntry parent name (.directory entries)) rest

/-- Walks along parts that all have to be directories. -/
def Spot.walk (s : Spot) : List String → Except FileError Spot
  | [] => .ok s
  | part :: rest =>
    if !Path.isStep part then s.walk rest
    else if part = ".." then s.up.walk rest
    else if Path.isLongPart part then .error .nameTooLong
    else
      match s.entries.lookup part with
      | some (.directory entries) => (s.down part entries).walk rest
      | some (.file _) => .error .notDirectory
      | none => .error .notFound

end FileTree

/-- All files there are, and the parts that lead to the working directory. -/
structure FileTree where
  root : FileTree.Directory
  working : List String

namespace FileTree

/-- The parts that a path is walked along from the root. -/
def partsOf (t : FileTree) (path : String) : List String :=
  if Path.isAbsolute path then Path.parts path else t.working ++ Path.parts path

/-- Walks from the root. -/
def enter (t : FileTree) (parts : List String) : Except FileError Spot :=
  Spot.walk ⟨t.root, []⟩ parts

/-- Whether a path leads to a directory. -/
def isDirectory (t : FileTree) (parts : List String) : Bool :=
  match t.enter parts with
  | .ok _ => true
  | .error _ => false

/-- What stands under the last part of a path in a directory, if it is a name at all. -/
def lastFound? (s : Spot) (parts : List String) : Option Entry :=
  (parts.getLast?.filter Path.isName).bind fun name => s.entries.lookup name

/-- What is wrong with a path as a whole. -/
def refusal? (path : String) : Option FileError :=
  if Path.hasNul path then some .nulInPath
  else if Path.isLong path then some .nameTooLong
  else none

/-- What there is to be said of parts that lead to no file and to no directory, though all but the
last lead to one. -/
def absence (parts : List String) : FileError :=
  if parts.getLast?.any Path.isLongPart then .nameTooLong else .notFound

/-- The bytes of the file that parts lead to. -/
def readBytes (t : FileTree) (parts : List String) : Except FileError ByteArray :=
  match t.enter parts.dropLast with
  | .error e => .error e
  | .ok s =>
    match lastFound? s parts with
    | some (.file bytes) => .ok bytes
    | _ => .error (if t.isDirectory parts then .isDirectory else absence parts)

/-- The text of the file at a path. -/
def readText (t : FileTree) (path : String) : Except FileError String :=
  match refusal? path with
  | some e => .error e
  | none =>
    if path.isEmpty then .error .notFound
    else
      match t.readBytes (t.partsOf path) with
      | .error e => .error e
      | .ok bytes =>
        match String.fromUTF8? bytes with
        | some text => .ok text
        | none => .error .notText

/-- Whether a file can be written at a path: in a directory that is there, and not in the place of
a directory. -/
def canWrite (t : FileTree) (path : String) : Bool :=
  let parts := t.partsOf path
  (refusal? path).isNone && t.isDirectory parts.dropLast && !t.isDirectory parts &&
    !parts.getLast?.any Path.isLongPart

/-- Makes one directory in a directory that is there. -/
def makeDirectory (t : FileTree) (parts : List String) : Except FileError FileTree :=
  let parts := Path.dropEmptyEnd parts
  match t.enter parts.dropLast with
  | .error e => .error e
  | .ok s =>
    if t.isDirectory parts || (lastFound? s parts).isSome then .error .exists
    else
      match parts.getLast? with
      | none => .error .notFound
      | some name =>
        if Path.isName name then
          .ok { t with root := rootAbove (setEntry s.entries name (.directory [])) s.above }
        else .error (absence parts)

/-- Makes one directory, or is content with one that is there. -/
def ensureDirectory (t : FileTree) (parts : List String) : Except FileError Unit × FileTree :=
  match t.makeDirectory parts with
  | .ok t => (.ok (), t)
  | .error e => (if t.isDirectory parts then .ok () else .error e, t)

/-- Makes a directory, unless it is there, and where one before it is missing makes that one first;
`depth` bounds how many of them are looked at. What was made stays made. -/
def makeAll : (depth : Nat) → FileTree → List String → Except FileError Unit × FileTree
  | 0, t, _ => (.error .notFound, t)
  | depth + 1, t, parts =>
    match t.ensureDirectory parts with
    | (.error .notFound, t) =>
      match makeAll depth t (Path.parent parts) with
      | (.ok (), t) => t.ensureDirectory parts
      | failed => failed
    | settled => settled

/-- Makes the directory at a path with all directories that lead to it. -/
def makeDirectories (t : FileTree) (path : String) : Except FileError Unit × FileTree :=
  match refusal? path with
  | some e => (.error e, t)
  | none => makeAll ((t.partsOf path).length + 1) t (t.partsOf path)

end FileTree

end GiftExchange
