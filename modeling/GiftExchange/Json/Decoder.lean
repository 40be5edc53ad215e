import GiftExchange.Json.Tree
import GiftExchange.Pairing.Basic
import GiftExchange.SortedSet

set_option autoImplicit false

/-! # Reading values from a tree

A decoder walks a tree in the order of the text and answers the first fault it meets. Records are
read from an object, with their fields in any order, or from an array that has the fields in the
order of their declaration. In an object, a field that comes twice is noticed at its second key and
a field that is missing at the end of the object. -/

namespace GiftExchange

/-- Why a text does not hold the value that was asked for. -/
inductive Fault where
  /-- The text is not JSON, or it does not end where the value ends. -/
  | malformed
  /-- A string that should be an identifier is none. -/
  | badId
  /-- A value of another type stands in this place. -/
  | wrongType
  /-- An integer that is too large or too small stands in this place. -/
  | outOfRange
  /-- An array ends before it has all fields of a record. -/
  | tooShort
  | missingField (name : String)
  | unknownField (name : String) (expected : List String)
  | duplicateField (name : String)
  | unknownVariant (name : String) (expected : List String)
  /-- Pairs that cannot be put together. -/
  | pairing (error : PairingError)
  deriving DecidableEq

/-- Names that are possible in a place, as an error lists them. -/
def Fault.listed (names : List String) : String :=
  match names.map fun n => s!"`{n}`" with
  | [a] => a
  | [a, b] => s!"{a} or {b}"
  | quoted => "one of " ++ String.intercalate ", " quoted

def Fault.message : Fault → String
  | .malformed => "malformed text"
  | .badId => "malformed identifier"
  | .wrongType => "invalid type"
  | .outOfRange => "invalid value"
  | .tooShort => "invalid length"
  | .missingField name => s!"missing field `{name}`"
  | .unknownField name expected => s!"unknown field `{name}`, expected " ++ listed expected
  | .duplicateField name => s!"duplicate field `{name}`"
  | .unknownVariant name expected => s!"unknown variant `{name}`, expected " ++ listed expected
  | .pairing error => error.message

abbrev Decoder (α : Type) := Tree → Except Fault α

namespace Decoder

/-! ## Single values -/

/-- The fault of a value of another type than the one asked for: the text itself is at fault if
it breaks in this value or writes no value. -/
def mismatch : Tree → Fault
  | .broken => .malformed
  | .string none => .malformed
  | .number n => if n.isFinite then .wrongType else .malformed
  | _ => .wrongType

def string : Decoder String
  | .string (some s) => .ok s
  | t => .error (mismatch t)

/-- Reads a 32-bit number. An integer of up to 64 bits that does not fit is out of range, and any
other number is of another type. -/
def word : Decoder UInt32
  | .number n =>
    match n.integer? with
    | none => .error (mismatch (.number n))
    | some i =>
      if 0 ≤ i ∧ i < 0x100000000 then .ok (UInt32.ofNat i.toNat)
      else if -0x8000000000000000 ≤ i ∧ i < 0x10000000000000000 then .error .outOfRange
      else .error (mismatch (.number n))
  | t => .error (mismatch t)

def id : Decoder Id := fun t =>
  match string t with
  | .error e => .error e
  | .ok s =>
    match Id.ofText? s with
    | none => .error .badId
    | some id => .ok id

def optional {α : Type} (d : Decoder α) : Decoder (Option α)
  | .null => .ok none
  | t => (d t).map some

def list {α : Type} (d : Decoder α) : Decoder (List α)
  | .array items => items.mapM d
  | t => .error (mismatch t)

/-- Reads a set of identifiers; repeated ones count once. -/
def idSet : Decoder IdSet := fun t => (list id t).map .ofList

/-- The named value, or the fault that there is none with this name. -/
def named {α : Type} (names : List (String × α)) (name : String) : Except Fault α :=
  match names.lookup name with
  | some a => .ok a
  | none => .error (.unknownVariant name (names.map Prod.fst))

/-- Reads one of several named values: its name, or an object with this name as its only key and
null under it. The name is looked up as soon as it is read; a key that is no string makes the text
malformed. -/
def variant {α : Type} (names : List (String × α)) : Decoder α
  | .string (some s) => named names s
  | .object ((.string (some s), value) :: rest) =>
    match named names s with
    | .error e => .error e
    | .ok a =>
      match value, rest with
      | .null, [] => .ok a
      | .null, _ :: _ => .error .malformed
      | other, _ => .error (mismatch other)
  | _ => .error .malformed

/-! ## Records -/

/-- A field of a record: its name, the check of its value, and whether it may be missing at the
end of an array. -/
structure Field where
  name : String
  check : Tree → Except Fault Unit
  mayTrail : Bool

/-- The fields found, by name. -/
abbrev Found := List (String × Tree)

/-- Walks the members of an object. Keys without a field are skipped, unless only known fields are
allowed. -/
def readMembers (fields : List Field) (strict : Bool) :
    Found → List (Tree × Tree) → Except Fault Found
  | found, [] => .ok found
  | found, (.string (some key), value) :: rest =>
    match fields.find? (·.name == key) with
    | some field =>
      if (found.lookup key).isSome then .error (.duplicateField key)
      else
        match field.check value with
        | .error e => .error e
        | .ok () => readMembers fields strict ((key, value) :: found) rest
    | none =>
      if strict then .error (.unknownField key (fields.map Field.name))
      else if value.isWhole then readMembers fields strict found rest
      else .error .malformed
  | _, _ :: _ => .error .malformed

/-- Walks the items of an array, one for each field. -/
def readItems : List Field → List Tree → Except Fault Found
  | [], [] => .ok []
  | [], _ :: _ => .error .malformed
  | field :: fields, [] => if field.mayTrail then readItems fields [] else .error .tooShort
  | field :: fields, item :: items =>
    match field.check item with
    | .error e => .error e
    | .ok () => (readItems fields items).map ((field.name, item) :: ·)

/-- How a record is read: its fields in the order of their declaration, and the record made from
the fields found. -/
structure Shape (α : Type) where
  fields : List Field
  build : Found → Except Fault α

namespace Shape

/-- A record without fields. -/
def pure {α : Type} (a : α) : Shape α := ⟨[], fun _ => .ok a⟩

/-- Goes on with one more field. -/
def and {α β : Type} (f : Shape (α → β)) (x : Shape α) : Shape β where
  fields := f.fields ++ x.fields
  build found :=
    match f.build found with
    | .error e => .error e
    | .ok f => (x.build found).map f

/-- A field, with the answer for an object that lacks it. -/
def field {α : Type} (name : String) (d : Decoder α) (mayTrail : Bool) (absent : Except Fault α) :
    Shape α where
  fields := [⟨name, fun t => (d t).map fun _ => (), mayTrail⟩]
  build found :=
    match found.lookup name with
    | some t => d t
    | none => absent

/-- A field that every record has. -/
def required {α : Type} (name : String) (d : Decoder α) : Shape α :=
  field name d false (.error (.missingField name))

/-- A field that may be null, or missing in an object. -/
def nullable {α : Type} (name : String) (d : Decoder α) : Shape (Option α) :=
  field name (optional d) false (.ok none)

/-- A field with a value for records that lack it, also at the end of an array. -/
def withDefault {α : Type} (name : String) (d : Decoder α) (default : α) : Shape α :=
  field name d true (.ok default)

def decode {α : Type} (shape : Shape α) (strict : Bool) : Decoder α
  | .object members =>
    match readMembers shape.fields strict [] members with
    | .error e => .error e
    | .ok found => shape.build found
  | .array items =>
    match readItems shape.fields items with
    | .error e => .error e
    | .ok found => shape.build found
  | t => .error (mismatch t)

end Shape

/-! ## Texts -/

/-- Reads a value from a whole text; what stands behind the value is noticed last. -/
def ofText {α : Type} (d : Decoder α) (s : String) : Except Fault α :=
  match d (Tree.ofText s).1 with
  | .error e => .error e
  | .ok a => if (Tree.ofText s).2.isEmpty then .ok a else .error .malformed

end Decoder

end GiftExchange
