import GiftExchange.Id
import Std.Data.TreeMap

set_option autoImplicit false

/-! # Pairs and pairings

A pair says who gives to whom. A pairing is a list of pairs in which nobody gives twice and nobody
receives twice, with one index by giver and one by receiver, so that either side of a pair is
found from the other. The indexes hold positions in the list. -/

namespace GiftExchange

/-- A giver and the one who receives the gift, never the same person. -/
structure Pair where
  giver : Id
  receiver : Id
  distinct : giver ≠ receiver
  deriving DecidableEq

/-- Why pairs cannot be put together. -/
inductive PairingError where
  | selfAssignment (id : Id)
  | duplicateGiver (id : Id)
  | duplicateReceiver (id : Id)
  deriving DecidableEq

def PairingError.message : PairingError → String
  | .selfAssignment id => s!"participant {id} cannot give to itself"
  | .duplicateGiver id => s!"participant {id} already has a receiver"
  | .duplicateReceiver id => s!"participant {id} already has a giver"

/-- The pair of a giver and a receiver; nobody gives to himself. -/
def Pair.of (giver receiver : Id) : Except PairingError Pair :=
  if h : giver = receiver then .error (.selfAssignment giver)
  else .ok ⟨giver, receiver, h⟩

/-- Pairs in the order in which they came, with the position of each by its giver and by its
receiver. -/
structure Pairing where
  pairs : List Pair
  byGiver : Std.TreeMap Id Nat
  byReceiver : Std.TreeMap Id Nat

namespace Pairing

def empty : Pairing := ⟨[], ∅, ∅⟩

instance : Inhabited Pairing := ⟨empty⟩

/-- Pairings are compared by their pairs, in order. -/
instance : BEq Pairing := ⟨fun a b => a.pairs == b.pairs⟩

def size (s : Pairing) : Nat := s.pairs.length

def isEmpty (s : Pairing) : Bool := s.pairs.isEmpty

def hasGiver (s : Pairing) (giver : Id) : Bool := s.byGiver.contains giver

def hasReceiver (s : Pairing) (receiver : Id) : Bool := s.byReceiver.contains receiver

def pairOf? (s : Pairing) (giver : Id) : Option Pair :=
  s.byGiver[giver]?.bind fun i => s.pairs[i]?

def receiverOf? (s : Pairing) (giver : Id) : Option Id :=
  (s.pairOf? giver).map Pair.receiver

def giverOf? (s : Pairing) (receiver : Id) : Option Id :=
  (s.byReceiver[receiver]?.bind fun i => s.pairs[i]?).map Pair.giver

/-- The pairing with one more pair at its end, recorded in both indexes. -/
def push (s : Pairing) (p : Pair) : Pairing where
  pairs := s.pairs ++ [p]
  byGiver := s.byGiver.insert p.giver s.size
  byReceiver := s.byReceiver.insert p.receiver s.size

/-- Offers a pair to a pairing: the answer, and the pairing behind it. A pair is added when its giver
does not give yet and its receiver does not receive yet; a giver who gives already is noticed
first. -/
def offer (s : Pairing) (p : Pair) : Except PairingError Unit × Pairing :=
  if s.hasGiver p.giver then (.error (.duplicateGiver p.giver), s)
  else if s.hasReceiver p.receiver then (.error (.duplicateReceiver p.receiver), s)
  else (.ok (), s.push p)

/-- The pairing behind an offer that is taken. -/
def insert (s : Pairing) (p : Pair) : Except PairingError Pairing :=
  match s.offer p with
  | (.ok (), t) => .ok t
  | (.error err, _) => .error err

/-- The pairing with all the listed pairs, inserted in order. -/
def ofList (l : List Pair) : Except PairingError Pairing :=
  l.foldlM insert empty

/-- Adds the pair of a giver and a receiver. -/
def insertIds (s : Pairing) (giver receiver : Id) : Except PairingError Pairing :=
  (Pair.of giver receiver).bind s.insert

/-- The pairing of the listed givers and receivers. Each two are put together only when the pairs
before them are in, so the first one at fault is noticed first. -/
def ofIds (l : List (Id × Id)) : Except PairingError Pairing :=
  l.foldlM (fun s p => s.insertIds p.1 p.2) empty

/-- Adds the pair that `s` has for a giver, unless the giver has none or is there already. -/
def pick (s chosen : Pairing) (giver : Id) : Pairing :=
  if chosen.hasGiver giver then chosen
  else
    match s.pairOf? giver with
    | none => chosen
    | some p => chosen.push p

/-- The pairs of the listed givers, in the order of the list. -/
def restrict (s : Pairing) (givers : List Id) : Pairing :=
  givers.foldl s.pick empty

end Pairing

end GiftExchange
