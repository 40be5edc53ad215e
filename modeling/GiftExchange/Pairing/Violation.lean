import GiftExchange.Conflicts
import GiftExchange.Pairing.Basic

set_option autoImplicit false

/-! # The rules for a pairing of a group

Everybody in the group gives once and receives once, nobody gives to somebody forbidden, and, where
that is asked for, no two people give to each other. A pairing that breaks a rule is answered with
the first violation: the number of pairs, then the members in the order of the group, then the
pairs in their own order. -/

namespace GiftExchange

/-- What a pairing breaks. -/
inductive Violation where
  | sizeMismatch (expected actual : Nat)
  | missingGiver (id : Id)
  | missingReceiver (id : Id)
  | conflict (giver receiver : Id)
  | reciprocalPair (first second : Id)
  deriving DecidableEq

def Violation.message : Violation → String
  | .sizeMismatch expected actual =>
    s!"assignment count {actual} does not match participant count {expected}"
  | .missingGiver id => s!"participant {id} has no giver"
  | .missingReceiver id => s!"participant {id} has no receiver"
  | .conflict giver receiver => s!"participant {giver} must not give to {receiver}"
  | .reciprocalPair first second => s!"participants {first} and {second} give to each other"

namespace Pairing

/-- What a member of the group lacks: a receiver, or else a giver. -/
def memberViolation? (s : Pairing) (id : Id) : Option Violation :=
  if !s.hasGiver id then some (.missingReceiver id)
  else if !s.hasReceiver id then some (.missingGiver id)
  else none

/-- What one pair breaks: a conflict, or else the rule against giving to each other. -/
def pairViolation? (s : Pairing) (conflicts : Conflicts) (avoidReciprocal : Bool) (p : Pair) :
    Option Violation :=
  if conflicts.forbids p.giver p.receiver then some (.conflict p.giver p.receiver)
  else if avoidReciprocal && s.receiverOf? p.receiver == some p.giver then
    some (.reciprocalPair p.giver p.receiver)
  else none

/-- The first rule that a pairing of the group `ids` breaks. -/
def violation? (s : Pairing) (ids : List Id) (conflicts : Conflicts) (avoidReciprocal : Bool) :
    Option Violation :=
  if s.size ≠ ids.length then some (.sizeMismatch ids.length s.size)
  else
    (ids.findSome? s.memberViolation?).or
      (s.pairs.findSome? (s.pairViolation? conflicts avoidReciprocal))

end Pairing

end GiftExchange
