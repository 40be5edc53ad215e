import GiftExchange.Participant
import GiftExchange.SortedMap

set_option autoImplicit false

/-! # Who must not give to whom

The conflicts of an exchange are directed: a giver must not give to a receiver, and the other direction
is a conflict of its own. They are kept by giver, each giver with the receivers forbidden for him. -/

namespace GiftExchange

/-- For each giver the receivers that are forbidden. -/
structure Conflicts where
  forbidden : SortedMap Id IdSet
  deriving DecidableEq

namespace Conflicts

def empty : Conflicts := ⟨∅⟩

/-- The receivers forbidden for a giver, if there are any. -/
def of? (c : Conflicts) (giver : Id) : Option IdSet := c.forbidden.get? giver

/-- Forbids one direction. -/
def forbid (c : Conflicts) (giver receiver : Id) : Conflicts :=
  ⟨c.forbidden.insert giver (((c.of? giver).getD ∅).insert receiver)⟩

/-- Forbids both directions. -/
def forbidMutual (c : Conflicts) (a b : Id) : Conflicts :=
  (c.forbid a b).forbid b a

/-- Whether `giver` must not give to `receiver`. -/
def forbids (c : Conflicts) (giver receiver : Id) : Bool :=
  (c.of? giver).any fun receivers => receiver ∈ receivers

/-- How many directions are forbidden. -/
def size (c : Conflicts) : Nat :=
  c.forbidden.values.foldl (fun total receivers => total + receivers.size) 0

def isEmpty (c : Conflicts) : Bool := c.size == 0

/-- Forbids every listed pair. -/
def ofPairs (l : List (Id × Id)) : Conflicts :=
  l.foldl (fun c p => c.forbid p.1 p.2) empty

/-- The conflicts that the participants declare. -/
def ofParticipants (ps : List Participant) : Conflicts :=
  ps.foldl (fun c p => p.conflicts.toList.foldl (fun c other => c.forbid p.id other) c) empty

end Conflicts

end GiftExchange
