import GiftExchange.Address
import GiftExchange.SortedSet
import GiftExchange.Template

set_option autoImplicit false

/-! # Participants

A member of an exchange, with the people this member must not give to. Conflicts have a direction:
that one participant must not give to another says nothing about the other way round. -/

namespace GiftExchange

/-- A member of an exchange. -/
structure Participant where
  id : Id
  name : String
  nickname : String
  email : String
  conflicts : IdSet
  overrides : TemplateOverrides
  deriving DecidableEq

namespace Participant

/-- A participant without conflicts and overrides. -/
def new (id : Id) (name nickname email : String) : Participant :=
  ⟨id, name, nickname, email, ∅, .none⟩

/-- Forbids giving to `other`; nobody gets a conflict with himself. -/
def addConflict (p : Participant) (other : Id) : Participant :=
  if other = p.id then p else { p with conflicts := p.conflicts.insert other }

/-- Allows giving to `other` again. -/
def removeConflict (p : Participant) (other : Id) : Participant :=
  { p with conflicts := p.conflicts.erase other }

/-- Whether the participant must not give to `other`. -/
def conflictsWith (p : Participant) (other : Id) : Bool :=
  other ∈ p.conflicts

/-- What can be wrong with a participant. -/
inductive Defect where
  | nilId
  | missingName (id : Id)
  | missingNickname (id : Id)
  | missingEmail (id : Id)
  | malformedEmail (id : Id)
  | selfConflict (id : Id)
  deriving DecidableEq

def Defect.message : Defect → String
  | .nilId => "participant id must not be nil"
  | .missingName id => s!"participant {id} must have a name"
  | .missingNickname id => s!"participant {id} must have a nickname"
  | .missingEmail id => s!"participant {id} must have an email address"
  | .malformedEmail id => s!"participant {id} has a malformed email address"
  | .selfConflict id => s!"participant {id} conflicts with itself"

/-- The first thing that is wrong with a participant: the identifier, then the name, the nickname,
the mail address and the conflicts. -/
def defect? (p : Participant) : Option Defect :=
  if p.id = Id.nil then some .nilId
  else if Text.isBlank p.name then some (.missingName p.id)
  else if Text.isBlank p.nickname then some (.missingNickname p.id)
  else if Text.isBlank p.email then some (.missingEmail p.id)
  else if !Address.isWellFormed p.email then some (.malformedEmail p.id)
  else if p.id ∈ p.conflicts then some (.selfConflict p.id)
  else none

end Participant

end GiftExchange
