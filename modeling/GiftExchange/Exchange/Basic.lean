import GiftExchange.Conflicts
import GiftExchange.Pairing.Basic

set_option autoImplicit false

/-! # Exchanges

An exchange is one round of giving: who organizes it, what it is about, who takes part, and, once
they are drawn, who gives to whom. Its stage runs from new over started and generated to sent;
drawing again leads back to generated. The participants are listed in the order in which they
joined, each identifier once. -/

namespace GiftExchange

/-- How far an exchange has come. -/
inductive Stage where
  | new
  | started
  | generated
  | sent
  deriving DecidableEq

def Stage.name : Stage → String
  | .new => "new"
  | .started => "started"
  | .generated => "generated"
  | .sent => "sent"

def Stage.all : List Stage := [.new, .started, .generated, .sent]

/-- How many stages come before. -/
def Stage.rank : Stage → Nat
  | .new => 0
  | .started => 1
  | .generated => 2
  | .sent => 3

/-- Stages are ordered as an exchange passes through them. -/
instance : Ord Stage := ⟨fun a b => compare a.rank b.rank⟩

/-- A move to a stage that cannot be reached from the present one. -/
structure StageError where
  source : Stage
  target : Stage
  deriving DecidableEq

def StageError.message (e : StageError) : String :=
  s!"exchange cannot move from `{e.source.name}` to `{e.target.name}`"

/-- Who runs an exchange and receives the answers. -/
structure Organizer where
  name : String
  email : Option String
  phone : Option String
  deriving DecidableEq

/-- A text trimmed, if it is set and not blank. -/
def contact (value : Option String) : Option String :=
  (value.map Text.trim).filter (!·.isEmpty)

/-- The mail address of the organizer, trimmed, if there is one. -/
def Organizer.contactEmail (o : Organizer) : Option String := contact o.email

/-- The phone number of the organizer, trimmed, if there is one. -/
def Organizer.contactPhone (o : Organizer) : Option String := contact o.phone

/-- One round of giving. -/
structure Exchange where
  id : Id
  name : String
  dateAndTime : String
  theme : String
  cost : String
  extraInfo : Option String
  organizer : Organizer
  overrides : TemplateOverrides
  participants : List Participant
  assignments : Option Pairing
  stage : Stage
  deriving BEq

namespace Exchange

/-- A new exchange in which nobody takes part yet. -/
def new (id : Id) (name : String) (organizer : Organizer) : Exchange where
  id := id
  name := name
  dateAndTime := ""
  theme := ""
  cost := ""
  extraInfo := none
  organizer := organizer
  overrides := .none
  participants := []
  assignments := none
  stage := .new

/-! ## Stages -/

/-- A new exchange is started; a later stage stays. -/
def markStarted (e : Exchange) : Exchange :=
  if e.stage = .new then { e with stage := .started } else e

/-- The pairs are drawn, for the first time or again. -/
def markGenerated (e : Exchange) : Exchange :=
  { e with stage := .generated }

/-- The mails are out, which takes drawn pairs. -/
def markSent (e : Exchange) : Except StageError Exchange :=
  match e.stage with
  | .generated | .sent => .ok { e with stage := .sent }
  | other => .error ⟨other, .sent⟩

/-! ## Participants -/

/-- The identifiers of the participants, in order. -/
def ids (e : Exchange) : List Id := e.participants.map Participant.id

def participant? (e : Exchange) (id : Id) : Option Participant :=
  e.participants.find? (·.id == id)

/-- Whether somebody with this identifier takes part. -/
def isMember (e : Exchange) (id : Id) : Bool := (e.participant? id).isSome

/-- The conflicts that the participants declare. -/
def conflicts (e : Exchange) : Conflicts := .ofParticipants e.participants

end Exchange

end GiftExchange
