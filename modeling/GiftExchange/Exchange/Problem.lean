import GiftExchange.Exchange.Basic

set_option autoImplicit false

/-! # What is wrong with an exchange

Every broken rule is listed, not only the first: blank texts, the organizer's contact, the number
of participants, then each participant in turn, and last the conflicts with people who do not take
part. -/

namespace GiftExchange

/-- How many participants an exchange needs. -/
def minParticipants : Nat := 2

/-- One reason why an exchange cannot be drawn. -/
inductive Problem where
  | missingField (field : String)
  | missingOrganizerContact
  | malformedOrganizerEmail
  | tooFewParticipants (required actual : Nat)
  | duplicateParticipant (id : Id)
  | participant (defect : Participant.Defect)
  | foreignConflict (holder other : Id)
  deriving DecidableEq

def Problem.message : Problem → String
  | .missingField field => s!"{field} is required"
  | .missingOrganizerContact => "organizer needs an email address, a phone number, or both"
  | .malformedOrganizerEmail => "organizer email address is malformed"
  | .tooFewParticipants required actual =>
    s!"at least {required} participants are required, found {actual}"
  | .duplicateParticipant id => s!"participant {id} appears twice"
  | .participant defect => defect.message
  | .foreignConflict holder other =>
    s!"participant {holder} conflicts with {other}, who is not in this exchange"

def Problem.summary (problems : List Problem) : String :=
  match problems with
  | [] => "exchange is invalid"
  | _ => "exchange is invalid: " ++ String.intercalate "; " (problems.map message)

namespace Exchange

/-- The required texts that are blank. -/
def fieldProblems (e : Exchange) : List Problem :=
  ([("name", e.name), ("date_and_time", e.dateAndTime), ("theme", e.theme), ("cost", e.cost),
    ("organizer_name", e.organizer.name)].filter fun f => Text.isBlank f.2).map
    fun f => .missingField f.1

/-- What is wrong with the organizer's contact: none at all, or a mail address without shape. -/
def contactProblems (e : Exchange) : List Problem :=
  match e.organizer.contactEmail, e.organizer.contactPhone with
  | none, none => [.missingOrganizerContact]
  | some email, _ => if Address.isWellFormed email then [] else [.malformedOrganizerEmail]
  | none, some _ => []

/-- Whether there are too few participants. -/
def countProblems (e : Exchange) : List Problem :=
  if e.participants.length < minParticipants then
    [.tooFewParticipants minParticipants e.participants.length]
  else []

/-- For each participant behind those with the identifiers `seen`: an identifier that came before,
then the first defect. -/
def memberProblems (seen : List Id) : List Participant → List Problem
  | [] => []
  | p :: rest =>
    (if p.id ∈ seen then [.duplicateParticipant p.id] else []) ++
      (p.defect?.map .participant).toList ++ memberProblems (p.id :: seen) rest

/-- The conflicts of a participant with somebody else who is not among `members`. -/
def foreignConflicts (members : List Id) (p : Participant) : List Problem :=
  (p.conflicts.toList.filter fun other => other != p.id && !members.contains other).map
    (.foreignConflict p.id)

/-- Everything that is wrong with an exchange, in order. -/
def problems (e : Exchange) : List Problem :=
  e.fieldProblems ++ e.contactProblems ++ e.countProblems ++ memberProblems [] e.participants ++
    e.participants.flatMap (foreignConflicts e.ids)

end Exchange

end GiftExchange
