import GiftExchange.Document.Template
import GiftExchange.Exchange.Basic

set_option autoImplicit false

/-! # Exchanges as documents

An exchange is one document with everything in it. A pairing is written as the list of its pairs;
reading it puts the pairs together again, so its indexes are made anew, and a list that is no
pairing is refused. -/

namespace GiftExchange

open Decoder Decoder.Shape

def Id.toJson (id : Id) : Json := .string id.toText

/-- A set of identifiers is written in ascending order. -/
def idSetToJson (s : IdSet) : Json := .array (s.toList.map Id.toJson)

def Participant.toJson (p : Participant) : Json :=
  .object [
    ("id", p.id.toJson),
    ("name", .string p.name),
    ("nickname", .string p.nickname),
    ("email_address", .string p.email),
    ("conflicts", idSetToJson p.conflicts),
    ("template_overrides", p.overrides.toJson)]

def Participant.shape : Shape Participant :=
  ((((((Shape.pure Participant.mk).and
    (required "id" Decoder.id)).and
    (required "name" string)).and
    (required "nickname" string)).and
    (required "email_address" string)).and
    (withDefault "conflicts" idSet ∅)).and
    (withDefault "template_overrides" TemplateOverrides.decode .none)

def Participant.decode : Decoder Participant := shape.decode false

def Organizer.toJson (o : Organizer) : Json :=
  .object [
    ("name", .string o.name),
    ("email_address", .ofOption .string o.email),
    ("phone_number", .ofOption .string o.phone)]

def Organizer.shape : Shape Organizer :=
  (((Shape.pure Organizer.mk).and
    (required "name" string)).and
    (nullable "email_address" string)).and
    (nullable "phone_number" string)

def Organizer.decode : Decoder Organizer := shape.decode false

def Pair.toJson (p : Pair) : Json :=
  .object [("giver", p.giver.toJson), ("receiver", p.receiver.toJson)]

/-- The fields of a pair, not yet known to be two people. -/
def Pair.shape : Shape (Id × Id) :=
  ((Shape.pure Prod.mk).and (required "giver" Decoder.id)).and (required "receiver" Decoder.id)

/-- Reads a pair; nobody gives to himself. -/
def Pair.decode : Decoder Pair := fun t =>
  match shape.decode false t with
  | .error e => .error e
  | .ok (giver, receiver) => (Pair.of giver receiver).mapError .pairing

def Pairing.toJson (s : Pairing) : Json := .array (s.pairs.map Pair.toJson)

/-- Reads a pairing: the whole list first, then its pairs are put together in order. -/
def Pairing.decode : Decoder Pairing := fun t =>
  match list Pair.decode t with
  | .error e => .error e
  | .ok pairs => (Pairing.ofList pairs).mapError .pairing

def Stage.toJson (s : Stage) : Json := .string s.name

def Stage.decode : Decoder Stage :=
  variant (Stage.all.map fun s => (s.name, s))

def Exchange.toJson (e : Exchange) : Json :=
  .object [
    ("id", e.id.toJson),
    ("name", .string e.name),
    ("date_and_time", .string e.dateAndTime),
    ("theme", .string e.theme),
    ("cost", .string e.cost),
    ("extra_info", .ofOption .string e.extraInfo),
    ("organizer", e.organizer.toJson),
    ("template_overrides", e.overrides.toJson),
    ("participants", .array (e.participants.map Participant.toJson)),
    ("assignments", .ofOption Pairing.toJson e.assignments),
    ("state", e.stage.toJson)]

def Exchange.shape : Shape Exchange :=
  (((((((((((Shape.pure Exchange.mk).and
    (required "id" Decoder.id)).and
    (required "name" string)).and
    (required "date_and_time" string)).and
    (required "theme" string)).and
    (required "cost" string)).and
    (withDefault "extra_info" (optional string) none)).and
    (required "organizer" Organizer.decode)).and
    (withDefault "template_overrides" TemplateOverrides.decode .none)).and
    (required "participants" (list Participant.decode))).and
    (withDefault "assignments" (optional Pairing.decode) none)).and
    (required "state" Stage.decode)

def Exchange.decode : Decoder Exchange := shape.decode false

def Exchange.toText (e : Exchange) : String := e.toJson.render

def Exchange.ofText (s : String) : Except Fault Exchange := Exchange.decode.ofText s

end GiftExchange
