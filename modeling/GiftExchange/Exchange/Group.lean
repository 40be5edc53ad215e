import GiftExchange.Exchange.Problem

set_option autoImplicit false

/-! # Who takes part

People are added to an exchange, changed, replaced and removed. Each of these edits looks for an
identifier first, and gives its answer together with the exchange behind it. -/

namespace GiftExchange

namespace Exchange

/-- Lets somebody take part whose identifier is not taken. -/
def add (e : Exchange) (p : Participant) : Except (List Problem) Unit × Exchange :=
  if e.isMember p.id then (.error [.duplicateParticipant p.id], e)
  else (.ok (), { e with participants := e.participants ++ [p] })

/-- Changes the first participant with an identifier. -/
def updateFirst (id : Id) (f : Participant → Participant) : List Participant → List Participant
  | [] => []
  | p :: rest => if p.id = id then f p :: rest else p :: updateFirst id f rest

/-- Changes the participant with an identifier; the answer is whether there is one. -/
def update (e : Exchange) (id : Id) (f : Participant → Participant) : Bool × Exchange :=
  if e.isMember id then (true, { e with participants := updateFirst id f e.participants })
  else (false, e)

/-- Puts a participant in the place of the one with the same identifier. -/
def replace (e : Exchange) (p : Participant) : Bool × Exchange :=
  e.update p.id fun _ => p

/-- Takes the participant with an identifier out, together with all conflicts with this one; the
answer is who that was. -/
def remove (e : Exchange) (id : Id) : Option Participant × Exchange :=
  match e.participant? id with
  | none => (none, e)
  | some removed =>
    (some removed, { e with participants :=
      (e.participants.eraseP (·.id == id)).map (·.removeConflict id) })

end Exchange

end GiftExchange
