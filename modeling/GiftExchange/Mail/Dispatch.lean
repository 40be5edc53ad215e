import GiftExchange.Log.Event
import GiftExchange.Mail.Gateway
import GiftExchange.Settings
import GiftExchange.Text.Wrap

set_option autoImplicit false

/-! # Telling the givers

Each pair becomes one mail request: to the giver, or in organizer-only mode to the organizer, with
the organizer as the one to reply to. The exchange that a mail shows has its drawn pairs taken out,
and its free text wrapped if the mail is plain text. A batch goes through all pairs, whatever
happens to any of them, and reports what failed. -/

namespace GiftExchange

/-- Why one giver was not told. That the exchange, the giver and the receiver cannot be written as
documents is not among the reasons: each of them has a document (`Exchange.toJson`,
`Participant.toJson`), whatever its fields are. -/
inductive DispatchError where
  | unknownParticipant (id : Id)
  | organizerEmailMissing
  | gateway (giver : Id) (error : GatewayError)
  deriving DecidableEq

def DispatchError.message : DispatchError → String
  | .unknownParticipant id => s!"assignment references unknown participant {id}"
  | .organizerEmailMissing => "organizer-only delivery requires an organizer email address"
  | .gateway giver error => s!"notification for participant {giver} failed: {error.message}"

/-- A giver who was not told, and why. -/
structure DispatchFailure where
  giver : Id
  error : DispatchError
  deriving DecidableEq

structure DispatchReport where
  sent : Nat
  failures : List DispatchFailure
  deriving DecidableEq

/-- The number of pairs that were tried. -/
def DispatchReport.attempted (r : DispatchReport) : Nat := r.sent + r.failures.length

/-- Whether everybody was told. -/
def DispatchReport.isComplete (r : DispatchReport) : Bool := r.failures.isEmpty

/-- What handing one mail to the gateway leaves behind. -/
structure Posted (γ α : Type) where
  result : Except DispatchError α
  gateway : γ
  calls : List Call
  events : List Event

/-- What a batch leaves behind. -/
structure Batch (γ : Type) where
  report : DispatchReport
  gateway : γ
  calls : List Call
  events : List Event

/-- What requests are built with besides the exchange. -/
structure Dispatcher where
  defaults : MailTemplate
  senderAddress : String

namespace Dispatcher

/-- The dispatcher of settings without defect. -/
def ofSettings (s : Settings) : Except Settings.Defect Dispatcher :=
  match s.defect? with
  | some d => .error d
  | none => .ok ⟨s.mailTemplate, s.senderAddress⟩

/-- The template of a mail about a receiver. -/
def template (d : Dispatcher) (e : Exchange) (receiver : Participant) : MailTemplate :=
  d.defaults.resolve e.overrides receiver.overrides

/-- The exchange as a mail shows it: without drawn pairs, and with its free text wrapped for plain
mails. -/
def shown (format : MailFormat) (e : Exchange) : Exchange :=
  { e with
    assignments := none
    extraInfo := e.extraInfo.map fun text =>
      if format = .plaintext && !Text.isBlank text then
        Text.wrap text Text.mailWidth Text.mailEnding
      else text }

/-- A participant, or the error that there is none. -/
def lookUp (e : Exchange) (id : Id) : Except DispatchError Participant :=
  match e.participant? id with
  | some p => .ok p
  | none => .error (.unknownParticipant id)

/-- Where a mail to a giver goes. -/
def recipientAddress (e : Exchange) (giver : Participant) (organizerOnly : Bool) :
    Except DispatchError String :=
  if organizerOnly then
    match e.organizer.contactEmail with
    | some address => .ok address
    | none => .error .organizerEmailMissing
  else .ok giver.email

/-- The request for one pair. A giver who does not take part is noticed first, then such a
receiver, then a missing address. -/
def request (d : Dispatcher) (e : Exchange) (pair : Pair) (organizerOnly : Bool) :
    Except DispatchError MailRequest := do
  let giver ← lookUp e pair.giver
  let receiver ← lookUp e pair.receiver
  let address ← recipientAddress e giver organizerOnly
  let template := d.template e receiver
  return {
    templateGroup := template.group
    templateName := template.name
    format := template.format
    exchange := shown template.format e
    giver := giver
    receiver := receiver
    sender := ⟨some template.senderName, d.senderAddress⟩
    replyTo := e.organizer.contactEmail.map fun a => ⟨some e.organizer.name, a⟩
    recipient := ⟨some giver.name, address⟩ }

variable {γ : Type}

/-- Sends the mail for one pair. -/
def dispatchOne (d : Dispatcher) (gw : Gateway γ) (e : Exchange) (organizerOnly : Bool)
    (state : γ) (pair : Pair) : Posted γ Unit :=
  match d.request e pair organizerOnly with
  | .error err => ⟨.error err, state, [], []⟩
  | .ok r =>
    match gw.send state r with
    | (.error err, state) => ⟨.error (.gateway pair.giver err), state, [.send r (.error err)], []⟩
    | (.ok (), state) =>
      ⟨.ok (), state, [.send r (.ok ())], [.notificationSent e.id pair.giver organizerOnly]⟩

/-- Sends the mails for the pairs in order. -/
def dispatchPairs (d : Dispatcher) (gw : Gateway γ) (e : Exchange) (organizerOnly : Bool) :
    γ → List Pair → Batch γ
  | state, [] => ⟨⟨0, []⟩, state, [], []⟩
  | state, pair :: rest =>
    let one := d.dispatchOne gw e organizerOnly state pair
    let others := d.dispatchPairs gw e organizerOnly one.gateway rest
    let report : DispatchReport :=
      match one.result with
      | .ok () => ⟨others.report.sent + 1, others.report.failures⟩
      | .error err => ⟨others.report.sent, ⟨pair.giver, err⟩ :: others.report.failures⟩
    ⟨report, others.gateway, one.calls ++ others.calls, one.events ++ others.events⟩

/-- Sends the mails for all pairs of a pairing, and logs how many were sent. -/
def dispatchAll (d : Dispatcher) (gw : Gateway γ) (e : Exchange) (pairing : Pairing)
    (organizerOnly : Bool) (state : γ) : Batch γ :=
  let batch := d.dispatchPairs gw e organizerOnly state pairing.pairs
  { batch with
    events := batch.events ++
      [.notificationBatch e.id batch.report.sent batch.report.failures.length] }

/-- Renders the mail for one pair without sending it. -/
def renderOne (d : Dispatcher) (gw : Gateway γ) (e : Exchange) (state : γ) (pair : Pair) :
    Posted γ RenderedMail :=
  match d.request e pair false with
  | .error err => ⟨.error err, state, [], []⟩
  | .ok r =>
    match gw.render state r with
    | (.error err, state) => ⟨.error (.gateway pair.giver err), state, [.render r (.error err)], []⟩
    | (.ok mail, state) => ⟨.ok mail, state, [.render r (.ok mail)], []⟩

end Dispatcher

end GiftExchange
