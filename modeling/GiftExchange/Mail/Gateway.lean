import GiftExchange.Exchange.Basic

set_option autoImplicit false

/-! # Mails and the gateway that takes them

A request holds all that a mail is rendered from. The gateway renders and sends; it is given as its
answers to requests, which may depend on everything it was handed before: that is its state. -/

namespace GiftExchange

/-- An address with an optional name. -/
structure Mailbox where
  name : Option String
  address : String
  deriving DecidableEq

/-- What one mail is made from: the template, the exchange as the mail may show it, the pair, and
the three addresses. -/
structure MailRequest where
  templateGroup : String
  templateName : String
  format : MailFormat
  exchange : Exchange
  giver : Participant
  receiver : Participant
  sender : Mailbox
  replyTo : Option Mailbox
  recipient : Mailbox

/-- A mail that was rendered and not sent. -/
structure RenderedMail where
  subject : String
  plaintextBody : String
  htmlBody : Option String
  deriving DecidableEq

/-- Why the gateway took no mail. -/
structure GatewayError where
  reason : String
  deriving DecidableEq

def GatewayError.message (e : GatewayError) : String :=
  s!"email gateway failure: {e.reason}"

/-- A gateway with states `γ`: the answer to each request, and the state behind it. -/
structure Gateway (γ : Type) where
  /-- Renders and sends a mail. -/
  send : γ → MailRequest → Except GatewayError Unit × γ
  /-- Renders a mail without sending it. -/
  render : γ → MailRequest → Except GatewayError RenderedMail × γ

/-- A request that was handed to the gateway, with the answer. -/
inductive Call where
  | send (request : MailRequest) (answer : Except GatewayError Unit)
  | render (request : MailRequest) (answer : Except GatewayError RenderedMail)

def Call.request : Call → MailRequest
  | .send r _ => r
  | .render r _ => r

end GiftExchange
