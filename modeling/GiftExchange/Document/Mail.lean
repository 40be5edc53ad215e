import GiftExchange.Document.Exchange
import GiftExchange.Mail.Gateway

set_option autoImplicit false

/-! # Mails as documents

The context of a mail is what its template is filled with: the exchange as the mail shows it, and
the pair with both participants in full. -/

namespace GiftExchange

open Decoder Decoder.Shape

def Mailbox.toJson (m : Mailbox) : Json :=
  .object [("name", .ofOption .string m.name), ("address", .string m.address)]

def Mailbox.shape : Shape Mailbox :=
  ((Shape.pure Mailbox.mk).and (nullable "name" string)).and (required "address" string)

def Mailbox.decode : Decoder Mailbox := shape.decode false

def RenderedMail.toJson (m : RenderedMail) : Json :=
  .object [
    ("subject", .string m.subject),
    ("plaintext_body", .string m.plaintextBody),
    ("html_body", .ofOption .string m.htmlBody)]

def RenderedMail.shape : Shape RenderedMail :=
  (((Shape.pure RenderedMail.mk).and
    (required "subject" string)).and
    (required "plaintext_body" string)).and
    (nullable "html_body" string)

def RenderedMail.decode : Decoder RenderedMail := shape.decode false

/-- The key of the exchange in a context. -/
def MailRequest.exchangeKey : String := "exchange"

/-- The key of the pair in a context. -/
def MailRequest.assignmentKey : String := "assignment"

def MailRequest.context (r : MailRequest) : Json :=
  .object [
    (exchangeKey, r.exchange.toJson),
    (assignmentKey, .object [("giver", r.giver.toJson), ("receiver", r.receiver.toJson)])]

end GiftExchange
