import GiftExchange.Json.Decoder
import GiftExchange.Json.Value
import GiftExchange.Template

set_option autoImplicit false

/-! # Templates as documents

Every record is written as an object with its fields in the order of their declaration, a value
that is not set as null. -/

namespace GiftExchange

open Decoder Decoder.Shape

def MailFormat.toJson (f : MailFormat) : Json := .string f.name

def MailFormat.decode : Decoder MailFormat :=
  variant (MailFormat.all.map fun f => (f.name, f))

def TemplateOverrides.toJson (o : TemplateOverrides) : Json :=
  .object [
    ("sender_name", .ofOption .string o.senderName),
    ("email_format", .ofOption MailFormat.toJson o.format),
    ("template_name", .ofOption .string o.templateName),
    ("template_group", .ofOption .string o.templateGroup)]

def TemplateOverrides.shape : Shape TemplateOverrides :=
  ((((Shape.pure TemplateOverrides.mk).and
    (nullable "sender_name" string)).and
    (nullable "email_format" MailFormat.decode)).and
    (nullable "template_name" string)).and
    (nullable "template_group" string)

def TemplateOverrides.decode : Decoder TemplateOverrides := shape.decode false

def MailTemplate.toJson (t : MailTemplate) : Json :=
  .object [
    ("sender_name", .string t.senderName),
    ("email_format", t.format.toJson),
    ("template_group", .string t.group),
    ("template_name", .string t.name)]

def MailTemplate.shape : Shape MailTemplate :=
  ((((Shape.pure MailTemplate.mk).and
    (required "sender_name" string)).and
    (required "email_format" MailFormat.decode)).and
    (required "template_group" string)).and
    (required "template_name" string)

def MailTemplate.decode : Decoder MailTemplate := shape.decode false

end GiftExchange
