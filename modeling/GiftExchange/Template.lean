set_option autoImplicit false

/-! # Mail templates and their overrides

A mail is rendered from a template of a template group, in a format and under a sender's name.
Each of the four is set in the settings and may be overridden by the exchange and, the group
excepted, by the participant who receives the gift: the first level that sets a value wins. -/

namespace GiftExchange

/-- The format of a mail's body. -/
inductive MailFormat where
  | plaintext
  | multipart
  deriving DecidableEq

def MailFormat.name : MailFormat → String
  | .plaintext => "plaintext"
  | .multipart => "multipart"

/-- Every format, in the order in which they are listed to the user. -/
def MailFormat.all : List MailFormat := [.plaintext, .multipart]

/-- What one level of the cascade overrides; a field that is not set defers to the next level. -/
structure TemplateOverrides where
  senderName : Option String
  format : Option MailFormat
  templateName : Option String
  templateGroup : Option String
  deriving DecidableEq

/-- The overrides that set nothing. -/
def TemplateOverrides.none : TemplateOverrides := ⟨.none, .none, .none, .none⟩

instance : Inhabited TemplateOverrides := ⟨.none⟩

/-- Whether every field defers to the next level. -/
def TemplateOverrides.isEmpty (o : TemplateOverrides) : Bool :=
  o.senderName.isNone && o.format.isNone && o.templateName.isNone && o.templateGroup.isNone

/-- What one mail is rendered with. -/
structure MailTemplate where
  senderName : String
  format : MailFormat
  group : String
  name : String
  deriving DecidableEq

/-- The first value that a level sets, or else the fallback. -/
def firstPresent {α : Type} (levels : List (Option α)) (fallback : α) : α :=
  (levels.findSome? id).getD fallback

/-- The template of a mail: the receiver's overrides come first, then the exchange's, then the
defaults; the group passes the receiver by. -/
def MailTemplate.resolve (defaults : MailTemplate) (exchange receiver : TemplateOverrides) :
    MailTemplate where
  senderName := firstPresent [receiver.senderName, exchange.senderName] defaults.senderName
  format := firstPresent [receiver.format, exchange.format] defaults.format
  group := firstPresent [exchange.templateGroup] defaults.group
  name := firstPresent [receiver.templateName, exchange.templateName] defaults.name

end GiftExchange
