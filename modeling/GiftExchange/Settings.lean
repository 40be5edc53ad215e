import GiftExchange.Address
import GiftExchange.Template

set_option autoImplicit false

/-! # Settings

The settings hold what every mail falls back to and how often a draw is attempted. They are checked
once, before anything is done with them. -/

namespace GiftExchange

/-- The defaults of mails, and the bound on the attempts of a draw. -/
structure Settings where
  senderName : String
  senderAddress : String
  templateGroup : String
  defaultFormat : MailFormat
  defaultTemplateName : String
  maxAttempts : UInt32
  deriving DecidableEq

namespace Settings

/-- What can be wrong with settings. -/
inductive Defect where
  | missingValue (field : String)
  | malformedSenderAddress (value : String)
  | invalidMaxAttempts (value : UInt32)
  deriving DecidableEq

def Defect.message : Defect → String
  | .missingValue field => s!"config value `{field}` is required"
  | .malformedSenderAddress value => s!"config sender_address is malformed: `{value}`"
  | .invalidMaxAttempts value => s!"config max_attempts must be at least 1, got {value}"

/-- The first thing that is wrong with settings: a blank text, then the sender's address, then the
number of attempts. -/
def defect? (s : Settings) : Option Defect :=
  if Text.isBlank s.senderName then some (.missingValue "sender_name")
  else if Text.isBlank s.senderAddress then some (.missingValue "sender_address")
  else if Text.isBlank s.templateGroup then some (.missingValue "template_group")
  else if Text.isBlank s.defaultTemplateName then some (.missingValue "default_template_name")
  else if !Address.isWellFormed s.senderAddress then
    some (.malformedSenderAddress s.senderAddress)
  else if s.maxAttempts < 1 then some (.invalidMaxAttempts s.maxAttempts)
  else none

/-- The last level of the cascade of overrides. -/
def mailTemplate (s : Settings) : MailTemplate where
  senderName := s.senderName
  format := s.defaultFormat
  group := s.templateGroup
  name := s.defaultTemplateName

end Settings

end GiftExchange
