import GiftExchange.Document.Template
import GiftExchange.Files.Tree
import GiftExchange.Settings

set_option autoImplicit false

/-! # Settings as documents

Settings are read strictly: a key that is no field is refused. Settings that were read are checked
before anybody gets them. -/

namespace GiftExchange

open Decoder Decoder.Shape

namespace Settings

def toJson (s : Settings) : Json :=
  .object [
    ("sender_name", .string s.senderName),
    ("sender_address", .string s.senderAddress),
    ("template_group", .string s.templateGroup),
    ("default_email_format", s.defaultFormat.toJson),
    ("default_template_name", .string s.defaultTemplateName),
    ("max_attempts", .number s.maxAttempts.toNat)]

def shape : Shape Settings :=
  ((((((Shape.pure Settings.mk).and
    (required "sender_name" string)).and
    (required "sender_address" string)).and
    (required "template_group" string)).and
    (required "default_email_format" MailFormat.decode)).and
    (required "default_template_name" string)).and
    (required "max_attempts" word)

def decode : Decoder Settings := shape.decode true

end Settings

/-- Why there are no settings. -/
inductive SettingsError where
  | unreadable (path reason : String)
  | malformed (fault : Fault)
  | invalid (defect : Settings.Defect)
  deriving DecidableEq

def SettingsError.message : SettingsError → String
  | .unreadable path reason => s!"failed to read config `{path}`: {reason}"
  | .malformed fault => "invalid config document: " ++ fault.message
  | .invalid defect => defect.message

namespace Settings

/-- The settings themselves, if they have no defect. -/
def checked (s : Settings) : Except SettingsError Settings :=
  match s.defect? with
  | some d => .error (.invalid d)
  | none => .ok s

def ofText (text : String) : Except SettingsError Settings :=
  match decode.ofText text with
  | .error fault => .error (.malformed fault)
  | .ok s => s.checked

/-- Reads and checks settings from what reading the file at a path gave: its text, or the reason
why there is none. -/
def ofFile (path : String) (contents : Except String String) : Except SettingsError Settings :=
  match contents with
  | .error reason => .error (.unreadable path reason)
  | .ok text => ofText text

/-- Reads and checks the settings in the file at a path. -/
def ofPath (files : FileTree) (path : String) : Except SettingsError Settings :=
  ofFile path ((files.readText path).mapError FileError.message)

end Settings

end GiftExchange
