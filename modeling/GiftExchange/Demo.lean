import GiftExchange.Document.Mail
import GiftExchange.Exchange.Group
import GiftExchange.Log.Journal
import GiftExchange.Random.Seeded
import GiftExchange.Service

set_option autoImplicit false

/-! # A demonstration

One round among five people with a fixed seed: the mails are listed instead of sent. The
demonstration goes on without a log if logging cannot be set up. -/

namespace GiftExchange.Demo

/-- What the demonstration prints, whether it succeeded, and what it logged. -/
structure Transcript where
  out : List String
  err : List String
  succeeded : Bool
  events : List Event

def settings : Settings where
  senderName := "Secret Santa"
  senderAddress := "santa@example.com"
  templateGroup := "exchange"
  defaultFormat := .plaintext
  defaultTemplateName := "notification"
  maxAttempts := 100

def seed : UInt64 := 2024

def names : List String := ["Ann", "Ben", "Cat", "Dan", "Eve"]

/-- One of the five people. -/
def person (id : Id) (name : String) : Participant :=
  let lower := name.toLower
  .new id name lower (lower ++ "@example.com")

/-- Lets people take part one after the other; the first whose identifier is taken is a problem. -/
def addAll : Exchange → List Participant → Except (List Problem) Exchange
  | e, [] => .ok e
  | e, p :: rest =>
    match e.add p with
    | (.error problems, _) => .error problems
    | (.ok (), e) => addAll e rest

/-- The exchange of the five people with the identifiers `ids`; the first must not give to the
second. -/
def exchange (id : Id) (ids : List Id) : Except (List Problem) Exchange :=
  let empty := Exchange.new id "Demo exchange" ⟨"Olive", some "olive@example.com", none⟩
  let described := { empty with
    dateAndTime := "December 24"
    theme := "Anything goes"
    cost := "$20" }
  let people := (ids.zip names).map fun p => person p.1 p.2
  (addAll described people).map fun e =>
    match people with
    | first :: second :: _ =>
      (e.update first.id (·.addConflict second.id)).2.markStarted
    | _ => e.markStarted

/-- The line for one mail. -/
def mailLine (r : MailRequest) : String :=
  s!"to={r.recipient.address} template={r.templateGroup}/{r.templateName} " ++
    s!"format={r.format.name} receiver=" ++ (Json.string r.receiver.name).render

/-- The gateway that lists the mails it is handed. -/
def gateway : Gateway (List String) where
  send shown r := (.ok (), shown ++ [mailLine r])
  render shown r := (.ok ⟨r.templateName, "", none⟩, shown)

/-- The lines before the round. -/
def opening (directory : String) (logging : Except JournalError Unit) : Transcript :=
  let greeting := [s!"santa_core ping={About.ping}", s!"santa_core version={About.version}"]
  match logging with
  | .ok () => ⟨greeting ++ [s!"logs={directory}"], [], true, []⟩
  | .error e => ⟨greeting, [s!"logging disabled: {e.message}"], true, []⟩

/-- A transcript that ends with a failure. -/
def Transcript.failed (t : Transcript) (line : String) : Transcript :=
  { t with err := t.err ++ [line], succeeded := false }

/-- The demonstration: the log directory as it was given and what came of setting up logging, the
identifier of the exchange and those of the five people. -/
def run (fuel : Nat) (directory : String) (logging : Except JournalError Unit) (id : Id)
    (ids : List Id) : Option Transcript :=
  let start := opening directory logging
  match Service.new settings (Seeded.ofSeed seed) with
  | .error d => some (start.failed s!"config error: {d.message}")
  | .ok svc =>
    match exchange id ids with
    | .error problems => some (start.failed s!"demo exchange invalid: {Problem.summary problems}")
    | .ok e =>
      (svc.send fuel gateway e []).map fun outcome =>
        let told := { start with
          out := start.out ++ outcome.gateway
          events := outcome.events }
        match outcome.result with
        | .error err => told.failed s!"demo failed: {err.message}"
        | .ok report =>
          { told with out := told.out ++
              [s!"state={outcome.exchange.stage.name} sent={report.sent} " ++
                s!"failed={report.failures.length}"] }

end GiftExchange.Demo
