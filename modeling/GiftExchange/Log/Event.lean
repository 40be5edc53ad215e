import GiftExchange.Id

set_option autoImplicit false

/-! # What is logged

Events hold identifiers, counts and flags only, never a name or an address. -/

namespace GiftExchange

/-- How important a log line is, the most verbose level first. -/
inductive Level where
  | trace
  | debug
  | info
  | warn
  | error
  deriving DecidableEq

/-- The place of a level, the most verbose being 0. -/
def Level.rank : Level → Nat
  | .trace => 0
  | .debug => 1
  | .info => 2
  | .warn => 3
  | .error => 4

/-- The name of a level, as it is asked for. -/
def Level.name : Level → String
  | .trace => "trace"
  | .debug => "debug"
  | .info => "info"
  | .warn => "warn"
  | .error => "error"

/-- The name of a level, as it stands in a log line. -/
def Level.label : Level → String
  | .trace => "TRACE"
  | .debug => "DEBUG"
  | .info => "INFO"
  | .warn => "WARN"
  | .error => "ERROR"

/-- Something that happened while pairs were drawn or mails were sent. -/
inductive Event where
  | assignmentsGenerated (participants attempts : Nat) (avoidReciprocal : Bool)
  | assignmentsFallback (participants : Nat)
  | exchangeGenerated (exchange : Id) (participants : Nat) (avoidReciprocal : Bool)
  | notificationSent (exchange giver : Id) (organizerOnly : Bool)
  | notificationBatch (exchange : Id) (sent failed : Nat)
  | exchangeNotified (exchange : Id) (avoidedReciprocal : Bool) (sent failed : Nat)
  deriving DecidableEq

def Event.level : Event → Level
  | .assignmentsGenerated .. | .assignmentsFallback .. => .debug
  | _ => .info

def Event.message : Event → String
  | .assignmentsGenerated participants attempts avoidReciprocal =>
    "event=assignments_generated module=generator status=ok " ++
      s!"participants={participants} attempts={attempts} avoid_reciprocal={avoidReciprocal}"
  | .assignmentsFallback participants =>
    s!"event=assignments_fallback module=generator status=retry participants={participants}"
  | .exchangeGenerated exchange participants avoidReciprocal =>
    "event=exchange_generated module=exchange_service status=ok " ++
      s!"exchange={exchange} participants={participants} avoid_reciprocal={avoidReciprocal}"
  | .notificationSent exchange giver organizerOnly =>
    "event=notification_sent module=dispatch status=ok " ++
      s!"exchange={exchange} giver={giver} organizer_only={organizerOnly}"
  | .notificationBatch exchange sent failed =>
    s!"event=notification_batch module=dispatch exchange={exchange} sent={sent} failed={failed}"
  | .exchangeNotified exchange avoidedReciprocal sent failed =>
    s!"event=exchange_notified module=exchange_service exchange={exchange} " ++
      s!"avoided_reciprocal={avoidedReciprocal} sent={sent} failed={failed}"

end GiftExchange
