import GiftExchange.Exchange.Problem
import GiftExchange.Generation
import GiftExchange.Mail.Dispatch

set_option autoImplicit false

/-! # Running an exchange

The operations that an organizer asks for: draw the pairs, draw them and tell everybody, tell some
people again, try everything out on the organizer, and look at one mail. Each checks the exchange
first. Each answers its result together with the exchange, the service, the gateway's state, the
calls made and the events logged; drawing may run out of fuel, and then there is no answer. -/

namespace GiftExchange

/-- Why an operation failed. -/
inductive ServiceError where
  | validation (problems : List Problem)
  | generation (error : GenerationError)
  | noAssignments
  | assignment (error : PairingError)
  | dispatch (error : DispatchError)
  | stage (error : StageError)
  deriving DecidableEq

def ServiceError.message : ServiceError → String
  | .validation problems => Problem.summary problems
  | .generation error => error.message
  | .noAssignments => "exchange has no generated assignments"
  | .assignment error => error.message
  | .dispatch error => error.message
  | .stage error => error.message

/-- Checked settings with the dispatcher made from them, and the source that pairs are drawn
from. -/
structure Service (σ : Type) where
  settings : Settings
  dispatcher : Dispatcher
  source : σ

/-- What an operation leaves behind. -/
structure Outcome (σ γ α : Type) where
  result : Except ServiceError α
  exchange : Exchange
  service : Service σ
  gateway : γ
  calls : List Call
  events : List Event

namespace Service

variable {σ γ : Type}

/-- A service with settings that have no defect. -/
def new (settings : Settings) (source : σ) : Except Settings.Defect (Service σ) :=
  (Dispatcher.ofSettings settings).map fun d => ⟨settings, d, source⟩

/-- The rules that an exchange sets for its pairs. -/
def rules (e : Exchange) (avoidReciprocal : Bool) : Rules :=
  ⟨e.ids, e.conflicts, avoidReciprocal⟩

/-- An operation that fails before it does anything. -/
def refused {α : Type} (svc : Service σ) (e : Exchange) (state : γ) (err : ServiceError) :
    Outcome σ γ α :=
  ⟨.error err, e, svc, state, [], []⟩

variable [RandomSource σ]

/-- Draws pairs and stores them in the exchange. -/
def generate (fuel : Nat) (svc : Service σ) (e : Exchange) (avoidReciprocal : Bool) (state : γ) :
    Option (Outcome σ γ Pairing) :=
  if e.problems ≠ [] then some (refused svc e state (.validation e.problems))
  else
    (Generation.generate fuel (rules e avoidReciprocal) svc.settings.maxAttempts svc.source).map
      fun drawn =>
        let svc := { svc with source := drawn.source }
        match drawn.result with
        | .error err => ⟨.error (.generation err), e, svc, state, [], drawn.events⟩
        | .ok pairing =>
          ⟨.ok pairing, { e.markGenerated with assignments := some pairing }, svc, state, [],
            drawn.events ++ [.exchangeGenerated e.id pairing.size avoidReciprocal]⟩

/-- The exchange after its mails went out: the pairs are stored, and it is sent if everybody was
told. -/
def concluded (e : Exchange) (pairing : Pairing) (report : DispatchReport) :
    Exchange × Option StageError :=
  let generated := { e with assignments := some pairing }.markGenerated
  if report.isComplete then
    match generated.markSent with
    | .ok sent => (sent, none)
    | .error err => (generated, some err)
  else (generated, none)

/-- Draws pairs, without people who give to each other if that is possible, and tells every
giver. -/
def send (fuel : Nat) (svc : Service σ) (gw : Gateway γ) (e : Exchange) (state : γ) :
    Option (Outcome σ γ DispatchReport) :=
  if e.problems ≠ [] then some (refused svc e state (.validation e.problems))
  else
    (Generation.generateWithFallback fuel e.ids e.conflicts svc.settings.maxAttempts
      svc.source).map fun drawn =>
        let svc := { svc with source := drawn.source }
        match drawn.result with
        | .error err => ⟨.error (.generation err), e, svc, state, [], drawn.events⟩
        | .ok found =>
          let batch := svc.dispatcher.dispatchAll gw e found.pairing false state
          let events := drawn.events ++ batch.events
          match concluded e found.pairing batch.report with
          | (after, some err) =>
            ⟨.error (.stage err), after, svc, batch.gateway, batch.calls, events⟩
          | (after, none) =>
            ⟨.ok batch.report, after, svc, batch.gateway, batch.calls,
              events ++ [.exchangeNotified e.id found.avoidedReciprocal batch.report.sent
                batch.report.failures.length]⟩

omit [RandomSource σ] in
/-- Tells the listed givers again; those without a stored pair are passed over. -/
def resend (svc : Service σ) (gw : Gateway γ) (e : Exchange) (givers : List Id) (state : γ) :
    Outcome σ γ DispatchReport :=
  if e.problems ≠ [] then refused svc e state (.validation e.problems)
  else
    match e.assignments with
    | none => refused svc e state .noAssignments
    | some pairing =>
      let batch := svc.dispatcher.dispatchAll gw e (pairing.restrict givers) false state
      ⟨.ok batch.report, e, svc, batch.gateway, batch.calls, batch.events⟩

/-- Draws pairs that are thrown away, and sends all their mails to the organizer. -/
def organizerPreview (fuel : Nat) (svc : Service σ) (gw : Gateway γ) (e : Exchange)
    (avoidReciprocal : Bool) (state : γ) : Option (Outcome σ γ DispatchReport) :=
  if e.problems ≠ [] then some (refused svc e state (.validation e.problems))
  else
    (Generation.generate fuel (rules e avoidReciprocal) svc.settings.maxAttempts svc.source).map
      fun drawn =>
        let svc := { svc with source := drawn.source }
        match drawn.result with
        | .error err => ⟨.error (.generation err), e, svc, state, [], drawn.events⟩
        | .ok pairing =>
          let batch := svc.dispatcher.dispatchAll gw e pairing true state
          ⟨.ok batch.report, e, svc, batch.gateway, batch.calls, drawn.events ++ batch.events⟩

omit [RandomSource σ] in
/-- Renders the mail that the first participant would get about the second. -/
def preview (svc : Service σ) (gw : Gateway γ) (e : Exchange) (state : γ) :
    Outcome σ γ RenderedMail :=
  if e.problems ≠ [] then refused svc e state (.validation e.problems)
  else
    match e.participants with
    | first :: second :: _ =>
      match Pair.of first.id second.id with
      | .error err => refused svc e state (.assignment err)
      | .ok pair =>
        let posted := svc.dispatcher.renderOne gw e state pair
        ⟨posted.result.mapError .dispatch, e, svc, posted.gateway, posted.calls,
          posted.events⟩
    -- never reached: an exchange without problems has two participants at least
    | few => refused svc e state (.validation [.tooFewParticipants minParticipants few.length])

end Service

end GiftExchange
