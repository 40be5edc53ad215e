import GiftExchange.Log.Event
import GiftExchange.Pairing.Violation
import GiftExchange.Random.Shuffle

set_option autoImplicit false

/-! # Drawing who gives to whom

Receivers are shuffled until nobody stands at his own place; that is one attempt, and the pairs it
gives are taken if they break no rule. The number of attempts is bounded; the number of shuffles in
an attempt is not, so the functions here take fuel and answer `none` when it runs out. Each attempt
goes on from the order that the last shuffle left.

The strict draw with its fallback asks first for pairs in which no two people give to each other,
and only when no such pairs are found for pairs without that rule. -/

namespace GiftExchange

/-- Why no pairs were drawn. -/
inductive GenerationError where
  | invalidMaxAttempts (value : UInt32)
  | noParticipants
  | duplicateParticipant (id : Id)
  | attemptsExhausted (participants : Nat) (attempts : UInt32)
  deriving DecidableEq

/-- Who can do something about a failed draw. -/
inductive GenerationError.Kind where
  | configuration
  | constraintUnsatisfiable
  | invalidInput
  deriving DecidableEq

namespace GenerationError

def kind : GenerationError → Kind
  | .invalidMaxAttempts _ => .configuration
  | .noParticipants | .attemptsExhausted .. => .constraintUnsatisfiable
  | .duplicateParticipant _ => .invalidInput

/-- Whether fewer conflicts could help. -/
def isUnsatisfiable (e : GenerationError) : Bool := e.kind = .constraintUnsatisfiable

def message : GenerationError → String
  | .invalidMaxAttempts value =>
    s!"internal error: configured maximum attempts must be at least 1, got {value}"
  | .noParticipants => "cannot generate assignments without participants"
  | .duplicateParticipant id => s!"participant {id} is listed more than once"
  | .attemptsExhausted participants attempts =>
    s!"unable to generate assignments for {participants} participants " ++
      s!"after {attempts} attempts; consider removing some conflicts"

end GenerationError

/-- What the pairs drawn for a group have to keep. -/
structure Rules where
  participants : List Id
  conflicts : Conflicts
  avoidReciprocal : Bool

/-- What a draw leaves behind: its answer, the source advanced, and what was logged. -/
structure Drawn (σ ε α : Type) where
  result : Except ε α
  source : σ
  events : List Event

namespace Generation

variable {σ : Type} [RandomSource σ]

/-- The first identifier that is equal to one before it. -/
def firstRepeated? : List Id → List Id → Option Id
  | _, [] => none
  | seen, id :: rest => if id ∈ seen then some id else firstRepeated? (id :: seen) rest

/-- Whether nobody stands at his own place. -/
def isDerangement (givers receivers : List Id) : Bool :=
  (givers.zip receivers).all fun p => p.1 != p.2

/-- Shuffles the receivers until nobody stands at his own place. -/
def derange (givers : List Id) (drawFuel : Nat) : Nat → List Id → σ → Option (List Id × σ)
  | 0, _, _ => none
  | fuel + 1, receivers, s =>
    (shuffle drawFuel receivers s).bind fun (receivers, s) =>
      if isDerangement givers receivers then some (receivers, s)
      else derange givers drawFuel fuel receivers s

/-- The pairs of givers and receivers at the same places. -/
def pairUp (givers receivers : List Id) : Except PairingError Pairing :=
  Pairing.ofIds (givers.zip receivers)

/-- The pairs of givers and receivers at the same places, if they break no rule. -/
def candidate? (rules : Rules) (receivers : List Id) : Option Pairing :=
  match pairUp rules.participants receivers with
  | .error _ => none
  | .ok s =>
    match s.violation? rules.participants rules.conflicts rules.avoidReciprocal with
    | none => some s
    | some _ => none

/-- Makes up to `left` attempts, the first one having the number `number`: the first pairs that
break no rule, with the number of their attempt. -/
def attempts (fuel : Nat) (rules : Rules) :
    (left number : Nat) → List Id → σ → Option (Option (Pairing × Nat) × σ)
  | 0, _, _, s => some (none, s)
  | left + 1, number, receivers, s =>
    (derange rules.participants fuel fuel receivers s).bind fun (receivers, s) =>
      match candidate? rules receivers with
      | some set => some (some (set, number), s)
      | none => attempts fuel rules left (number + 1) receivers s

/-- What is wrong with a request before anything is drawn, or the answer that needs no draw: fewer
than two people cannot be deranged. -/
def refusal? (participants : List Id) (maxAttempts : UInt32) : Option GenerationError :=
  if maxAttempts < 1 then some (.invalidMaxAttempts maxAttempts)
  else if participants.isEmpty then some .noParticipants
  else
    match firstRepeated? [] participants with
    | some id => some (.duplicateParticipant id)
    | none =>
      if participants.length < 2 then some (.attemptsExhausted participants.length maxAttempts)
      else none

/-- Draws pairs that keep all rules, in at most `maxAttempts` attempts. -/
def generate (fuel : Nat) (rules : Rules) (maxAttempts : UInt32) (s : σ) :
    Option (Drawn σ GenerationError Pairing) :=
  match refusal? rules.participants maxAttempts with
  | some e => some ⟨.error e, s, []⟩
  | none =>
    (attempts fuel rules maxAttempts.toNat 1 rules.participants s).map fun
      | (some (set, number), s) =>
        ⟨.ok set, s,
          [.assignmentsGenerated rules.participants.length number rules.avoidReciprocal]⟩
      | (none, s) => ⟨.error (.attemptsExhausted rules.participants.length maxAttempts), s, []⟩

/-- Pairs, and whether they were asked to avoid people who give to each other. -/
structure Fallback where
  pairing : Pairing
  avoidedReciprocal : Bool

/-- Draws pairs in which no two people give to each other, or else pairs that keep the other rules.
Only a group that found no pairs is drawn for again. -/
def generateWithFallback (fuel : Nat) (participants : List Id) (conflicts : Conflicts)
    (maxAttempts : UInt32) (s : σ) : Option (Drawn σ GenerationError Fallback) :=
  (generate fuel ⟨participants, conflicts, true⟩ maxAttempts s).bind fun strict =>
    match strict.result with
    | .ok pairing => some ⟨.ok ⟨pairing, true⟩, strict.source, strict.events⟩
    | .error e =>
      if e.isUnsatisfiable && !participants.isEmpty then
        let rules : Rules := ⟨participants, conflicts, false⟩
        (generate fuel rules maxAttempts strict.source).map fun relaxed =>
          ⟨relaxed.result.map (⟨·, false⟩), relaxed.source,
            strict.events ++ .assignmentsFallback participants.length :: relaxed.events⟩
      else some ⟨.error e, strict.source, strict.events⟩

end Generation

end GiftExchange
