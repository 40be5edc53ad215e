import GiftExchange.Proofs.Service

set_option autoImplicit false

/-! # What a failed operation leaves behind

An operation that changes exchanges has several ways to fail: the exchange has problems, the strict
draw finds nothing, or the relaxed one finds nothing either. Each of them comes before anything is
stored or handed over, so a failure leaves everything as it was (`Outcome.AllOrNothing`). The stage
cannot fail the operation behind the mails, because the pairs are stored by then. -/

namespace GiftExchange

variable {σ γ α : Type}

/-- What an operation may do to the exchange `e` with a gateway in `state`: nothing at all when it
fails, and else nothing but store pairs and move the stage. -/
structure Outcome.AllOrNothing (out : Outcome σ γ α) (e : Exchange) (state : γ) : Prop where
  nothing : ∀ err, out.result = .error err →
    out.exchange = e ∧ out.calls = [] ∧ out.gateway = state
  onlyPairs : ∀ answer, out.result = .ok answer →
    out.exchange =
      { e with assignments := out.exchange.assignments, stage := out.exchange.stage }

namespace Service

variable {e : Exchange} {state : γ}

theorem allOrNothing_of_error (svc : Service σ) (err : ServiceError) (events : List Event) :
    (⟨.error err, e, svc, state, [], events⟩ : Outcome σ γ α).AllOrNothing e state := by
  constructor
  · intro _ _
    exact ⟨rfl, rfl, rfl⟩
  · intro answer hok
    cases hok

theorem allOrNothing_of_ok {out : Outcome σ γ α} {answer : α} {set : Option Pairing}
    {stage : Stage} (hok : out.result = .ok answer)
    (hstored : out.exchange = { e with assignments := set, stage := stage }) :
    out.AllOrNothing e state := by
  constructor
  · intro err herror
    rw [hok] at herror
    cases herror
  · intro _ _
    rw [hstored]

section Drawing

variable [RandomSource σ] {fuel : Nat} {svc : Service σ} {gw : Gateway γ} {avoid : Bool}

theorem generate_allOrNothing {out : Outcome σ γ Pairing}
    (h : svc.generate fuel e avoid state = some out) : out.AllOrNothing e state := by
  obtain ⟨-, rfl⟩ | ⟨-, drawn, -, ⟨err, -, rfl⟩ | ⟨set, -, rfl⟩⟩ := generate_cases h
  · exact allOrNothing_of_error _ _ _
  · exact allOrNothing_of_error _ _ _
  · exact allOrNothing_of_ok rfl rfl

theorem send_allOrNothing {out : Outcome σ γ DispatchReport}
    (h : svc.send fuel gw e state = some out) : out.AllOrNothing e state := by
  obtain ⟨-, rfl⟩ | ⟨-, drawn, -, ⟨err, -, rfl⟩ | ⟨found, batch, -, -, rfl⟩⟩ := send_cases h
  · exact allOrNothing_of_error _ _ _
  · exact allOrNothing_of_error _ _ _
  · exact allOrNothing_of_ok rfl rfl

/-- Stored pairs are those that were answered, and they pass the check for the exchange. -/
theorem generate_stores {out : Outcome σ γ Pairing} {set : Pairing}
    (h : svc.generate fuel e avoid state = some out) (hok : out.result = .ok set) :
    out.exchange.assignments = some set ∧ out.exchange.stage = .generated ∧
      set.violation? out.exchange.ids out.exchange.conflicts avoid = none := by
  obtain ⟨-, rfl⟩ | ⟨-, drawn, hdrawn, ⟨err, -, rfl⟩ | ⟨found, hfound, rfl⟩⟩ := generate_cases h
  · cases hok
  · cases hok
  · cases hok
    obtain ⟨hnodup, -, hindexed, -, hkeeps⟩ := Generation.generate_spec hdrawn hfound
    exact ⟨rfl, rfl, (hindexed.violation?_eq_none_iff hnodup).2 hkeeps⟩

/-- **An operation that fails leaves everything as it was.** Whatever the exchange, the source and the
gateway are: when drawing pairs or telling everybody fails, the exchange is the one it was and no
mail was handed over. When it goes through, nothing in the exchange is new but the pairs and the
stage; and drawn pairs are the ones that were answered, the exchange is generated, and they pass the
check that was asked for. -/
theorem failed_operations_change_nothing :
    (∀ (avoid : Bool) (drew : Outcome σ γ Pairing), svc.generate fuel e avoid state = some drew →
      drew.AllOrNothing e state ∧
      ∀ set, drew.result = .ok set →
        drew.exchange.assignments = some set ∧ drew.exchange.stage = .generated ∧
          set.violation? drew.exchange.ids drew.exchange.conflicts avoid = none) ∧
      ∀ (gw : Gateway γ) (told : Outcome σ γ DispatchReport),
        svc.send fuel gw e state = some told → told.AllOrNothing e state :=
  ⟨fun _ _ h => ⟨generate_allOrNothing h, fun _ hok => generate_stores h hok⟩,
    fun _ _ h => send_allOrNothing h⟩

end Drawing

/-- Two people, the first of whom must not give to the second. -/
def quarrel : Exchange :=
  { gathering with participants := (threeFriends.take 2).map (·.addConflict (.ofNat 2)) }

/-- Three people who are drawn, and two who cannot be. -/
theorem failed_operations_change_nothing_for_quarrel :
    (∃ drew set, plainService.generate 30 gathering true 0 = some drew ∧ drew.result = .ok set ∧
      drew.exchange = { gathering with assignments := some set, stage := .generated } ∧
      set.violation? gathering.ids gathering.conflicts true = none) ∧
    ∃ told, plainService.send 30 fullMailbox quarrel 0 = some told ∧
      told.result = .error (.generation (.attemptsExhausted 2 5)) ∧
      told.exchange = quarrel ∧ told.calls = [] ∧ told.gateway = 0 := by
  have hdrew : ((plainService.generate 30 gathering true 0).map fun drew => drew.result.isOk) =
      some true := by
    decide +kernel
  have htold : ((plainService.send 30 fullMailbox quarrel 0).map fun told => told.result) =
      some (.error (.generation (.attemptsExhausted 2 5))) := by
    decide +kernel
  constructor
  · obtain ⟨drew, hrun, hresult⟩ := Option.map_eq_some_iff.1 hdrew
    obtain ⟨hall, hset⟩ := failed_operations_change_nothing.1 true drew hrun
    cases hok : drew.result with
    | error err =>
      rw [hok] at hresult
      cases hresult
    | ok set =>
      obtain ⟨hstored, hstage, hpasses⟩ := hset set hok
      have hexchange := hall.onlyPairs set hok
      rw [hstored, hstage] at hexchange
      rw [hexchange] at hpasses
      exact ⟨drew, set, hrun, hok, hexchange, hpasses⟩
  · obtain ⟨told, hrun, hresult⟩ := Option.map_eq_some_iff.1 htold
    obtain ⟨hexchange, hcalls, hgateway⟩ :=
      (failed_operations_change_nothing.2 fullMailbox told hrun).nothing _ hresult
    exact ⟨told, hrun, hresult, hexchange, hcalls, hgateway⟩

end Service

end GiftExchange
