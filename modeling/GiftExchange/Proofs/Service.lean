import GiftExchange.Proofs.Dispatch
import GiftExchange.Proofs.Generation
import GiftExchange.Random.Seeded
import GiftExchange.Service
import Mathlib.Data.Option.Basic

set_option autoImplicit false

/-! # What the operations of a service leave behind

Each operation is refused, fails to draw, or goes through; `generate_cases` and `send_cases` say
what it leaves behind in each case, and the other operations leave the exchange alone. Telling
everybody is a draw, a batch over the drawn pairs and the storing of these pairs, so what it did is
what the draw and the batch say: the givers of the pairs are the participants, in order, and every
pair becomes one call. -/

namespace GiftExchange

namespace Service

variable {σ γ : Type}

/-! ## Outcomes -/

/-- An exchange whose mails went out holds the pairs, and it can always be marked as sent. -/
theorem concluded_eq (e : Exchange) (pairing : Pairing) (report : DispatchReport) :
    concluded e pairing report =
      ({ e with
        assignments := some pairing
        stage := if report.isComplete then .sent else .generated }, none) := by
  unfold concluded
  by_cases hcomplete : report.isComplete = true
  · rw [if_pos hcomplete, if_pos hcomplete]
    rfl
  · rw [if_neg hcomplete, if_neg hcomplete]
    rfl

/-! ## Drawn pairs -/

/-- The pairs are what a draw for the exchange answers, for some source, some number of attempts, and
with or without people who give to each other. -/
def DrawnFor (e : Exchange) (set : Pairing) : Prop :=
  ∃ (τ : Type) (_ : RandomSource τ) (fuel : Nat) (avoid : Bool) (maxAttempts : UInt32) (source : τ)
    (drawn : Drawn τ GenerationError Pairing),
    Generation.generate fuel (rules e avoid) maxAttempts source = some drawn ∧
      drawn.result = .ok set

/-- Drawn pairs have the participants as givers, in order, and keep what everybody has to keep. -/
theorem DrawnFor.spec {e : Exchange} {set : Pairing} (h : DrawnFor e set) :
    e.ids.Nodup ∧ set.Indexed ∧ set.pairs.map Pair.giver = e.ids ∧
      set.Keeps e.ids e.conflicts false := by
  obtain ⟨τ, _, fuel, avoid, maxAttempts, source, drawn, hdrawn, hset⟩ := h
  obtain ⟨hnodup, -, hindexed, hgivers, hkeeps⟩ := Generation.generate_spec hdrawn hset
  exact ⟨hnodup, hindexed, hgivers, hkeeps.relax⟩

/-- Whichever of its two draws answered, pairs of a draw with its fallback were drawn. -/
theorem drawnFor_of_fallback [RandomSource σ] {fuel : Nat} {e : Exchange} {maxAttempts : UInt32}
    {source : σ} {drawn : Drawn σ GenerationError Generation.Fallback}
    {found : Generation.Fallback}
    (h : Generation.generateWithFallback fuel e.ids e.conflicts maxAttempts source = some drawn)
    (hok : drawn.result = .ok found) : DrawnFor e found.pairing := by
  obtain ⟨start, once, honce, hset⟩ := Generation.generateWithFallback_ok h hok
  exact ⟨σ, _, fuel, found.avoidedReciprocal, maxAttempts, start, once, honce, hset⟩

/-! ## Operations -/

section Drawing

variable [RandomSource σ] {fuel : Nat} {svc : Service σ} {gw : Gateway γ} {e : Exchange}
  {state : γ}

/-- All that drawing pairs can come to. -/
theorem generate_cases {avoid : Bool} {out : Outcome σ γ Pairing}
    (h : svc.generate fuel e avoid state = some out) :
    (e.problems ≠ [] ∧ out = refused svc e state (.validation e.problems)) ∨
    (e.problems = [] ∧ ∃ drawn : Drawn σ GenerationError Pairing,
      Generation.generate fuel (rules e avoid) svc.settings.maxAttempts svc.source = some drawn ∧
      ((∃ err, drawn.result = .error err ∧
        out = ⟨.error (.generation err), e, { svc with source := drawn.source }, state, [],
          drawn.events⟩) ∨
      (∃ set, drawn.result = .ok set ∧
        out = ⟨.ok set, { e.markGenerated with assignments := some set },
          { svc with source := drawn.source }, state, [],
          drawn.events ++ [.exchangeGenerated e.id set.size avoid]⟩))) := by
  rw [generate] at h
  by_cases hproblems : e.problems = []
  · rw [if_neg (not_not.2 hproblems)] at h
    obtain ⟨drawn, hdrawn, rfl⟩ := Option.map_eq_some_iff.1 h
    refine .inr ⟨hproblems, drawn, hdrawn, ?_⟩
    cases hresult : drawn.result with
    | error err => exact .inl ⟨err, rfl, by simp⟩
    | ok set => exact .inr ⟨set, rfl, by simp⟩
  · rw [if_pos hproblems] at h
    cases h
    exact .inl ⟨hproblems, rfl⟩

/-- All that telling everybody can come to. -/
theorem send_cases {out : Outcome σ γ DispatchReport}
    (h : svc.send fuel gw e state = some out) :
    (e.problems ≠ [] ∧ out = refused svc e state (.validation e.problems)) ∨
    (e.problems = [] ∧ ∃ drawn : Drawn σ GenerationError Generation.Fallback,
      Generation.generateWithFallback fuel e.ids e.conflicts svc.settings.maxAttempts svc.source =
        some drawn ∧
      ((∃ err, drawn.result = .error err ∧
        out = ⟨.error (.generation err), e, { svc with source := drawn.source }, state, [],
          drawn.events⟩) ∨
      (∃ found batch, drawn.result = .ok found ∧
        batch = svc.dispatcher.dispatchAll gw e found.pairing false state ∧
        out = ⟨.ok batch.report,
          { e with
            assignments := some found.pairing
            stage := if batch.report.isComplete then .sent else .generated },
          { svc with source := drawn.source }, batch.gateway, batch.calls,
          drawn.events ++ batch.events ++ [.exchangeNotified e.id found.avoidedReciprocal
            batch.report.sent batch.report.failures.length]⟩))) := by
  rw [send] at h
  by_cases hproblems : e.problems = []
  · rw [if_neg (not_not.2 hproblems)] at h
    obtain ⟨drawn, hdrawn, rfl⟩ := Option.map_eq_some_iff.1 h
    refine .inr ⟨hproblems, drawn, hdrawn, ?_⟩
    cases hresult : drawn.result with
    | error err => exact .inl ⟨err, rfl, by simp⟩
    | ok found =>
      refine .inr ⟨found, _, rfl, rfl, ?_⟩
      simp only [concluded_eq]
  · rw [if_pos hproblems] at h
    cases h
    exact .inl ⟨hproblems, rfl⟩

/-- Pairs that went out were drawn for the exchange, and everything else is what the batch over them
left behind. -/
theorem send_ok {out : Outcome σ γ DispatchReport} {report : DispatchReport}
    (h : svc.send fuel gw e state = some out) (hok : out.result = .ok report) :
    e.problems = [] ∧ ∃ set batch, DrawnFor e set ∧
      batch = svc.dispatcher.dispatchAll gw e set false state ∧ report = batch.report ∧
      out.calls = batch.calls ∧ out.service.dispatcher = svc.dispatcher ∧
      out.exchange =
        { e with
          assignments := some set
          stage := if report.isComplete then .sent else .generated } := by
  obtain ⟨-, rfl⟩ | ⟨hproblems, drawn, hdrawn, ⟨err, -, rfl⟩ | ⟨found, batch, hfound, hbatch, rfl⟩⟩ :=
    send_cases h
  · cases hok
  · cases hok
  · cases hok
    exact ⟨hproblems, found.pairing, batch, drawnFor_of_fallback hdrawn hfound, hbatch, rfl, rfl,
      rfl, rfl⟩

/-- All that trying everything out on the organizer can come to; the exchange stays as it is. -/
theorem organizerPreview_cases {avoid : Bool} {out : Outcome σ γ DispatchReport}
    (h : svc.organizerPreview fuel gw e avoid state = some out) :
    (e.problems ≠ [] ∧ out = refused svc e state (.validation e.problems)) ∨
    (e.problems = [] ∧ ∃ drawn : Drawn σ GenerationError Pairing,
      Generation.generate fuel (rules e avoid) svc.settings.maxAttempts svc.source = some drawn ∧
      ((∃ err, drawn.result = .error err ∧
        out = ⟨.error (.generation err), e, { svc with source := drawn.source }, state, [],
          drawn.events⟩) ∨
      (∃ set batch, drawn.result = .ok set ∧
        batch = svc.dispatcher.dispatchAll gw e set true state ∧
        out = ⟨.ok batch.report, e, { svc with source := drawn.source }, batch.gateway,
          batch.calls, drawn.events ++ batch.events⟩))) := by
  rw [organizerPreview] at h
  by_cases hproblems : e.problems = []
  · rw [if_neg (not_not.2 hproblems)] at h
    obtain ⟨drawn, hdrawn, rfl⟩ := Option.map_eq_some_iff.1 h
    refine .inr ⟨hproblems, drawn, hdrawn, ?_⟩
    cases hresult : drawn.result with
    | error err => exact .inl ⟨err, rfl, by simp⟩
    | ok set => exact .inr ⟨set, _, rfl, rfl, by simp⟩
  · rw [if_pos hproblems] at h
    cases h
    exact .inl ⟨hproblems, rfl⟩

/-- Trying everything out on the organizer leaves the exchange alone. -/
theorem organizerPreview_exchange {avoid : Bool} {out : Outcome σ γ DispatchReport}
    (h : svc.organizerPreview fuel gw e avoid state = some out) : out.exchange = e := by
  obtain ⟨-, rfl⟩ | ⟨-, drawn, -, ⟨err, -, rfl⟩ | ⟨set, batch, -, -, rfl⟩⟩ :=
    organizerPreview_cases h
  · rfl
  · rfl
  · rfl

end Drawing

/-- All that telling some people again can come to; the exchange stays as it is. -/
theorem resend_cases (svc : Service σ) (gw : Gateway γ) (e : Exchange) (givers : List Id)
    (state : γ) :
    (e.problems ≠ [] ∧
      svc.resend gw e givers state = refused svc e state (.validation e.problems)) ∨
    (e.problems = [] ∧ e.assignments = none ∧
      svc.resend gw e givers state = refused svc e state .noAssignments) ∨
    (e.problems = [] ∧ ∃ set batch, e.assignments = some set ∧
      batch = svc.dispatcher.dispatchAll gw e (set.restrict givers) false state ∧
      svc.resend gw e givers state =
        ⟨.ok batch.report, e, svc, batch.gateway, batch.calls, batch.events⟩) := by
  unfold resend
  by_cases hproblems : e.problems = []
  · rw [if_neg (not_not.2 hproblems)]
    cases hassignments : e.assignments with
    | none => exact .inr (.inl ⟨hproblems, rfl, rfl⟩)
    | some set => exact .inr (.inr ⟨hproblems, set, _, rfl, rfl, rfl⟩)
  · rw [if_pos hproblems]
    exact .inl ⟨hproblems, rfl⟩

theorem resend_exchange (svc : Service σ) (gw : Gateway γ) (e : Exchange) (givers : List Id)
    (state : γ) : (svc.resend gw e givers state).exchange = e := by
  obtain ⟨-, heq⟩ | ⟨-, -, heq⟩ | ⟨-, set, batch, -, -, heq⟩ := resend_cases svc gw e givers state
  · rw [heq]
    rfl
  · rw [heq]
    rfl
  · rw [heq]

/-- Whoever is told again is told about a stored pair, and both people take part. -/
theorem pair_of_resend {svc : Service σ} {gw : Gateway γ} {e : Exchange} {givers : List Id}
    {state : γ} {set : Pairing} {call : Call} (h : e.assignments = some set)
    (hindexed : set.Indexed)
    (hcall : call ∈ (svc.resend gw e givers state).calls) :
    call.request.giver ∈ e.participants ∧ call.request.receiver ∈ e.participants ∧
      set.Gives call.request.giver.id call.request.receiver.id := by
  obtain ⟨-, heq⟩ | ⟨-, -, heq⟩ | ⟨-, found, batch, hfound, rfl, heq⟩ :=
    resend_cases svc gw e givers state
  · rw [heq] at hcall
    cases hcall
  · rw [heq] at hcall
    cases hcall
  · rw [heq] at hcall
    obtain ⟨pair, hpair, hrequest⟩ := Dispatcher.exists_pair_of_call hcall
    obtain ⟨hgiver, hreceiver, hids⟩ := Dispatcher.request_ids hrequest
    obtain ⟨hg, hr⟩ := Prod.mk.inj hids
    rw [h] at hfound
    cases hfound
    exact ⟨(Exchange.mem_of_participant? hgiver).1, (Exchange.mem_of_participant? hreceiver).1,
      pair, hindexed.mem_of_mem_restrict hpair, hg, hr⟩

/-- Looking at one mail leaves the exchange alone. -/
theorem preview_exchange (svc : Service σ) (gw : Gateway γ) (e : Exchange) (state : γ) :
    (svc.preview gw e state).exchange = e := by
  unfold preview
  split
  · rfl
  · split
    · split <;> rfl
    · rfl

/-! ## Telling everybody -/

/-- A batch over the pairs of a group is one call for each participant, in order; the calls name
the pairs, and the failures are the refused ones among them. -/
theorem calls_of_group (d : Dispatcher) (gw : Gateway γ) {e : Exchange} {pairs : List Pair}
    (hnodup : e.ids.Nodup) (hgivers : pairs.map Pair.giver = e.ids)
    (hreceivers : (pairs.map Pair.receiver).Perm e.ids) (state : γ) :
    let batch := d.dispatchPairs gw e false state pairs
    batch.calls.map (·.request.giver) = e.participants ∧
      batch.calls.map (·.request.recipient) =
        e.participants.map (fun p => ⟨some p.name, p.email⟩) ∧
      (batch.calls.map (·.request.receiver)).Perm e.participants ∧
      pairs.map Pair.ids =
        batch.calls.map (fun c => (c.request.giver.id, c.request.receiver.id)) ∧
      batch.report.failures = batch.calls.filterMap Call.rejection? := by
  intro batch
  have hrequests : ∀ pair ∈ pairs, ∃ r, d.request e pair false = .ok r := by
    intro pair hpair
    apply Dispatcher.exists_request
    · exact hgivers ▸ List.mem_map_of_mem hpair
    · exact hreceivers.mem_iff.1 (List.mem_map_of_mem hpair)
  obtain ⟨hcalls, hfailures⟩ := Dispatcher.dispatchPairs_of_requests gw hrequests state
  have hsome : Function.Injective (List.map (some : Participant → Option Participant)) :=
    List.map_injective_iff.2 (Option.some_injective Participant)
  have hgiver : batch.calls.map (·.request.giver) = e.participants := by
    apply hsome
    rw [← Exchange.map_participant? hnodup, ← hgivers, List.map_map, List.map_map]
    symm
    apply Dispatcher.map_eq_map_of_requests hcalls
    intro pair call hr
    exact (Dispatcher.request_ids hr).1
  refine ⟨hgiver, ?_, ?_, ?_, hfailures⟩
  · rw [← hgiver, List.map_map]
    refine List.map_congr_left fun call hcall => ?_
    obtain ⟨pair, -, hr⟩ := Dispatcher.exists_pair_of_call hcall
    exact Dispatcher.request_recipient hr
  · apply (List.map_perm_map_iff (Option.some_injective Participant)).1
    rw [← Exchange.map_participant? hnodup, List.map_map]
    have hreceiver : pairs.map (fun pair => e.participant? pair.receiver) =
        batch.calls.map fun call => some call.request.receiver := by
      apply Dispatcher.map_eq_map_of_requests hcalls
      intro pair call hr
      exact (Dispatcher.request_ids hr).2.1
    have hlookup := hreceivers.map e.participant?
    rw [List.map_map] at hlookup
    exact hreceiver ▸ hlookup
  · apply Dispatcher.map_eq_map_of_requests hcalls
    intro pair call hr
    exact (Dispatcher.request_ids hr).2.2

/-- **Telling everybody tells everyone once.** Whatever the source hands out and the gateway
answers, the gateway takes one mail after the other: one for each participant, in order, to the name
and address of this participant. The receivers in the mails are the participants in some order,
nobody being told to give to himself or to somebody forbidden. The stored pairs are the pairs in the
mails. The report lists exactly the givers whose mails were refused, with the gateway's error, and
counts everybody else; and the exchange is sent if no mail was refused, and else generated. -/
theorem send_tells_everyone_once [RandomSource σ] {fuel : Nat} {svc : Service σ} {gw : Gateway γ}
    {e : Exchange} {state : γ} {out : Outcome σ γ DispatchReport} {report : DispatchReport}
    (h : svc.send fuel gw e state = some out) (hok : out.result = .ok report) :
    gw.Takes state out.calls out.gateway ∧
      out.calls.map (·.request.giver) = e.participants ∧
      out.calls.map (·.request.recipient) =
        e.participants.map (fun p => ⟨some p.name, p.email⟩) ∧
      (out.calls.map (·.request.receiver)).Perm e.participants ∧
      (∀ call ∈ out.calls, call.request.giver.id ≠ call.request.receiver.id ∧
        e.conflicts.forbids call.request.giver.id call.request.receiver.id = false) ∧
      (∃ set, out.exchange.assignments = some set ∧ set.pairs.map Pair.ids =
        out.calls.map (fun c => (c.request.giver.id, c.request.receiver.id))) ∧
      report.failures = out.calls.filterMap Call.rejection? ∧
      report.sent + report.failures.length = e.participants.length ∧
      out.exchange.stage = if report.failures = [] then .sent else .generated := by
  obtain ⟨-, rfl⟩ | ⟨-, drawn, hdrawn, ⟨err, -, rfl⟩ | ⟨found, batch, hfound, rfl, rfl⟩⟩ :=
    send_cases h
  · cases hok
  · cases hok
  cases hok
  -- whichever of the two draws it was, its pairs keep the rules that everybody has to keep
  obtain ⟨source, once, honce, hset⟩ := Generation.generateWithFallback_ok hdrawn hfound
  obtain ⟨hnodup, -, -, hgivers, hkeeps⟩ := Generation.generate_spec honce hset
  obtain ⟨hgiver, hrecipient, hreceiver, hids, hfailures⟩ :=
    calls_of_group svc.dispatcher gw hnodup hgivers hkeeps.receivers state
  refine ⟨Dispatcher.dispatchPairs_takes state _, hgiver, hrecipient, hreceiver, ?_,
    ⟨found.pairing, rfl, hids⟩, hfailures, ?_, ?_⟩
  · intro call hcall
    obtain ⟨pair, hpair, hr⟩ := Dispatcher.exists_pair_of_call hcall
    have hnames := (Dispatcher.request_ids hr).2.2
    obtain ⟨hg, hrec⟩ := Prod.mk.inj hnames
    rw [← hg, ← hrec]
    exact ⟨pair.distinct, hkeeps.allowed pair hpair⟩
  · have hlen : found.pairing.pairs.length = e.participants.length := by
      rw [← List.length_map Pair.giver, hgivers]
      exact List.length_map _
    rw [← hlen]
    exact Dispatcher.attempted_dispatchPairs state found.pairing.pairs
  · simp only [DispatchReport.isComplete, List.isEmpty_iff]

/-- Three people who may all give to each other. -/
def threeFriends : List Participant :=
  [.new (.ofNat 1) "Ann" "ann" "ann@example.com", .new (.ofNat 2) "Ben" "ben" "ben@example.com",
    .new (.ofNat 3) "Cat" "cat" "cat@example.com"]

/-- An exchange with everything that a draw asks for. -/
def gathering : Exchange :=
  { Exchange.new (.ofNat 9) "Winter" ⟨"Olive", some "olive@example.com", none⟩ with
    dateAndTime := "December 24"
    theme := "Books"
    cost := "$10"
    participants := threeFriends }

/-- Settings without defect. -/
def plainSettings : Settings where
  senderName := "Santa"
  senderAddress := "santa@example.com"
  templateGroup := "exchange"
  defaultFormat := .plaintext
  defaultTemplateName := "notification"
  maxAttempts := 5

/-- The service with these settings. -/
def plainService : Service Listed :=
  ⟨plainSettings, ⟨plainSettings.mailTemplate, plainSettings.senderAddress⟩, ⟨[], 9⟩⟩

/-- A gateway that counts the mails it takes, and takes none for Ben. -/
def fullMailbox : Gateway Nat where
  send sent r :=
    if r.recipient.address = "ben@example.com" then (.error ⟨"mailbox full"⟩, sent)
    else (.ok (), sent + 1)
  render sent r := (.ok ⟨r.templateName, "", none⟩, sent)

theorem exists_report {answer : Except ServiceError DispatchReport} {ids : List Id}
    (h : answer.toOption.map DispatchReport.unreached = some ids) :
    ∃ report, answer = .ok report ∧ report.unreached = ids := by
  cases answer with
  | error err => cases h
  | ok report => exact ⟨report, rfl, Option.some.inj h⟩

/-- Three people, one of whom cannot be reached. -/
theorem send_tells_three_friends_once :
    ∃ out report, Service.new plainSettings (⟨[], 9⟩ : Listed) = .ok plainService ∧
      plainService.send 30 fullMailbox gathering 0 = some out ∧ out.result = .ok report ∧
      report = ⟨2, [⟨.ofNat 2, .gateway (.ofNat 2) ⟨"mailbox full"⟩⟩]⟩ ∧
      fullMailbox.Takes 0 out.calls out.gateway ∧
      out.calls.map (·.request.giver) = threeFriends ∧
      (out.calls.map (·.request.receiver)).Perm threeFriends ∧
      report.failures = out.calls.filterMap Call.rejection? ∧
      out.exchange.stage = .generated := by
  have hdefect : plainSettings.defect? = none := by decide +kernel
  have hnew : Service.new plainSettings (⟨[], 9⟩ : Listed) = .ok plainService := by
    rw [Service.new, Dispatcher.ofSettings, hdefect]
    rfl
  have hrun : ((plainService.send 30 fullMailbox gathering 0).map fun out => out.result.toOption) =
      some (some ⟨2, [⟨.ofNat 2, .gateway (.ofNat 2) ⟨"mailbox full"⟩⟩]⟩) := by
    decide +kernel
  obtain ⟨out, hsend, hresult⟩ := Option.map_eq_some_iff.1 hrun
  have hok : out.result = .ok ⟨2, [⟨.ofNat 2, .gateway (.ofNat 2) ⟨"mailbox full"⟩⟩]⟩ := by
    cases hout : out.result with
    | error err => simp [hout, Except.toOption] at hresult
    | ok report => simpa [hout, Except.toOption] using hresult
  obtain ⟨htakes, hgiver, -, hreceiver, -, -, hfailures, -, hstage⟩ :=
    send_tells_everyone_once hsend hok
  exact ⟨out, _, hnew, hsend, hok, rfl, htakes, hgiver, hreceiver, hfailures, hstage⟩

end Service

end GiftExchange
