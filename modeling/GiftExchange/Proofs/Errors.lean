import GiftExchange.Proofs.Failure
import GiftExchange.Proofs.Reachable
import GiftExchange.Proofs.Validity

set_option autoImplicit false

/-! # The errors that are left behind the check

An operation checks the exchange first, and its settings were checked before. What is behind the
check therefore cannot go wrong for want of participants, for an identifier that occurs twice or for
a pair of people who do not take part: a draw can only run out of attempts, a mail can only be
refused by the gateway or lack the organizer's address, and no lookup follows a position beyond its
list. -/

namespace GiftExchange

/-- No position in either index is beyond the list. -/
def Pairing.InRange (s : Pairing) : Prop :=
  ∀ (id : Id) (i : Nat), s.byGiver[id]? = some i ∨ s.byReceiver[id]? = some i → i < s.pairs.length

theorem Pairing.Indexed.inRange {s : Pairing} (h : s.Indexed) : s.InRange := by
  rintro id i (hi | hi)
  · exact h.byGiver.lt_length hi
  · exact h.byReceiver.lt_length hi

/-- All failures are mails that the gateway refused. -/
def DispatchReport.OnlyRefused (r : DispatchReport) : Prop :=
  ∀ f ∈ r.failures, ∃ refusal, f.error = .gateway f.giver refusal

namespace Service

variable {σ γ : Type}

/-- A service is made of settings without defect. -/
theorem new_eq_ok_iff {settings : Settings} {source : σ} {svc : Service σ} :
    Service.new settings source = .ok svc ↔
      settings.defect? = none ∧
        svc = ⟨settings, ⟨settings.mailTemplate, settings.senderAddress⟩, source⟩ := by
  unfold Service.new Dispatcher.ofSettings
  cases settings.defect? with
  | none => simp [Except.map, eq_comm]
  | some defect => simp [Except.map]

/-- The answer to an exchange that has problems. -/
def Refuses (e : Exchange) (err : ServiceError) : Prop :=
  e.problems ≠ [] ∧ err = .validation e.problems

/-- The exchange has problems, or all attempts to draw were in vain. -/
def CannotDraw (svc : Service σ) (e : Exchange) (err : ServiceError) : Prop :=
  Refuses e err ∨ e.problems = [] ∧
    err = .generation (.attemptsExhausted e.participants.length svc.settings.maxAttempts)

/-! ## Draws -/

/-- No draw for an exchange without problems is refused. -/
theorem refusal?_of_sound {svc : Service σ} {e : Exchange} (hmax : 1 ≤ svc.settings.maxAttempts)
    (h : e.problems = []) :
    Generation.refusal? e.ids svc.settings.maxAttempts = none := by
  obtain ⟨-, -, htwo, hnodup, -, -⟩ := Exchange.problems_eq_nil_iff.1 h
  refine Generation.refusal?_eq_none_iff.2 ⟨hmax, hnodup, ?_⟩
  rw [Exchange.ids, List.length_map]
  exact htwo

/-- Drawn pairs are pairs of participants. -/
theorem DrawnFor.mem_ids {e : Exchange} {set : Pairing} (h : DrawnFor e set) {pair : Pair}
    (hpair : pair ∈ set.pairs) : pair.giver ∈ e.ids ∧ pair.receiver ∈ e.ids := by
  obtain ⟨-, -, hgivers, hkeeps⟩ := h.spec
  exact ⟨hgivers ▸ List.mem_map_of_mem hpair,
    hkeeps.receivers.mem_iff.1 (List.mem_map_of_mem hpair)⟩

section Drawing

variable [RandomSource σ] {fuel : Nat} {svc : Service σ} {gw : Gateway γ} {e : Exchange}
  {avoid : Bool} {state : γ} {err : ServiceError}

theorem cannotDraw_of_generate (hmax : 1 ≤ svc.settings.maxAttempts) {out : Outcome σ γ Pairing}
    (h : svc.generate fuel e avoid state = some out) (herror : out.result = .error err) :
    svc.CannotDraw e err := by
  obtain ⟨hsome, rfl⟩ | ⟨hnone, drawn, hdrawn, ⟨failed, hfailed, rfl⟩ | ⟨set, -, rfl⟩⟩ :=
    generate_cases h
  · cases herror
    exact .inl ⟨hsome, rfl⟩
  · cases herror
    have hleft := Generation.generate_error hdrawn (refusal?_of_sound hmax hnone) hfailed
    exact .inr ⟨hnone, by rw [hleft, rules, Exchange.ids, List.length_map]⟩
  · cases herror

theorem cannotDraw_of_send (hmax : 1 ≤ svc.settings.maxAttempts)
    {out : Outcome σ γ DispatchReport} (h : svc.send fuel gw e state = some out)
    (herror : out.result = .error err) : svc.CannotDraw e err := by
  obtain ⟨hsome, rfl⟩ | ⟨hnone, drawn, hdrawn, ⟨failed, hfailed, rfl⟩ | ⟨found, batch, -, -, rfl⟩⟩ :=
    send_cases h
  · cases herror
    exact .inl ⟨hsome, rfl⟩
  · cases herror
    have hleft :=
      Generation.generateWithFallback_error hdrawn (refusal?_of_sound hmax hnone) hfailed
    exact .inr ⟨hnone, by rw [hleft, Exchange.ids, List.length_map]⟩
  · cases herror

theorem cannotDraw_of_organizerPreview (hmax : 1 ≤ svc.settings.maxAttempts)
    {out : Outcome σ γ DispatchReport} (h : svc.organizerPreview fuel gw e avoid state = some out)
    (herror : out.result = .error err) : svc.CannotDraw e err := by
  obtain ⟨hsome, rfl⟩ | ⟨hnone, drawn, hdrawn, ⟨failed, hfailed, rfl⟩ | ⟨set, batch, -, -, rfl⟩⟩ :=
    organizerPreview_cases h
  · cases herror
    exact .inl ⟨hsome, rfl⟩
  · cases herror
    have hleft := Generation.generate_error hdrawn (refusal?_of_sound hmax hnone) hfailed
    exact .inr ⟨hnone, by rw [hleft, rules, Exchange.ids, List.length_map]⟩
  · cases herror

/-! ## Reports -/

/-- Every giver of a draw can be written to. -/
theorem onlyRefused_of_send {out : Outcome σ γ DispatchReport} {report : DispatchReport}
    (h : svc.send fuel gw e state = some out) (hok : out.result = .ok report) :
    report.OnlyRefused := by
  obtain ⟨-, set, batch, hdrawn, rfl, rfl, -⟩ := send_ok h hok
  apply Dispatcher.gateway_of_failure
  intro pair hpair
  obtain ⟨hgiver, hreceiver⟩ := hdrawn.mem_ids hpair
  exact Dispatcher.exists_request hgiver hreceiver

/-- What trying everything out can report: everybody, if there is no address to write to, and else
what the gateway refused. -/
theorem report_of_organizerPreview {out : Outcome σ γ DispatchReport} {report : DispatchReport}
    (h : svc.organizerPreview fuel gw e avoid state = some out) (hok : out.result = .ok report) :
    (e.organizer.contactEmail = none →
      report = ⟨0, e.participants.map fun p => ⟨p.id, .organizerEmailMissing⟩⟩) ∧
      (e.organizer.contactEmail ≠ none → report.OnlyRefused) := by
  obtain ⟨-, rfl⟩ | ⟨-, drawn, hdrawn, ⟨err, -, rfl⟩ | ⟨set, batch, hset, rfl, rfl⟩⟩ :=
    organizerPreview_cases h
  · cases hok
  · cases hok
  cases hok
  have hfor : DrawnFor e set := ⟨σ, _, fuel, avoid, _, _, drawn, hdrawn, hset⟩
  constructor
  · intro hcontact
    have herrors : ∀ pair ∈ set.pairs,
        svc.dispatcher.request e pair true = .error .organizerEmailMissing := by
      intro pair hpair
      obtain ⟨hgiver, hreceiver⟩ := hfor.mem_ids hpair
      rw [Dispatcher.request_of_no_contact _ hcontact,
        Dispatcher.unmailable_of_members hgiver hreceiver]
    obtain ⟨-, -, hgivers, -⟩ := hfor.spec
    have hnames : set.pairs.map (fun pair => DispatchFailure.mk pair.giver .organizerEmailMissing) =
        e.participants.map fun p => ⟨p.id, .organizerEmailMissing⟩ := by
      have hmapped := congrArg (List.map (DispatchFailure.mk · .organizerEmailMissing)) hgivers
      rwa [List.map_map, Exchange.ids, List.map_map] at hmapped
    rw [← hnames]
    exact (Dispatcher.dispatchPairs_of_errors gw herrors state).2.2
  · intro hcontact
    apply Dispatcher.gateway_of_failure
    intro pair hpair
    obtain ⟨hgiver, hreceiver⟩ := hfor.mem_ids hpair
    exact Dispatcher.exists_request_iff.2
      ⟨hgiver, hreceiver, fun _ => Option.isSome_iff_ne_none.2 hcontact⟩

end Drawing

/-! ## Mails without a draw -/

/-- All that looking at one mail can come to: the mail is about the first two participants. -/
theorem preview_cases (svc : Service σ) (gw : Gateway γ) (e : Exchange) (state : γ) :
    (e.problems ≠ [] ∧ svc.preview gw e state = refused svc e state (.validation e.problems)) ∨
    (e.problems = [] ∧ ∃ first second rest, ∃ hne : first.id ≠ second.id,
      e.participants = first :: second :: rest ∧
      ∃ posted, posted =
          svc.dispatcher.renderOne gw e state ⟨first.id, second.id, hne⟩ ∧
        svc.preview gw e state = ⟨posted.result.mapError .dispatch, e, svc, posted.gateway,
          posted.calls, posted.events⟩) := by
  unfold preview
  by_cases hproblems : e.problems = []
  · refine .inr ⟨hproblems, ?_⟩
    obtain ⟨-, -, htwo, hnodup, -, -⟩ := Exchange.problems_eq_nil_iff.1 hproblems
    obtain ⟨first, second, rest, hmembers⟩ := Exchange.exists_two htwo
    rw [Exchange.ids, hmembers] at hnodup
    have hne : first.id ≠ second.id := by
      intro heq
      simp [heq] at hnodup
    refine ⟨first, second, rest, hne, hmembers, _, rfl, ?_⟩
    rw [if_neg (not_not.2 hproblems)]
    simp only [hmembers, Pair.of, dif_neg hne]
  · rw [if_pos hproblems]
    exact .inl ⟨hproblems, rfl⟩

/-- The first two participants can be written about, so only the gateway refuses to show a mail. -/
theorem error_of_preview {svc : Service σ} {gw : Gateway γ} {e : Exchange} {state : γ}
    {err : ServiceError} (herror : (svc.preview gw e state).result = .error err) :
    Refuses e err ∨ ∃ giver refusal, err = .dispatch (.gateway giver refusal) := by
  obtain ⟨hsome, heq⟩ | ⟨-, first, second, rest, hne, hmembers, posted, hposted, heq⟩ :=
    preview_cases svc gw e state
  · rw [heq] at herror
    cases herror
    exact .inl ⟨hsome, rfl⟩
  · rw [heq] at herror
    have hmem : first.id ∈ e.ids ∧ second.id ∈ e.ids := by
      simp [Exchange.ids, hmembers]
    obtain ⟨r, hr⟩ : ∃ r,
        svc.dispatcher.request e ⟨first.id, second.id, hne⟩ false = .ok r :=
      Dispatcher.exists_request hmem.1 hmem.2
    rw [Dispatcher.renderOne, hr] at hposted
    rcases hrender : gw.render state r with ⟨refusal | mail, next⟩
    · simp only [hrender] at hposted
      rw [hposted] at herror
      cases herror
      exact .inr ⟨first.id, refusal, rfl⟩
    · simp only [hrender] at hposted
      rw [hposted] at herror
      cases herror

theorem error_of_resend {svc : Service σ} {gw : Gateway γ} {e : Exchange} {givers : List Id}
    {state : γ} {err : ServiceError} (herror : (svc.resend gw e givers state).result = .error err) :
    Refuses e err ∨ e.problems = [] ∧ e.assignments = none ∧ err = .noAssignments := by
  obtain ⟨hsome, heq⟩ | ⟨hproblems, hnone, heq⟩ | ⟨-, set, batch, -, -, heq⟩ :=
    resend_cases svc gw e givers state
  · rw [heq] at herror
    cases herror
    exact .inl ⟨hsome, rfl⟩
  · rw [heq] at herror
    cases herror
    exact .inr ⟨hproblems, hnone, rfl⟩
  · rw [heq] at herror
    cases herror

/-- **Behind the check little can go wrong.** Whatever the exchange, the source, the gateway and the
settings that were accepted: drawing pairs, telling everybody and trying everything out fail only for
an exchange with problems, or when all attempts were in vain; telling people again fails only for
problems, or when nothing was drawn yet; looking at one mail fails only for problems, or when the
gateway refuses. Whoever is not told about drawn pairs was refused by the gateway, except that
everybody is reported when all mails should go to an organizer without address. And every position
that is followed is one of its list: the exchange has the two participants that a mail is shown for,
and the indexes of the stored pairs and of each candidate stay within their pairs. -/
theorem only_foreseen_errors [RandomSource σ] {settings : Settings} {source : σ} {svc : Service σ}
    (hnew : Service.new settings source = .ok svc) {e : Exchange}
    (hstored : ∀ set, e.assignments = some set → set.Reachable) (fuel : Nat) (gw : Gateway γ)
    (avoid : Bool) (givers : List Id) (state : γ) :
    (∀ drew, svc.generate fuel e avoid state = some drew →
      ∀ err, drew.result = .error err → svc.CannotDraw e err) ∧
    (∀ told, svc.send fuel gw e state = some told →
      (∀ err, told.result = .error err → svc.CannotDraw e err) ∧
      ∀ report, told.result = .ok report → report.OnlyRefused) ∧
    (∀ tried, svc.organizerPreview fuel gw e avoid state = some tried →
      (∀ err, tried.result = .error err → svc.CannotDraw e err) ∧
      ∀ report, tried.result = .ok report →
        (e.organizer.contactEmail = none →
          report = ⟨0, e.participants.map fun p => ⟨p.id, .organizerEmailMissing⟩⟩) ∧
        (e.organizer.contactEmail ≠ none → report.OnlyRefused)) ∧
    (∀ err, (svc.resend gw e givers state).result = .error err →
      Refuses e err ∨ e.problems = [] ∧ e.assignments = none ∧ err = .noAssignments) ∧
    (∀ err, (svc.preview gw e state).result = .error err →
      Refuses e err ∨ ∃ giver refusal, err = .dispatch (.gateway giver refusal)) ∧
    (e.problems = [] → ∃ first second rest, e.participants = first :: second :: rest) ∧
    (∀ set, e.assignments = some set → set.InRange) ∧
    ∀ order set, Generation.pairUp e.ids order = .ok set → set.InRange := by
  obtain ⟨hdefect, rfl⟩ := new_eq_ok_iff.1 hnew
  have hmax : 1 ≤ settings.maxAttempts := Settings.one_le_maxAttempts hdefect
  refine ⟨fun _ h _ => cannotDraw_of_generate hmax h,
    fun _ h => ⟨fun _ => cannotDraw_of_send hmax h, fun _ => onlyRefused_of_send h⟩,
    fun _ h => ⟨fun _ => cannotDraw_of_organizerPreview hmax h,
      fun _ => report_of_organizerPreview h⟩,
    fun _ => error_of_resend, fun _ => error_of_preview, ?_,
    fun set hset => (hstored set hset).indexed.inRange,
    fun order set hset => (Pairing.ofIds_eq_ok hset).1.inRange⟩
  intro hproblems
  obtain hsome | ⟨-, first, second, rest, -, hmembers, -⟩ :=
    preview_cases (⟨settings, ⟨settings.mailTemplate, settings.senderAddress⟩, source⟩ : Service σ)
      gw e state
  · exact absurd hproblems hsome.1
  · exact ⟨first, second, rest, hmembers⟩

/-- Three people who have been drawn, with an organizer who has no mail address. -/
def byPhone : Exchange :=
  { gathering with
    organizer := ⟨"Olive", none, some "555 0100"⟩
    assignments := some Pairing.ringOfThree
    stage := .generated }

/-- One of three people is not reached, and none is reached by way of an organizer without address;
two people cannot be drawn when one of them must not give to the other. -/
theorem only_foreseen_errors_by_phone :
    Service.new plainSettings (⟨[], 9⟩ : Listed) = .ok plainService ∧
      (∀ set, byPhone.assignments = some set → set.Reachable) ∧
      (∃ told report, plainService.send 30 fullMailbox byPhone 0 = some told ∧
        told.result = .ok report ∧ report.unreached = [.ofNat 2] ∧ report.OnlyRefused) ∧
      (∃ tried report, plainService.organizerPreview 30 fullMailbox byPhone true 0 = some tried ∧
        tried.result = .ok report ∧
        report = ⟨0, threeFriends.map fun p => ⟨p.id, .organizerEmailMissing⟩⟩) ∧
      ∃ drew err, plainService.generate 30 quarrel false 0 = some drew ∧
        drew.result = .error err ∧ plainService.CannotDraw quarrel err := by
  have hnew : Service.new plainSettings (⟨[], 9⟩ : Listed) = .ok plainService :=
    new_eq_ok_iff.2 ⟨by decide +kernel, rfl⟩
  have hstored : ∀ set, byPhone.assignments = some set → set.Reachable := by
    intro set hset
    cases hset
    exact Pairing.ringOfThree_reachable
  have htold : ((plainService.send 30 fullMailbox byPhone 0).map fun told =>
      told.result.toOption.map DispatchReport.unreached) = some (some [.ofNat 2]) := by
    decide +kernel
  have htried : ((plainService.organizerPreview 30 fullMailbox byPhone true 0).map fun tried =>
      tried.result.toOption.map DispatchReport.unreached) =
        some (some [.ofNat 1, .ofNat 2, .ofNat 3]) := by
    decide +kernel
  have hdrew : ((plainService.generate 30 quarrel false 0).map fun drew => drew.result.isOk) =
      some false := by
    decide +kernel
  obtain ⟨-, hsend, hpreview, -⟩ := only_foreseen_errors hnew hstored 30 fullMailbox true [] 0
  refine ⟨hnew, hstored, ?_, ?_, ?_⟩
  · obtain ⟨told, hrun, hresult⟩ := Option.map_eq_some_iff.1 htold
    obtain ⟨report, hok, hunreached⟩ := exists_report hresult
    exact ⟨told, report, hrun, hok, hunreached, (hsend told hrun).2 report hok⟩
  · obtain ⟨tried, hrun, hresult⟩ := Option.map_eq_some_iff.1 htried
    obtain ⟨report, hok, -⟩ := exists_report hresult
    exact ⟨tried, report, hrun, hok, ((hpreview tried hrun).2 report hok).1 rfl⟩
  · obtain ⟨drew, hrun, hresult⟩ := Option.map_eq_some_iff.1 hdrew
    cases hfailed : drew.result with
    | ok set =>
      rw [hfailed] at hresult
      cases hresult
    | error err =>
      have hnone : ∀ set, quarrel.assignments = some set → set.Reachable := nofun
      exact ⟨drew, err, hrun, hfailed,
        (only_foreseen_errors hnew hnone 30 fullMailbox false [] 0).1 drew hrun err hfailed⟩

end Service

end GiftExchange
