import GiftExchange.Proofs.Reachable
import GiftExchange.Proofs.Service

set_option autoImplicit false

/-! # What the log reveals

Two exchanges are alike when they have the same identifiers, conflicts and pairs, and both or neither
of their organizers can be written to; all that is personal may be different (`Exchange.Alike`). The
draws for them are the same, a mail can be written for the same pairs, and so an operation logs the
same for both as long as their mails are taken and refused alike. -/

namespace GiftExchange

/-- Whether the gateway took the mail. -/
def Call.isTaken : Call → Bool
  | .send _ answer => answer.isOk
  | .render _ answer => answer.isOk

/-- The `n`th mails are both taken or both refused. -/
def AnsweredAlike (calls calls' : List Call) : Prop :=
  ∀ (n : Nat) (call call' : Call), calls[n]? = some call → calls'[n]? = some call' →
    call'.isTaken = call.isTaken

/-- The exchanges agree in all that is not personal. -/
structure Exchange.Alike (e e' : Exchange) : Prop where
  id : e'.id = e.id
  members : e'.participants.map (fun p => (p.id, p.conflicts)) =
    e.participants.map fun p => (p.id, p.conflicts)
  pairs : e'.assignments.map Pairing.pairs = e.assignments.map Pairing.pairs
  contact : e'.organizer.contactEmail.isSome = e.organizer.contactEmail.isSome

variable {σ γ γ' α : Type}

/-- Both runs end or neither does, and they log the same if their mails are answered alike. -/
def LogsAlike (run : Option (Outcome σ γ α)) (run' : Option (Outcome σ γ' α)) : Prop :=
  run.isSome = run'.isSome ∧
    ∀ out out', run = some out → run' = some out' → AnsweredAlike out.calls out'.calls →
      out'.events = out.events

/-- What follows from the same draw logs alike if it does so for every draw. -/
theorem LogsAlike.map {β : Type} {drawn : Option β} {f : β → Outcome σ γ α}
    {f' : β → Outcome σ γ' α}
    (h : ∀ b, AnsweredAlike (f b).calls (f' b).calls → (f' b).events = (f b).events) :
    LogsAlike (drawn.map f) (drawn.map f') := by
  constructor
  · rw [Option.isSome_map, Option.isSome_map]
  · rintro out out' hout hout'
    obtain ⟨b, rfl, rfl⟩ := Option.map_eq_some_iff.1 hout
    obtain ⟨b', hb, rfl⟩ := Option.map_eq_some_iff.1 hout'
    cases hb
    exact h b

namespace Exchange

variable {e e' : Exchange}

theorem Alike.ids_eq (h : e.Alike e') : e'.ids = e.ids := by
  have hids := congrArg (List.map Prod.fst) h.members
  rwa [List.map_map, List.map_map] at hids

/-- The conflicts are made from the identifiers and the conflict sets. -/
theorem Alike.conflicts_eq (h : e.Alike e') : e'.conflicts = e.conflicts := by
  have hdeclared : ∀ ps : List Participant, Conflicts.ofParticipants ps =
      (ps.map fun p => (p.id, p.conflicts)).foldl
        (fun c m => m.2.toList.foldl (fun c other => c.forbid m.1 other) c) .empty :=
    fun ps => by rw [List.foldl_map, Conflicts.ofParticipants]
  rw [conflicts, conflicts, hdeclared, hdeclared, h.members]

theorem Alike.rules_eq (h : e.Alike e') (avoid : Bool) :
    Service.rules e' avoid = Service.rules e avoid := by
  rw [Service.rules, Service.rules, h.ids_eq, h.conflicts_eq]

/-- A mail can be written for the same pairs. -/
theorem Alike.exists_request_iff (h : e.Alike e') {d d' : Dispatcher} {pair : Pair}
    {organizerOnly : Bool} :
    (∃ r, d'.request e' pair organizerOnly = .ok r) ↔
      ∃ r, d.request e pair organizerOnly = .ok r := by
  rw [Dispatcher.exists_request_iff, Dispatcher.exists_request_iff, h.ids_eq, h.contact]

end Exchange

/-! ## Batches -/

/-- Whom a mail tells, and whether it was taken: all that is logged of it. -/
def Call.trace (call : Call) : Id × Bool := (call.request.giver.id, call.isTaken)

theorem AnsweredAlike.map_isTaken {calls calls' : List Call} (h : AnsweredAlike calls calls')
    (hlength : calls'.length = calls.length) :
    calls'.map Call.isTaken = calls.map Call.isTaken := by
  refine List.ext_getElem (by rw [List.length_map, List.length_map, hlength]) fun n hn hn' => ?_
  rw [List.length_map] at hn hn'
  rw [List.getElem_map, List.getElem_map]
  exact h n _ _ (List.getElem?_eq_getElem hn') (List.getElem?_eq_getElem hn)

theorem answeredAlike_of_map_isTaken {calls calls' : List Call}
    (h : calls'.map Call.isTaken = calls.map Call.isTaken) : AnsweredAlike calls calls' := by
  intro n call call' hcall hcall'
  have hn := congrArg (fun taken => taken[n]?) h
  simpa only [List.getElem?_map, hcall, hcall', Option.map_some, Option.some.injEq] using hn

namespace Dispatcher

variable {d d' : Dispatcher} {gw : Gateway γ} {gw' : Gateway γ'} {e e' : Exchange}
  {organizerOnly : Bool}

/-- A mail that was taken is logged and counted, and nothing else is. -/
theorem dispatchPairs_log (d : Dispatcher) (gw : Gateway γ) (e : Exchange) (organizerOnly : Bool)
    (state : γ) (pairs : List Pair) :
    (d.dispatchPairs gw e organizerOnly state pairs).events =
        (((d.dispatchPairs gw e organizerOnly state pairs).calls.map Call.trace).filter
          Prod.snd).map (fun told => .notificationSent e.id told.1 organizerOnly) ∧
      (d.dispatchPairs gw e organizerOnly state pairs).report.sent =
        ((d.dispatchPairs gw e organizerOnly state pairs).calls.map Call.trace).countP
          Prod.snd := by
  induction pairs generalizing state with
  | nil => exact ⟨rfl, rfl⟩
  | cons pair rest ih =>
    rw [dispatchPairs_cons]
    obtain ⟨err, -, hone⟩ | ⟨r, err, next, -, -, hone⟩ | ⟨r, next, hrequest, -, hone⟩ :=
      dispatchOne_cases d gw e organizerOnly state pair
    · rw [hone]
      exact ih state
    · rw [hone]
      exact ih next
    · obtain ⟨hevents, hsent⟩ := ih next
      have hid : pair.giver = r.giver.id := congrArg Prod.fst (request_ids hrequest).2.2
      simp only [hone, hevents, hsent, hid, DispatchReport.count, List.singleton_append,
        List.map_cons]
      exact ⟨rfl, (List.countP_cons_of_pos rfl).symm⟩

/-- The mail for a pair tells the giver of the pair. -/
theorem giver_of_request_eq_some_iff {pair : Pair} {id : Id} :
    (d.request e pair organizerOnly).toOption.map (fun r => r.giver.id) = some id ↔
      (∃ r, d.request e pair organizerOnly = .ok r) ∧ pair.giver = id := by
  cases hrequest : d.request e pair organizerOnly with
  | error err => simp [Except.toOption]
  | ok r =>
    have hid : pair.giver = r.giver.id := congrArg Prod.fst (request_ids hrequest).2.2
    simp [Except.toOption, hid]

/-- The mails for the same pairs tell the same people if the exchanges are alike. -/
theorem givers_of_alike (halike : e.Alike e') (d d' : Dispatcher) (gw : Gateway γ)
    (gw' : Gateway γ') (organizerOnly : Bool) (state : γ) (state' : γ') (pairs : List Pair) :
    (d'.dispatchPairs gw' e' organizerOnly state' pairs).calls.map (fun c => c.request.giver.id) =
      (d.dispatchPairs gw e organizerOnly state pairs).calls.map fun c => c.request.giver.id := by
  have htold : ∀ {δ : Type} (d : Dispatcher) (gw : Gateway δ) (e : Exchange) (state : δ),
      (d.dispatchPairs gw e organizerOnly state pairs).calls.map (fun c => c.request.giver.id) =
        pairs.filterMap fun pair =>
          (d.request e pair organizerOnly).toOption.map fun r => r.giver.id := by
    intro δ d gw e state
    rw [← List.map_filterMap, ← requests_dispatchPairs d gw e organizerOnly state, List.map_map]
    rfl
  rw [htold, htold]
  refine List.filterMap_congr fun pair _ => Option.ext fun id => ?_
  rw [giver_of_request_eq_some_iff, giver_of_request_eq_some_iff, halike.exists_request_iff]

/-- What a batch over the same pairs logs depends on which mails are taken, and on nothing else. -/
theorem report_of_alike (halike : e.Alike e') {state : γ} {state' : γ'} {pairs : List Pair}
    (hanswers : AnsweredAlike (d.dispatchPairs gw e organizerOnly state pairs).calls
      (d'.dispatchPairs gw' e' organizerOnly state' pairs).calls) :
    (d'.dispatchPairs gw' e' organizerOnly state' pairs).events =
        (d.dispatchPairs gw e organizerOnly state pairs).events ∧
      (d'.dispatchPairs gw' e' organizerOnly state' pairs).report.sent =
        (d.dispatchPairs gw e organizerOnly state pairs).report.sent ∧
      (d'.dispatchPairs gw' e' organizerOnly state' pairs).report.failures.length =
        (d.dispatchPairs gw e organizerOnly state pairs).report.failures.length := by
  have hgivers := givers_of_alike halike d d' gw gw' organizerOnly state state' pairs
  -- there are as many mails in both runs, so the answers agree from the first to the last
  have htaken := hanswers.map_isTaken (by
    simpa only [List.length_map] using congrArg List.length hgivers)
  have htrace : (d'.dispatchPairs gw' e' organizerOnly state' pairs).calls.map Call.trace =
      (d.dispatchPairs gw e organizerOnly state pairs).calls.map Call.trace := by
    have hpaired : ∀ calls : List Call, calls.map Call.trace =
        (calls.map fun c => c.request.giver.id).zip (calls.map Call.isTaken) :=
      fun calls => List.zip_map'.symm
    rw [hpaired, hpaired, hgivers, htaken]
  obtain ⟨hevents, hsent⟩ := dispatchPairs_log d gw e organizerOnly state pairs
  obtain ⟨hevents', hsent'⟩ := dispatchPairs_log d' gw' e' organizerOnly state' pairs
  have hattempted : (d.dispatchPairs gw e organizerOnly state pairs).report.attempted =
      pairs.length := attempted_dispatchPairs state pairs
  have hattempted' : (d'.dispatchPairs gw' e' organizerOnly state' pairs).report.attempted =
      pairs.length := attempted_dispatchPairs state' pairs
  rw [htrace, halike.id, ← hevents] at hevents'
  rw [htrace, ← hsent] at hsent'
  rw [DispatchReport.attempted] at hattempted hattempted'
  exact ⟨hevents', hsent', by omega⟩

/-- The same with the line that closes the log of a batch. -/
theorem batch_of_alike (halike : e.Alike e') {set set' : Pairing} (hpairs : set'.pairs = set.pairs)
    {state : γ} {state' : γ'}
    (hanswers : AnsweredAlike (d.dispatchAll gw e set organizerOnly state).calls
      (d'.dispatchAll gw' e' set' organizerOnly state').calls) :
    (d'.dispatchAll gw' e' set' organizerOnly state').events =
        (d.dispatchAll gw e set organizerOnly state).events ∧
      (d'.dispatchAll gw' e' set' organizerOnly state').report.sent =
        (d.dispatchAll gw e set organizerOnly state).report.sent ∧
      (d'.dispatchAll gw' e' set' organizerOnly state').report.failures.length =
        (d.dispatchAll gw e set organizerOnly state).report.failures.length := by
  simp only [dispatchAll, hpairs] at hanswers ⊢
  obtain ⟨hevents, hsent, hfailed⟩ := report_of_alike halike hanswers
  exact ⟨by rw [hevents, hsent, hfailed, halike.id], hsent, hfailed⟩

end Dispatcher

/-! ## Operations -/

namespace Service

variable {e e' : Exchange} {svc svc' : Service σ}

section Drawing

variable [RandomSource σ] (halike : e.Alike e')
  (hattempts : svc'.settings.maxAttempts = svc.settings.maxAttempts)
  (hsource : svc'.source = svc.source) (hsound : e.problems = []) (hsound' : e'.problems = [])

include halike hattempts hsource hsound hsound'

theorem generate_logsAlike (fuel : Nat) (avoid : Bool) (state : γ) (state' : γ') :
    LogsAlike (svc.generate fuel e avoid state) (svc'.generate fuel e' avoid state') := by
  rw [generate, generate, if_neg (not_not.2 hsound), if_neg (not_not.2 hsound'),
    halike.rules_eq, hattempts, hsource]
  refine .map fun drawn _ => ?_
  cases drawn.result with
  | error err => rfl
  | ok set => rw [halike.id]

theorem send_logsAlike (gw : Gateway γ) (gw' : Gateway γ') (fuel : Nat) (state : γ) (state' : γ') :
    LogsAlike (svc.send fuel gw e state) (svc'.send fuel gw' e' state') := by
  rw [send, send, if_neg (not_not.2 hsound), if_neg (not_not.2 hsound'), halike.ids_eq,
    halike.conflicts_eq, hattempts, hsource]
  refine .map fun drawn hanswers => ?_
  cases hresult : drawn.result with
  | error err => rfl
  | ok found =>
    simp only [hresult, concluded_eq] at hanswers ⊢
    obtain ⟨hevents, hsent, hfailed⟩ := Dispatcher.batch_of_alike halike rfl hanswers
    rw [hevents, hsent, hfailed, halike.id]

theorem organizerPreview_logsAlike (gw : Gateway γ) (gw' : Gateway γ') (fuel : Nat) (avoid : Bool)
    (state : γ) (state' : γ') :
    LogsAlike (svc.organizerPreview fuel gw e avoid state)
      (svc'.organizerPreview fuel gw' e' avoid state') := by
  rw [organizerPreview, organizerPreview, if_neg (not_not.2 hsound), if_neg (not_not.2 hsound'),
    halike.rules_eq, hattempts, hsource]
  refine .map fun drawn hanswers => ?_
  cases hresult : drawn.result with
  | error err => rfl
  | ok set =>
    simp only [hresult] at hanswers ⊢
    rw [(Dispatcher.batch_of_alike halike rfl hanswers).1]

end Drawing

theorem resend_events_of_alike (halike : e.Alike e') (hsound : e.problems = [])
    (hsound' : e'.problems = []) (hmade : ∀ set, e.assignments = some set → set.Reachable)
    (hmade' : ∀ set, e'.assignments = some set → set.Reachable)
    {gw : Gateway γ} {gw' : Gateway γ'} {givers : List Id} {state : γ} {state' : γ'}
    (hanswers : AnsweredAlike (svc.resend gw e givers state).calls
      (svc'.resend gw' e' givers state').calls) :
    (svc'.resend gw' e' givers state').events = (svc.resend gw e givers state).events := by
  have hpairs := halike.pairs
  rw [resend, resend, if_neg (not_not.2 hsound), if_neg (not_not.2 hsound')] at hanswers ⊢
  cases hset : e.assignments with
  | none =>
    rw [hset, Option.map_none, Option.map_eq_none_iff] at hpairs
    rw [hpairs]
    rfl
  | some set =>
    rw [hset, Option.map_some, Option.map_eq_some_iff] at hpairs
    obtain ⟨set', hset', hsame⟩ := hpairs
    have hindexed := (hmade set hset).indexed
    have hindexed' := (hmade' set' hset').indexed
    have hrestricted : (set'.restrict givers).pairs = (set.restrict givers).pairs :=
      hindexed.restrict_pairs_congr hindexed' fun id _ =>
        (hindexed.lookups_congr hindexed' hsame id).2.1
    simp only [hset, hset'] at hanswers ⊢
    exact (Dispatcher.batch_of_alike halike hrestricted hanswers).1

/-- **The log tells nothing personal.** Let two exchanges be alike, both without problems, and let two
services make as many attempts and draw from the same source; names, addresses, overrides, texts, the
organizer's data and all other settings may be different. Then drawing, telling everybody and trying
everything out on the organizer end for both or for neither, and each logs the same events for both,
as long as the gateways take or refuse the `n`th mail alike, with whatever errors; and so does telling
some people again. -/
theorem log_tells_nothing_personal [RandomSource σ] (svc svc' : Service σ) (halike : e.Alike e')
    (hattempts : svc'.settings.maxAttempts = svc.settings.maxAttempts)
    (hsource : svc'.source = svc.source) (hsound : e.problems = []) (hsound' : e'.problems = [])
    (hmade : ∀ set, e.assignments = some set → set.Reachable)
    (hmade' : ∀ set, e'.assignments = some set → set.Reachable)
    (gw : Gateway γ) (gw' : Gateway γ') (fuel : Nat) (avoid : Bool) (givers : List Id) (state : γ)
    (state' : γ') :
    LogsAlike (svc.generate fuel e avoid state) (svc'.generate fuel e' avoid state') ∧
      LogsAlike (svc.send fuel gw e state) (svc'.send fuel gw' e' state') ∧
      LogsAlike (svc.organizerPreview fuel gw e avoid state)
        (svc'.organizerPreview fuel gw' e' avoid state') ∧
      (AnsweredAlike (svc.resend gw e givers state).calls
          (svc'.resend gw' e' givers state').calls →
        (svc'.resend gw' e' givers state').events = (svc.resend gw e givers state).events) :=
  ⟨generate_logsAlike halike hattempts hsource hsound hsound' fuel avoid state state',
    send_logsAlike halike hattempts hsource hsound hsound' gw gw' fuel state state',
    organizerPreview_logsAlike halike hattempts hsource hsound hsound' gw gw' fuel avoid state
      state',
    resend_events_of_alike halike hsound hsound' hmade hmade'⟩

/-- Three friends who are drawn. -/
def drawnGathering : Exchange :=
  { gathering with
    assignments := some Pairing.ringOfThree
    stage := .generated }

/-- Another exchange with the same identifiers and the same pairs, and nothing else the same. -/
def secretGathering : Exchange where
  id := .ofNat 9
  name := "Office"
  dateAndTime := "June 24"
  theme := "Tea"
  cost := "5 pounds"
  extraInfo := some "Bring a cup."
  organizer := ⟨"Uma", some " uma@example.org ", some "555 0100"⟩
  overrides := ⟨some "Uma", some .multipart, none, some "office"⟩
  participants :=
    [⟨.ofNat 1, "Xan", "xan", "xan@example.org", ∅, ⟨none, none, some "short", none⟩⟩,
      ⟨.ofNat 2, "Yve", "yve", "yve@example.org", ∅, .none⟩,
      ⟨.ofNat 3, "Zoe", "zoe", "zoe@example.org", ∅, .none⟩]
  assignments := some Pairing.ringOfThree
  stage := .sent

/-- A service with other settings that makes as many attempts. -/
def secretService : Service Listed :=
  ⟨{ plainSettings with senderName := "Uma", templateGroup := "tea" },
    ⟨⟨"Uma", .plaintext, "tea", "notification"⟩, "uma@example.org"⟩, ⟨[], 9⟩⟩

/-- A gateway that refuses the second mail it is handed. -/
def overQuota : Gateway Nat where
  send handed _ := (if handed = 1 then .error ⟨"over quota"⟩ else .ok (), handed + 1)
  render handed r := (.ok ⟨r.templateName, "", none⟩, handed)

/-- Telling three friends, one of whom has a full mailbox, logs what telling three others does, one of
whose mails is over quota. -/
theorem log_tells_nothing_of_three_friends :
    drawnGathering.problems = [] ∧ secretGathering.problems = [] ∧
      drawnGathering.Alike secretGathering ∧
      (∃ told told', plainService.send 30 fullMailbox drawnGathering 0 = some told ∧
        secretService.send 30 overQuota secretGathering 0 = some told' ∧
        told.calls.map Call.isTaken = [true, false, true] ∧ told.events.length = 5 ∧
        told'.events = told.events) ∧
      (secretService.resend overQuota secretGathering [.ofNat 1, .ofNat 2] 0).events =
        (plainService.resend fullMailbox drawnGathering [.ofNat 1, .ofNat 2] 0).events := by
  have hsound : drawnGathering.problems = [] := by decide +kernel
  have hsound' : secretGathering.problems = [] := by decide +kernel
  have halike : drawnGathering.Alike secretGathering := ⟨rfl, rfl, rfl, by decide +kernel⟩
  have hmade : ∀ set, some Pairing.ringOfThree = some set → set.Reachable := by
    rintro set ⟨⟩
    exact Pairing.ringOfThree_reachable
  obtain ⟨-, hsend, -, hresend⟩ := log_tells_nothing_personal plainService secretService halike rfl
    rfl hsound hsound' hmade hmade fullMailbox overQuota 30 true [.ofNat 1, .ofNat 2] 0 0
  refine ⟨hsound, hsound', halike, ?_, hresend (answeredAlike_of_map_isTaken (by decide +kernel))⟩
  have htold : ((plainService.send 30 fullMailbox drawnGathering 0).map fun told =>
      (told.calls.map Call.isTaken, told.events.length)) = some ([true, false, true], 5) := by
    decide +kernel
  have htold' : ((secretService.send 30 overQuota secretGathering 0).map fun told =>
      told.calls.map Call.isTaken) = some [true, false, true] := by
    decide +kernel
  obtain ⟨told, hrun, hseen⟩ := Option.map_eq_some_iff.1 htold
  obtain ⟨told', hrun', htaken'⟩ := Option.map_eq_some_iff.1 htold'
  obtain ⟨htaken, hlength⟩ := Prod.mk.inj hseen
  exact ⟨told, told', hrun, hrun', htaken, hlength, hsend.2 told told' hrun hrun'
    (answeredAlike_of_map_isTaken (htaken'.trans htaken.symm))⟩

end Service

end GiftExchange
