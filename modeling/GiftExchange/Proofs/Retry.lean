import GiftExchange.Proofs.Service

set_option autoImplicit false

/-! # Telling people again until everybody is told

Behind an operation that told everybody, those whom it did not reach are told again, round after
round: each round is for the givers that the round before reported. A round draws nothing and leaves
the exchange alone, so each of its mails is the mail of the first round, except for the stage that
the exchange shows. In every round each giver is either told or reported, once for each pair, which
makes a balance over all rounds: what a participant was told and what is still reported add up to
one. -/

namespace GiftExchange

namespace Service

variable {σ γ : Type}

/-! ## Rounds -/

/-- Tells those again whom the last operation did not reach. -/
def retry (gw : Gateway γ) (last : Outcome σ γ DispatchReport) : Outcome σ γ DispatchReport :=
  match last.result with
  | .ok report => last.service.resend gw last.exchange report.unreached last.gateway
  | .error _ => last

/-- What round `n` left behind; round 0 is the operation that told everybody. -/
def round (gw : Gateway γ) (first : Outcome σ γ DispatchReport) : Nat → Outcome σ γ DispatchReport
  | 0 => first
  | n + 1 => retry gw (round gw first n)

/-- The calls of all rounds up to round `n`. -/
def callsThrough (gw : Gateway γ) (first : Outcome σ γ DispatchReport) : Nat → List Call
  | 0 => first.calls
  | n + 1 => callsThrough gw first n ++ (round gw first (n + 1)).calls

/-- The exchange can be told about again: it has no problems, and its pairs are `set`. -/
structure Settled (e : Exchange) (set : Pairing) : Prop where
  problems : e.problems = []
  stored : e.assignments = some set
  indexed : set.Indexed

variable {gw : Gateway γ} {first last : Outcome σ γ DispatchReport} {report : DispatchReport}
  {set : Pairing}

/-- A retry always goes through for a settled exchange: what comes of it is the batch over the pairs
of those who were not reached. -/
theorem retry_ok (gw : Gateway γ) (hresult : last.result = .ok report)
    (hsettled : Settled last.exchange set) :
    ∃ batch, batch = last.service.dispatcher.dispatchAll gw last.exchange
        (set.restrict report.unreached) false last.gateway ∧
      retry gw last =
        ⟨.ok batch.report, last.exchange, last.service, batch.gateway, batch.calls,
          batch.events⟩ := by
  unfold retry
  rw [hresult]
  obtain ⟨hsome, -⟩ | ⟨-, hnone, -⟩ | ⟨-, found, batch, hfound, hbatch, heq⟩ :=
    resend_cases last.service gw last.exchange report.unreached last.gateway
  · exact absurd hsettled.problems hsome
  · rw [hsettled.stored] at hnone
    cases hnone
  · rw [hsettled.stored] at hfound
    cases hfound
    exact ⟨batch, hbatch, heq⟩

/-- What holds behind round `n`: it went through, it left the exchange alone, those who were not
reached stand in the order `ids`, and everybody in `ids` was told or is still to be told. -/
structure Balanced (gw : Gateway γ) (first : Outcome σ γ DispatchReport) (ids : List Id) (n : Nat)
    (report : DispatchReport) : Prop where
  result : (round gw first n).result = .ok report
  exchange : (round gw first n).exchange = first.exchange
  dispatcher : (round gw first n).service.dispatcher = first.service.dispatcher
  ordered : report.unreached.Sublist ids
  balance : ∀ id, (callsThrough gw first n).countP (Call.tells id) + report.unreached.count id =
    ids.count id

/-- One more round, with the batch that it hands over. -/
theorem Balanced.next {n : Nat} (hsettled : Settled first.exchange set)
    (h : Balanced gw first (set.pairs.map Pair.giver) n report) :
    ∃ batch, batch = first.service.dispatcher.dispatchAll gw first.exchange
        (set.restrict report.unreached) false (round gw first n).gateway ∧
      (round gw first (n + 1)).calls = batch.calls ∧
      Balanced gw first (set.pairs.map Pair.giver) (n + 1) batch.report := by
  rw [← h.exchange] at hsettled
  obtain ⟨batch, hbatch, hretry⟩ := retry_ok gw h.result hsettled
  rw [h.exchange, h.dispatcher] at hbatch
  have hround : round gw first (n + 1) = ⟨.ok batch.report, (round gw first n).exchange,
      (round gw first n).service, batch.gateway, batch.calls, batch.events⟩ := hretry
  -- those who were not reached are listed once, and each of them has a stored pair
  have hgivers : (set.restrict report.unreached).pairs.map Pair.giver = report.unreached :=
    hsettled.indexed.restrict_givers (hsettled.indexed.byGiver.nodup.sublist h.ordered)
      fun id hid => h.ordered.subset hid
  have hordered : batch.report.unreached.Sublist
      ((set.restrict report.unreached).pairs.map Pair.giver) := by
    rw [hbatch]
    exact Dispatcher.unreached_sublist _ _
  have hbalance : ∀ id, batch.calls.countP (Call.tells id) + batch.report.unreached.count id =
      ((set.restrict report.unreached).pairs.map Pair.giver).count id := by
    intro id
    rw [hbatch]
    exact Dispatcher.told_add_unreached _ _ id
  rw [hgivers] at hordered hbalance
  refine ⟨batch, hbatch, by rw [hround], ?_⟩
  constructor
  · rw [hround]
  · rw [hround]
    exact h.exchange
  · rw [hround]
    exact h.dispatcher
  · exact hordered.trans h.ordered
  · intro id
    rw [callsThrough, List.countP_append, ← h.balance id, ← hbalance id, hround, Nat.add_assoc]

/-- The mails of a round are written for stored pairs. -/
theorem Balanced.exists_pair_of_call {n : Nat} (hsettled : Settled first.exchange set)
    (h : Balanced gw first (set.pairs.map Pair.giver) n report) {call : Call}
    (hcall : call ∈ (round gw first (n + 1)).calls) :
    ∃ pair ∈ set.pairs,
      first.service.dispatcher.request first.exchange pair false = .ok call.request := by
  obtain ⟨batch, rfl, hcalls, -⟩ := h.next hsettled
  rw [hcalls] at hcall
  obtain ⟨pair, hpair, hrequest⟩ := Dispatcher.exists_pair_of_call hcall
  exact ⟨pair, hsettled.indexed.mem_of_mem_restrict hpair, hrequest⟩

/-! ## Everybody is told once at most -/

section Telling

variable [RandomSource σ] {fuel : Nat} {svc : Service σ} {e : Exchange} {state : γ}

/-- Pairs that went out settle the exchange, and they are the pairs of the participants. -/
theorem settled_of_send (h : svc.send fuel gw e state = some first)
    (hok : first.result = .ok report) :
    ∃ set, Settled first.exchange set ∧ set.pairs.map Pair.giver = e.ids ∧
      (set.pairs.map Pair.receiver).Perm e.ids ∧
      ∃ batch, batch = svc.dispatcher.dispatchAll gw e set false state ∧ report = batch.report ∧
        first.calls = batch.calls := by
  obtain ⟨hproblems, set, batch, hdrawn, hbatch, hreport, hcalls, -, hexchange⟩ := send_ok h hok
  obtain ⟨-, hindexed, hgivers, hkeeps⟩ := hdrawn.spec
  rw [hexchange]
  -- problems are looked for in what the draw left as it was
  have hsettled : Settled { e with
      assignments := some set
      stage := if report.isComplete then .sent else .generated } set :=
    ⟨hproblems, rfl, hindexed⟩
  exact ⟨set, hsettled, hgivers, hkeeps.receivers, batch, hbatch, hreport, hcalls⟩

/-- Every round behind an operation that told everybody is balanced over the participants. -/
theorem exists_balanced (h : svc.send fuel gw e state = some first)
    (hok : first.result = .ok report) (n : Nat) : ∃ last, Balanced gw first e.ids n last := by
  obtain ⟨set, hsettled, hgivers, -, batch, hbatch, hreport, hcalls⟩ := settled_of_send h hok
  rw [← hgivers]
  induction n with
  | zero =>
    refine ⟨report, hok, rfl, rfl, ?_, fun id => ?_⟩
    · rw [hreport, hbatch]
      exact Dispatcher.unreached_sublist _ _
    · rw [callsThrough, hcalls, hreport, hbatch]
      exact Dispatcher.told_add_unreached _ _ id
  | succ n ih =>
    obtain ⟨last, hlast⟩ := ih
    obtain ⟨again, -, -, hagain⟩ := hlast.next hsettled
    exact ⟨again.report, hagain⟩

/-- A retry hands over the mail of the first round for the same giver, at the stage that the exchange
has come to. -/
theorem original_of_retry (h : svc.send fuel gw e state = some first)
    (hok : first.result = .ok report) {n : Nat} {call : Call}
    (hcall : call ∈ (round gw first (n + 1)).calls) :
    (∃ original ∈ first.calls, original.request.giver = call.request.giver) ∧
      ∀ original ∈ first.calls, original.request.giver = call.request.giver →
        call.request = original.request.atStage call.request.exchange.stage := by
  obtain ⟨last, hlast⟩ := exists_balanced h hok n
  obtain ⟨set, hsettled, hgivers, hreceivers, batch, hbatch, -, hcalls⟩ := settled_of_send h hok
  have hgiversNodup : (set.pairs.map Pair.giver).Nodup := hsettled.indexed.byGiver.nodup
  rw [← hgivers] at hlast
  obtain ⟨pair, hpair, hretry⟩ := hlast.exists_pair_of_call hsettled hcall
  obtain ⟨-, _, _, -, -, -, -, hdispatcher, hexchange⟩ := send_ok h hok
  rw [hexchange, hdispatcher] at hretry
  obtain ⟨r, hr, heq⟩ := Dispatcher.request_of_stored_eq_ok hretry
  have hgiver : call.request.giver = r.giver := by
    rw [heq]
    rfl
  rw [hcalls, hbatch]
  constructor
  · -- the first round has a mail for every participant
    obtain ⟨hall, -⟩ :=
      calls_of_group svc.dispatcher gw (hgivers ▸ hgiversNodup) hgivers hreceivers state
    have hmem : call.request.giver ∈ e.participants := by
      rw [hgiver]
      exact (Exchange.mem_of_participant? (Dispatcher.request_ids hr).1).1
    rw [← hall] at hmem
    exact List.mem_map.1 hmem
  · intro original horiginal hsame
    obtain ⟨other, hother, hr'⟩ := Dispatcher.exists_pair_of_call horiginal
    have hrequest : original.request = r :=
      Dispatcher.request_unique hgiversNodup hpair hother hr hr' (hsame.trans hgiver)
    rw [hrequest, heq]
    rfl

/-- **Retrying doubles, loses and changes no mail.** Behind an operation that told everybody, let any
number of rounds tell those again whom the round before reported. Every round goes through. In all
rounds together the gateway took at most one mail for each participant; the last round reports
exactly the participants for whom it took none; and the mail that a retry hands over for a giver is
the one that the first round handed over for this giver, but for the stage that the exchange
shows. -/
theorem retrying_tells_each_at_most_once (h : svc.send fuel gw e state = some first)
    (hok : first.result = .ok report) (n : Nat) :
    ∃ last, (round gw first n).result = .ok last ∧
      (∀ p ∈ e.participants, (callsThrough gw first n).countP (Call.tells p.id) ≤ 1) ∧
      (∀ id, id ∈ last.failures.map DispatchFailure.giver ↔
        (∃ p ∈ e.participants, p.id = id) ∧
          ∀ call ∈ callsThrough gw first n, call.tells id = false) ∧
      ∀ call ∈ (round gw first (n + 1)).calls,
        (∃ original ∈ first.calls, original.request.giver = call.request.giver) ∧
        ∀ original ∈ first.calls, original.request.giver = call.request.giver →
          call.request = original.request.atStage call.request.exchange.stage := by
  obtain ⟨last, hlast⟩ := exists_balanced h hok n
  obtain ⟨set, hsettled, hgivers, -⟩ := settled_of_send h hok
  have hnodup : e.ids.Nodup := hgivers ▸ hsettled.indexed.byGiver.nodup
  have hone : ∀ id ∈ e.ids, (callsThrough gw first n).countP (Call.tells id) +
      last.unreached.count id = 1 := fun id hid =>
    (hlast.balance id).trans (List.count_eq_one_of_mem hnodup hid)
  refine ⟨last, hlast.result, ?_, ?_, ?_⟩
  · intro p hp
    have hp' := hone p.id (List.mem_map_of_mem hp)
    omega
  · intro id
    rw [← List.mem_map, ← DispatchReport.unreached]
    constructor
    · intro hid
      have hmem : id ∈ e.ids := hlast.ordered.subset hid
      have hcount : 0 < last.unreached.count id := List.count_pos_iff.2 hid
      have hnever : (callsThrough gw first n).countP (Call.tells id) = 0 := by
        have hid' := hone id hmem
        omega
      refine ⟨hmem, fun call hcall => ?_⟩
      simpa using List.countP_eq_zero.1 hnever call hcall
    · rintro ⟨hmem, hnever⟩
      have hzero : (callsThrough gw first n).countP (Call.tells id) = 0 :=
        List.countP_eq_zero.2 fun call hcall => by simp [hnever call hcall]
      apply List.count_pos_iff.1
      have hid' := hone id hmem
      omega
  · exact fun call hcall => original_of_retry h hok hcall

end Telling

/-- A gateway that counts what it is handed, and takes no mail for Ben before it was handed four. -/
def slowMailbox : Gateway Nat where
  send handed r :=
    if r.recipient.address = "ben@example.com" ∧ handed < 4 then
      (.error ⟨"try again later"⟩, handed + 1)
    else (.ok (), handed + 1)
  render handed r := (.ok ⟨r.templateName, "", none⟩, handed)

/-- Three people, one of whom is reached by the second retry only. -/
theorem retrying_tells_three_friends_at_most_once :
    ∃ first report one two, plainService.send 30 slowMailbox gathering 0 = some first ∧
      first.result = .ok report ∧ report.unreached = [.ofNat 2] ∧
      (round slowMailbox first 1).result = .ok one ∧ one.unreached = [.ofNat 2] ∧
      (∀ call ∈ callsThrough slowMailbox first 1, call.tells (.ofNat 2) = false) ∧
      (∀ call ∈ (round slowMailbox first 2).calls, ∃ original ∈ first.calls,
        call.request = original.request.atStage call.request.exchange.stage) ∧
      (round slowMailbox first 2).result = .ok two ∧ two.unreached = [] ∧
      ∀ p ∈ threeFriends, (callsThrough slowMailbox first 2).countP (Call.tells p.id) ≤ 1 := by
  have hrun : ((plainService.send 30 slowMailbox gathering 0).map fun first =>
      [0, 1, 2].map fun n =>
        (round slowMailbox first n).result.toOption.map DispatchReport.unreached) =
      some [some [.ofNat 2], some [.ofNat 2], some []] := by
    decide +kernel
  obtain ⟨first, hsend, hrounds⟩ := Option.map_eq_some_iff.1 hrun
  simp only [List.map_cons, List.cons.injEq] at hrounds
  obtain ⟨hzero, hone, htwo, -⟩ := hrounds
  obtain ⟨report, hok, hreport⟩ := exists_report hzero
  obtain ⟨two, htwo, hnobody⟩ := exists_report htwo
  obtain ⟨one, honeResult, -, hunreached, horiginal⟩ :=
    retrying_tells_each_at_most_once hsend hok 1
  obtain ⟨-, -, hatMost, -⟩ := retrying_tells_each_at_most_once hsend hok 2
  have hben : one.unreached = [.ofNat 2] := by
    rw [honeResult] at hone
    exact Option.some.inj hone
  refine ⟨first, report, one, two, hsend, hok, hreport, honeResult, hben, ?_, ?_, htwo, hnobody,
    hatMost⟩
  · apply ((hunreached (.ofNat 2)).1 _).2
    show Id.ofNat 2 ∈ one.unreached
    rw [hben]
    exact List.mem_singleton_self _
  · intro call hcall
    obtain ⟨⟨original, hmem, hsame⟩, hall⟩ := horiginal call hcall
    exact ⟨original, hmem, hall original hmem hsame⟩

end Service

end GiftExchange
