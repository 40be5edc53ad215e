import GiftExchange.Proofs.Discretion

set_option autoImplicit false

/-! # A batch goes through all pairs

What a batch does is determined pair by pair. The mails that can be written for the pairs are handed
over in order, whatever becomes of any of them (`Dispatcher.mails`); so the gateway is found in the
state that the mails for the pairs before left it in (`Gateway.after`), and what a pair comes to is
what the gateway answers there (`Dispatcher.failure?`). The report counts the mails that were taken and
lists the failures in the order of the pairs. -/

namespace GiftExchange

variable {γ : Type}

/-- The state of the gateway behind some mails, whatever it answers. -/
def Gateway.after (gw : Gateway γ) (state : γ) (mails : List MailRequest) : γ :=
  mails.foldl (fun state r => (gw.send state r).2) state

theorem Gateway.after_append (gw : Gateway γ) (state : γ) (mails later : List MailRequest) :
    gw.after state (mails ++ later) = gw.after (gw.after state mails) later :=
  List.foldl_append

namespace Dispatcher

/-- The mails that can be written for some pairs, in their order. -/
def mails (d : Dispatcher) (e : Exchange) (organizerOnly : Bool) (pairs : List Pair) :
    List MailRequest :=
  pairs.filterMap fun pair => (d.request e pair organizerOnly).toOption

/-- How a pair fails with a gateway in some state, if it does: no mail can be written for it, or the
gateway refuses its mail. -/
def failure? (d : Dispatcher) (gw : Gateway γ) (e : Exchange) (organizerOnly : Bool) (state : γ)
    (pair : Pair) : Option DispatchFailure :=
  match d.request e pair organizerOnly with
  | .error err => some ⟨pair.giver, err⟩
  | .ok r =>
    match (gw.send state r).1 with
    | .error err => some ⟨pair.giver, .gateway pair.giver err⟩
    | .ok () => none

variable {d : Dispatcher} {gw : Gateway γ} {e : Exchange} {organizerOnly : Bool}

theorem mails_cons (pair : Pair) (rest : List Pair) :
    d.mails e organizerOnly (pair :: rest) =
      d.mails e organizerOnly [pair] ++ d.mails e organizerOnly rest := by
  rw [mails, mails, mails, ← List.filterMap_append, List.singleton_append]

/-- Handing over one pair leaves the gateway behind the mail for the pair, if there is one, and fails
as the pair does. -/
theorem dispatchOne_spec (d : Dispatcher) (gw : Gateway γ) (e : Exchange) (organizerOnly : Bool)
    (state : γ) (pair : Pair) :
    (d.dispatchOne gw e organizerOnly state pair).gateway =
        gw.after state (d.mails e organizerOnly [pair]) ∧
      ((d.dispatchOne gw e organizerOnly state pair).result = .ok () ∧
          d.failure? gw e organizerOnly state pair = none ∨
        ∃ err, (d.dispatchOne gw e organizerOnly state pair).result = .error err ∧
          d.failure? gw e organizerOnly state pair = some ⟨pair.giver, err⟩) := by
  obtain ⟨err, hrequest, hone⟩ | ⟨r, err, next, hrequest, hsend, hone⟩ |
    ⟨r, next, hrequest, hsend, hone⟩ := dispatchOne_cases d gw e organizerOnly state pair
  · rw [hone]
    refine ⟨?_, .inr ⟨err, rfl, by rw [failure?, hrequest]⟩⟩
    simp [mails, hrequest, Except.toOption, Gateway.after]
  · rw [hone]
    refine ⟨?_, .inr ⟨_, rfl, by simp only [failure?, hrequest, hsend]⟩⟩
    simp [mails, hrequest, Except.toOption, Gateway.after, hsend]
  · rw [hone]
    refine ⟨?_, .inl ⟨rfl, by simp only [failure?, hrequest, hsend]⟩⟩
    simp [mails, hrequest, Except.toOption, Gateway.after, hsend]

/-- The failures are those of the pairs, each behind the mails for the pairs before it. -/
theorem failures_dispatchPairs (state : γ) (pairs : List Pair) :
    (d.dispatchPairs gw e organizerOnly state pairs).report.failures =
      pairs.zipIdx.filterMap fun tried =>
        d.failure? gw e organizerOnly
          (gw.after state (d.mails e organizerOnly (pairs.take tried.2))) tried.1 := by
  induction pairs generalizing state with
  | nil => rfl
  | cons pair rest ih =>
    obtain ⟨hgateway, hresult⟩ := dispatchOne_spec d gw e organizerOnly state pair
    -- the mail for the first pair comes before those for all others
    have hrest : (d.dispatchPairs gw e organizerOnly
        (d.dispatchOne gw e organizerOnly state pair).gateway rest).report.failures =
        (rest.zipIdx 1).filterMap fun tried =>
          d.failure? gw e organizerOnly
            (gw.after state (d.mails e organizerOnly ((pair :: rest).take tried.2))) tried.1 := by
      rw [ih, List.zipIdx_succ, List.filterMap_map, hgateway]
      refine List.filterMap_congr fun tried _ => ?_
      simp only [Function.comp_apply, List.take_succ_cons]
      rw [mails_cons pair (rest.take tried.2), Gateway.after_append]
    rw [dispatchPairs_cons, List.zipIdx_cons, List.filterMap_cons, ← hrest]
    rcases hresult with ⟨hok, hnone⟩ | ⟨err, herror, hsome⟩
    · simp only [hok, DispatchReport.count, List.take_zero, mails, List.filterMap_nil,
        Gateway.after, List.foldl_nil, hnone]
    · simp only [herror, DispatchReport.count, List.take_zero, mails, List.filterMap_nil,
        Gateway.after, List.foldl_nil, hsome]

/-- **A batch tries every pair, in order, and reports each once.** Whatever the exchange, the pairing
and the gateway, which may answer by all that it was handed before: the gateway is handed the mails that
can be written for the pairs and nothing else, and each is answered in the state that the mails before
it left. As many pairs are reported as sent as mails were taken. The failures are those of the pairs in
their order, each with its giver and its own error, as the gateway answered behind the mails for the
pairs before. And every pair is counted once. -/
theorem batch_tries_every_pair (d : Dispatcher) (gw : Gateway γ) (e : Exchange) (set : Pairing)
    (organizerOnly : Bool) (state : γ) :
    (d.dispatchAll gw e set organizerOnly state).calls.map Call.request =
        d.mails e organizerOnly set.pairs ∧
      gw.Takes state (d.dispatchAll gw e set organizerOnly state).calls
        (d.dispatchAll gw e set organizerOnly state).gateway ∧
      (d.dispatchAll gw e set organizerOnly state).report.sent =
        (d.dispatchAll gw e set organizerOnly state).calls.countP Call.isTaken ∧
      (d.dispatchAll gw e set organizerOnly state).report.failures =
        set.pairs.zipIdx.filterMap (fun tried =>
          d.failure? gw e organizerOnly
            (gw.after state (d.mails e organizerOnly (set.pairs.take tried.2))) tried.1) ∧
      (d.dispatchAll gw e set organizerOnly state).report.sent +
        (d.dispatchAll gw e set organizerOnly state).report.failures.length = set.size := by
  refine ⟨requests_dispatchPairs d gw e organizerOnly state set.pairs,
    dispatchPairs_takes state set.pairs, ?_, failures_dispatchPairs state set.pairs,
    attempted_dispatchPairs state set.pairs⟩
  refine (dispatchPairs_log d gw e organizerOnly state set.pairs).2.trans ?_
  rw [List.countP_map]
  rfl

end Dispatcher

end GiftExchange
