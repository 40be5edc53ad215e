import GiftExchange.Proofs.Reachable
import GiftExchange.Proofs.Retry

set_option autoImplicit false

/-! # What a mail reveals

The exchange that a mail shows has its pairs taken out, and no other part of a mail is made from
them. So two exchanges that differ in their pairs only have the same mails. Telling some people
again depends on the pairs of these people, and on nothing else: whoever else gives to whom cannot
be told from what the gateway is handed. -/

namespace GiftExchange

/-! ## Mails -/

namespace Dispatcher

variable {γ : Type}

/-- Stored pairs do not show in a mail. -/
theorem request_of_pairs (d : Dispatcher) (e : Exchange) (pairs : Option Pairing) (pair : Pair)
    (organizerOnly : Bool) :
    d.request { e with assignments := pairs } pair organizerOnly = d.request e pair organizerOnly :=
  rfl

theorem dispatchPairs_of_pairs (d : Dispatcher) (gw : Gateway γ) (e : Exchange)
    (stored : Option Pairing) (organizerOnly : Bool) (state : γ) (pairs : List Pair) :
    d.dispatchPairs gw { e with assignments := stored } organizerOnly state pairs =
      d.dispatchPairs gw e organizerOnly state pairs := by
  induction pairs generalizing state with
  | nil => rfl
  | cons pair rest ih =>
    have hone : d.dispatchOne gw { e with assignments := stored } organizerOnly state pair =
        d.dispatchOne gw e organizerOnly state pair := by
      rw [dispatchOne, dispatchOne, request_of_pairs]
    rw [dispatchPairs_cons, dispatchPairs_cons, hone, ih]

end Dispatcher

namespace Service

variable {σ γ γ' : Type} {e : Exchange}

/-- Looking at one mail shows nothing of the stored pairs. -/
theorem preview_of_pairs (svc : Service σ) (gw : Gateway γ) (e : Exchange)
    (stored : Option Pairing) (state : γ) :
    svc.preview gw { e with assignments := stored } state =
      { svc.preview gw e state with exchange := { e with assignments := stored } } := by
  have hrender : ∀ pair, svc.dispatcher.renderOne gw { e with assignments := stored } state pair =
      svc.dispatcher.renderOne gw e state pair := fun pair => by
    rw [Dispatcher.renderOne, Dispatcher.renderOne, Dispatcher.request_of_pairs]
  unfold preview
  show (if e.problems ≠ [] then _ else _) = _
  by_cases hproblems : e.problems = []
  · rw [if_neg (not_not.2 hproblems), if_neg (not_not.2 hproblems)]
    dsimp only
    split
    · simp only [hrender]
      split <;> rfl
    · rfl
  · rw [if_pos hproblems, if_pos hproblems]
    rfl

/-- All that telling some people again can come to where pairs are stored: it is refused, or it is
the batch over the pairs of these people. -/
theorem resend_stored_cases (svc : Service σ) (gw : Gateway γ) {e : Exchange} {set : Pairing}
    (hset : e.assignments = some set) (givers : List Id) (state : γ) :
    (e.problems ≠ [] ∧
      svc.resend gw e givers state = refused svc e state (.validation e.problems)) ∨
    (e.problems = [] ∧ ∃ batch,
      batch = svc.dispatcher.dispatchAll gw e (set.restrict givers) false state ∧
      svc.resend gw e givers state =
        ⟨.ok batch.report, e, svc, batch.gateway, batch.calls, batch.events⟩) := by
  obtain hrefused | ⟨-, hnone, -⟩ | ⟨hproblems, found, batch, hfound, hbatch, heq⟩ :=
    resend_cases svc gw e givers state
  · exact .inl hrefused
  · rw [hset] at hnone
    cases hnone
  · rw [hset] at hfound
    cases hfound
    exact .inr ⟨hproblems, batch, hbatch, heq⟩

/-- What is handed over are the mails for the pairs of the people who are told again. -/
theorem requests_of_resend (svc : Service σ) (gw : Gateway γ) {set : Pairing}
    (hset : e.assignments = some set) (givers : List Id) (state : γ) :
    (svc.resend gw e givers state).calls.map Call.request =
      if e.problems = [] then
        (set.restrict givers).pairs.filterMap fun pair =>
          (svc.dispatcher.request e pair false).toOption
      else [] := by
  obtain ⟨hproblems, heq⟩ | ⟨hproblems, batch, rfl, heq⟩ :=
    resend_stored_cases svc gw hset givers state
  · rw [heq, if_neg hproblems]
    rfl
  · rw [heq, if_pos hproblems]
    exact Dispatcher.requests_dispatchPairs _ _ _ _ _ _

section Alike

variable {set set' : Pairing} {givers : List Id}

/-- Telling people again does the same for pairings that have the same pairs for them. -/
theorem resend_of_pairs (svc : Service σ) (gw : Gateway γ) (hset : e.assignments = some set)
    (hpairs : (set'.restrict givers).pairs = (set.restrict givers).pairs) (state : γ) :
    svc.resend gw { e with assignments := some set' } givers state =
      { svc.resend gw e givers state with exchange := { e with assignments := some set' } } := by
  have hbatch : svc.dispatcher.dispatchAll gw { e with assignments := some set' }
      (set'.restrict givers) false state =
        svc.dispatcher.dispatchAll gw e (set.restrict givers) false state := by
    rw [Dispatcher.dispatchAll, Dispatcher.dispatchAll, hpairs, Dispatcher.dispatchPairs_of_pairs]
  obtain ⟨hproblems, heq⟩ | ⟨hproblems, batch, rfl, heq⟩ :=
    resend_stored_cases svc gw hset givers state <;>
  obtain ⟨hproblems', heq'⟩ | ⟨hproblems', batch', rfl, heq'⟩ :=
    resend_stored_cases svc gw (e := { e with assignments := some set' }) rfl givers state
  · rw [heq, heq']
    rfl
  · exact absurd hproblems' hproblems
  · exact absurd hproblems hproblems'
  · rw [heq, heq', hbatch]

/-- The report on the same mails with the same answers is the same. -/
theorem resend_result_of_calls {svc : Service σ} {gw : Gateway γ} {gw' : Gateway γ'} {state : γ}
    {state' : γ'} (hset : e.assignments = some set)
    (hpairs : (set'.restrict givers).pairs = (set.restrict givers).pairs)
    (hcalls : (svc.resend gw' { e with assignments := some set' } givers state').calls =
      (svc.resend gw e givers state).calls) :
    (svc.resend gw' { e with assignments := some set' } givers state').result =
      (svc.resend gw e givers state).result := by
  rw [resend_of_pairs svc gw' hset hpairs] at hcalls ⊢
  obtain ⟨hproblems, heq⟩ | ⟨hproblems, batch, rfl, heq⟩ :=
    resend_stored_cases svc gw hset givers state <;>
  obtain ⟨hproblems', heq'⟩ | ⟨hproblems', batch', rfl, heq'⟩ :=
    resend_stored_cases svc gw' hset givers state'
  · rw [heq, heq']
    rfl
  · exact absurd hproblems' hproblems
  · exact absurd hproblems hproblems'
  · rw [heq, heq'] at hcalls ⊢
    exact congrArg Except.ok (Dispatcher.report_eq_of_calls_eq hcalls)

end Alike

/-- **A mail reveals no other pair.** Let two exchanges differ in their stored pairs only. Then every
request is the same for both, to whomever it goes, and looking at one mail comes to the same. Telling
some people again, where both exchanges have pairs and agree about the receivers of these people,
hands the same requests to any gateways, in the same order; gateways that answer them alike lead to
the same report; and one gateway leads to the same in everything but the exchange. -/
theorem mails_reveal_no_other_pairs {e' : Exchange}
    (h : e' = { e with assignments := e'.assignments }) (svc : Service σ) :
    (∀ (d : Dispatcher) (pair : Pair) (organizerOnly : Bool),
      d.request e' pair organizerOnly = d.request e pair organizerOnly) ∧
    (∀ (gw : Gateway γ) (state : γ),
      svc.preview gw e' state = { svc.preview gw e state with exchange := e' }) ∧
    ∀ set set' : Pairing, set.Reachable → set'.Reachable →
      e.assignments = some set → e'.assignments = some set' →
      ∀ givers : List Id, (∀ id ∈ givers, set'.receiverOf? id = set.receiverOf? id) →
        (∀ (gw : Gateway γ) (gw' : Gateway γ') (state : γ) (state' : γ'),
          (svc.resend gw' e' givers state').calls.map Call.request =
            (svc.resend gw e givers state).calls.map Call.request ∧
          ((svc.resend gw' e' givers state').calls = (svc.resend gw e givers state).calls →
            (svc.resend gw' e' givers state').result = (svc.resend gw e givers state).result)) ∧
        ∀ (gw : Gateway γ) (state : γ),
          svc.resend gw e' givers state =
            { svc.resend gw e givers state with exchange := e' } := by
  generalize e'.assignments = stored at h ⊢
  subst h
  refine ⟨fun d => Dispatcher.request_of_pairs d e stored,
    fun gw => preview_of_pairs svc gw e stored, ?_⟩
  rintro set set' hreach hreach' hset rfl givers hagree
  have hpairs : (set'.restrict givers).pairs = (set.restrict givers).pairs :=
    hreach.indexed.restrict_pairs_congr hreach'.indexed hagree
  refine ⟨fun gw gw' state state' => ⟨?_, resend_result_of_calls hset hpairs⟩,
    fun gw => resend_of_pairs svc gw hset hpairs⟩
  rw [requests_of_resend svc gw hset, resend_of_pairs svc gw' hset hpairs]
  exact requests_of_resend svc gw' hset givers state'

/-- An exchange of four people with the pairs `set`. -/
def foursome (set : Pairing) : Exchange :=
  { gathering with
    participants := threeFriends ++ [.new (.ofNat 4) "Dan" "dan" "dan@example.com"]
    assignments := some set }

/-- The people numbered 1 and 3 have the same receivers in a ring and in two mutual pairs, so telling
them again looks the same; a stranger and a repetition among the givers change nothing. -/
theorem mails_reveal_no_other_pairs_of_four :
    Pairing.mutualPairs.Reachable ∧ Pairing.ringOfFour.Reachable ∧
      Pairing.ringOfFour.receiverOf? (.ofNat 2) ≠ Pairing.mutualPairs.receiverOf? (.ofNat 2) ∧
      ((plainService.resend fullMailbox (foursome Pairing.mutualPairs)
        [.ofNat 3, .ofNat 7, .ofNat 1, .ofNat 3] 0).calls.map fun c =>
          (c.request.giver.id, c.request.receiver.id)) =
        [(.ofNat 3, .ofNat 4), (.ofNat 1, .ofNat 2)] ∧
      (plainService.resend slowMailbox (foursome Pairing.ringOfFour)
        [.ofNat 3, .ofNat 7, .ofNat 1, .ofNat 3] 0).calls.map Call.request =
      (plainService.resend fullMailbox (foursome Pairing.mutualPairs)
        [.ofNat 3, .ofNat 7, .ofNat 1, .ofNat 3] 0).calls.map Call.request := by
  have hmutual : Pairing.mutualPairs.Reachable := .offer (.offer (.offer (.offer .empty _) _) _) _
  have hring : Pairing.ringOfFour.Reachable := .offer (.offer (.offer (.offer .empty _) _) _) _
  have hagree : ∀ id ∈ [Id.ofNat 3, .ofNat 7, .ofNat 1, .ofNat 3],
      Pairing.ringOfFour.receiverOf? id = Pairing.mutualPairs.receiverOf? id := by
    decide
  have hsame : foursome Pairing.ringOfFour =
      { foursome Pairing.mutualPairs with
        assignments := (foursome Pairing.ringOfFour).assignments } := rfl
  refine ⟨hmutual, hring, by decide, by decide +kernel, ?_⟩
  exact (((mails_reveal_no_other_pairs hsame plainService).2.2 Pairing.mutualPairs
    Pairing.ringOfFour hmutual hring rfl rfl _ hagree).1 fullMailbox slowMailbox 0 0).1

end Service

end GiftExchange
