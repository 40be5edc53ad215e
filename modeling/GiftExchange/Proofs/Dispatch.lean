import GiftExchange.Mail.Dispatch
import GiftExchange.Proofs.Exchange
import GiftExchange.Proofs.Pairing
import Mathlib.Data.List.Forall2

set_option autoImplicit false

/-! # What a batch hands to the gateway

A request is the one mail that the exchange determines for a pair of members (`Dispatcher.mail`).
Handing over one pair has three outcomes: no request could be built, the gateway refused the mail,
or it took it (`dispatchOne_cases`). What a batch does follows by induction over the pairs: the
gateway is handed the mails one after the other and keeps its state between them (`Takes`), every
pair is counted once, as a mail that was taken or as a giver who was not reached, and the failures
are the refused mails, in order. -/

namespace GiftExchange

variable {γ : Type}

/-- The calls are mails that were handed to the gateway one after the other: each has the answer
that the gateway gives in the state that the mails before it left. -/
inductive Gateway.Takes (gw : Gateway γ) : γ → List Call → γ → Prop where
  | nil (state : γ) : gw.Takes state [] state
  | send {state next final : γ} {request : MailRequest} {answer : Except GatewayError Unit}
      {calls : List Call} (answered : gw.send state request = (answer, next))
      (rest : gw.Takes next calls final) : gw.Takes state (.send request answer :: calls) final

/-- The failure that a refused mail is reported as. -/
def Call.rejection? : Call → Option DispatchFailure
  | .send request (.error err) => some ⟨request.giver.id, .gateway request.giver.id err⟩
  | .send _ (.ok ()) => none
  | .render _ _ => none

/-- Whether the gateway took a mail that tells this giver. -/
def Call.tells (id : Id) : Call → Bool
  | .send request (.ok ()) => request.giver.id == id
  | .send _ (.error _) => false
  | .render _ _ => false

/-- The givers who were not told. -/
def DispatchReport.unreached (r : DispatchReport) : List Id :=
  r.failures.map DispatchFailure.giver

/-- The report with one more pair, told or not. -/
def DispatchReport.count (r : DispatchReport) (giver : Id) :
    Except DispatchError Unit → DispatchReport
  | .ok () => ⟨r.sent + 1, r.failures⟩
  | .error err => ⟨r.sent, ⟨giver, err⟩ :: r.failures⟩

/-- The same mail, showing the exchange at another stage. -/
def MailRequest.atStage (r : MailRequest) (stage : Stage) : MailRequest :=
  { r with exchange := { r.exchange with stage := stage } }

namespace Dispatcher

variable {d : Dispatcher} {gw : Gateway γ} {e : Exchange} {pair : Pair} {organizerOnly : Bool}

/-! ## Requests -/

/-- The mail to an address that tells a giver about a receiver. -/
def mail (d : Dispatcher) (e : Exchange) (giver receiver : Participant) (address : String) :
    MailRequest where
  templateGroup := (d.template e receiver).group
  templateName := (d.template e receiver).name
  format := (d.template e receiver).format
  exchange := shown (d.template e receiver).format e
  giver := giver
  receiver := receiver
  sender := ⟨some (d.template e receiver).senderName, d.senderAddress⟩
  replyTo := e.organizer.contactEmail.map fun a => ⟨some e.organizer.name, a⟩
  recipient := ⟨some giver.name, address⟩

theorem lookUp_eq_ok_iff {id : Id} {p : Participant} :
    lookUp e id = .ok p ↔ e.participant? id = some p := by
  rw [lookUp]
  cases e.participant? id <;> simp

/-- A request is built for two participants and an address, and it is their mail. -/
theorem request_eq_ok_iff {r : MailRequest} :
    d.request e pair organizerOnly = .ok r ↔
      ∃ giver receiver address, e.participant? pair.giver = some giver ∧
        e.participant? pair.receiver = some receiver ∧
        recipientAddress e giver organizerOnly = .ok address ∧
        r = d.mail e giver receiver address := by
  simp only [← lookUp_eq_ok_iff]
  unfold request
  cases lookUp e pair.giver with
  | error err => simp [bind, Except.bind]
  | ok giver =>
    cases lookUp e pair.receiver with
    | error err => simp [bind, Except.bind]
    | ok receiver =>
      cases haddress : recipientAddress e giver organizerOnly with
      | error err => simp [bind, Except.bind, haddress]
      | ok address => simp [bind, Except.bind, pure, Except.pure, haddress, mail, eq_comm]

/-- The request for a pair names participants with the identifiers of the pair. -/
theorem request_ids {r : MailRequest} (h : d.request e pair organizerOnly = .ok r) :
    e.participant? pair.giver = some r.giver ∧ e.participant? pair.receiver = some r.receiver ∧
      pair.ids = (r.giver.id, r.receiver.id) := by
  obtain ⟨giver, receiver, address, hgiver, hreceiver, -, rfl⟩ := request_eq_ok_iff.1 h
  refine ⟨hgiver, hreceiver, ?_⟩
  show (pair.giver, pair.receiver) = (giver.id, receiver.id)
  rw [(Exchange.mem_of_participant? hgiver).2, (Exchange.mem_of_participant? hreceiver).2]

/-- Where nobody gives twice, there is one request for each giver. -/
theorem request_unique {pairs : List Pair} (hgivers : (pairs.map Pair.giver).Nodup)
    {other : Pair} (hpair : pair ∈ pairs) (hother : other ∈ pairs) {r r' : MailRequest}
    (hr : d.request e pair organizerOnly = .ok r) (hr' : d.request e other organizerOnly = .ok r')
    (hsame : r'.giver = r.giver) : r' = r := by
  have hgiver : pair.giver = r.giver.id := congrArg Prod.fst (request_ids hr).2.2
  have hgiver' : other.giver = r'.giver.id := congrArg Prod.fst (request_ids hr').2.2
  have hpairs : other = pair := by
    apply List.inj_on_of_nodup_map hgivers hother hpair
    rw [hgiver, hgiver', hsame]
  rw [hpairs, hr] at hr'
  cases hr'
  rfl

/-- A mail that is not meant for the organizer goes to its giver. -/
theorem request_recipient {r : MailRequest} (h : d.request e pair false = .ok r) :
    r.recipient = ⟨some r.giver.name, r.giver.email⟩ := by
  obtain ⟨giver, receiver, address, -, -, haddress, rfl⟩ := request_eq_ok_iff.1 h
  cases haddress
  rfl

/-- A mail goes to its giver, or it is meant for the organizer and goes to the organizer's contact. -/
theorem recipientAddress_eq_ok_iff {giver : Participant} {address : String} :
    recipientAddress e giver organizerOnly = .ok address ↔
      if organizerOnly then e.organizer.contactEmail = some address else giver.email = address := by
  cases organizerOnly with
  | false => simp [recipientAddress]
  | true => cases hemail : e.organizer.contactEmail <;> simp [recipientAddress, hemail]

theorem exists_recipientAddress_iff {giver : Participant} :
    (∃ address, recipientAddress e giver organizerOnly = .ok address) ↔
      (organizerOnly = true → e.organizer.contactEmail.isSome = true) := by
  simp only [recipientAddress_eq_ok_iff, Option.isSome_iff_exists]
  cases organizerOnly with
  | false => simp
  | true => simp

/-- A request needs two members, and the organizer's address if it goes there. -/
theorem exists_request_iff :
    (∃ r, d.request e pair organizerOnly = .ok r) ↔
      pair.giver ∈ e.ids ∧ pair.receiver ∈ e.ids ∧
        (organizerOnly = true → e.organizer.contactEmail.isSome = true) := by
  constructor
  · rintro ⟨r, hr⟩
    obtain ⟨giver, receiver, address, hgiver, hreceiver, haddress, -⟩ := request_eq_ok_iff.1 hr
    refine ⟨Exchange.isMember_iff.1 ?_, Exchange.isMember_iff.1 ?_,
      exists_recipientAddress_iff.1 ⟨address, haddress⟩⟩
    · rw [Exchange.isMember, hgiver, Option.isSome_some]
    · rw [Exchange.isMember, hreceiver, Option.isSome_some]
  · rintro ⟨hgiver, hreceiver, hcontact⟩
    obtain ⟨giver, hgiver⟩ := Exchange.exists_participant? hgiver
    obtain ⟨receiver, hreceiver⟩ := Exchange.exists_participant? hreceiver
    obtain ⟨address, haddress⟩ := exists_recipientAddress_iff.2 hcontact
    exact ⟨_, request_eq_ok_iff.2 ⟨giver, receiver, address, hgiver, hreceiver, haddress, rfl⟩⟩

/-- Two members can always be written to. -/
theorem exists_request (hgiver : pair.giver ∈ e.ids) (hreceiver : pair.receiver ∈ e.ids) :
    ∃ r, d.request e pair false = .ok r :=
  exists_request_iff.2 ⟨hgiver, hreceiver, nofun⟩

theorem lookUp_of_not_mem {id : Id} (h : id ∉ e.ids) :
    lookUp e id = .error (.unknownParticipant id) := by
  rw [lookUp, Exchange.participant?_eq_none_iff.2 h]

/-- Why a pair is not written about to an organizer without address: a giver who does not take part
comes first, then such a receiver, and the missing address last. -/
def unmailable (e : Exchange) (pair : Pair) : DispatchError :=
  if pair.giver ∉ e.ids then .unknownParticipant pair.giver
  else if pair.receiver ∉ e.ids then .unknownParticipant pair.receiver
  else .organizerEmailMissing

theorem unmailable_of_members (hgiver : pair.giver ∈ e.ids) (hreceiver : pair.receiver ∈ e.ids) :
    unmailable e pair = .organizerEmailMissing := by
  rw [unmailable, if_neg (not_not.2 hgiver), if_neg (not_not.2 hreceiver)]

/-- Nobody can be written about to an organizer without address. -/
theorem request_of_no_contact (d : Dispatcher) (hcontact : e.organizer.contactEmail = none)
    (pair : Pair) : d.request e pair true = .error (unmailable e pair) := by
  unfold request unmailable
  by_cases hgiver : pair.giver ∈ e.ids
  · obtain ⟨giver, hgiver'⟩ := Exchange.exists_participant? hgiver
    rw [lookUp_eq_ok_iff.2 hgiver', if_neg (not_not.2 hgiver)]
    by_cases hreceiver : pair.receiver ∈ e.ids
    · obtain ⟨receiver, hreceiver'⟩ := Exchange.exists_participant? hreceiver
      rw [lookUp_eq_ok_iff.2 hreceiver', if_neg (not_not.2 hreceiver)]
      simp [recipientAddress, hcontact, bind, Except.bind]
    · rw [lookUp_of_not_mem hreceiver, if_pos hreceiver]
      rfl
  · rw [lookUp_of_not_mem hgiver, if_pos hgiver]
    rfl

/-- Stored pairs do not show in a mail, and the stage shows as it is. -/
theorem request_of_stored (d : Dispatcher) (e : Exchange) (set : Option Pairing) (stage : Stage)
    (pair : Pair) (organizerOnly : Bool) :
    d.request { e with assignments := set, stage := stage } pair organizerOnly =
      (d.request e pair organizerOnly).map (·.atStage stage) := by
  have hlookUp : ∀ id, lookUp { e with assignments := set, stage := stage } id = lookUp e id :=
    fun _ => rfl
  have haddress : ∀ giver,
      recipientAddress { e with assignments := set, stage := stage } giver organizerOnly =
        recipientAddress e giver organizerOnly := fun _ => rfl
  unfold request
  simp only [hlookUp, haddress, bind, Except.bind]
  cases lookUp e pair.giver with
  | error err => rfl
  | ok giver =>
    cases lookUp e pair.receiver with
    | error err => rfl
    | ok receiver =>
      dsimp only
      cases recipientAddress e giver organizerOnly <;> rfl

theorem request_of_stored_eq_ok {set : Option Pairing} {stage : Stage} {r : MailRequest}
    (h : d.request { e with assignments := set, stage := stage } pair organizerOnly = .ok r) :
    ∃ original, d.request e pair organizerOnly = .ok original ∧ r = original.atStage stage := by
  rw [request_of_stored] at h
  cases horiginal : d.request e pair organizerOnly with
  | error err =>
    rw [horiginal] at h
    cases h
  | ok original =>
    rw [horiginal] at h
    cases h
    exact ⟨original, rfl, rfl⟩

/-- What requests say of their pairs, the calls of the pairs say in the same order. -/
theorem map_eq_map_of_requests {β : Type} {f : Pair → β} {g : Call → β} {pairs : List Pair}
    {calls : List Call}
    (h : List.Forall₂ (fun pair call => d.request e pair organizerOnly = .ok call.request) pairs
      calls)
    (hfg : ∀ pair call, d.request e pair organizerOnly = .ok call.request → f pair = g call) :
    pairs.map f = calls.map g := by
  rw [← List.forall₂_eq_eq_eq, List.forall₂_map_left_iff, List.forall₂_map_right_iff]
  exact h.imp hfg

/-! ## One pair -/

/-- All that handing over one pair can come to. -/
theorem dispatchOne_cases (d : Dispatcher) (gw : Gateway γ) (e : Exchange) (organizerOnly : Bool)
    (state : γ) (pair : Pair) :
    (∃ err, d.request e pair organizerOnly = .error err ∧
      d.dispatchOne gw e organizerOnly state pair = ⟨.error err, state, [], []⟩) ∨
    (∃ r err next, d.request e pair organizerOnly = .ok r ∧
      gw.send state r = (.error err, next) ∧
      d.dispatchOne gw e organizerOnly state pair =
        ⟨.error (.gateway pair.giver err), next, [.send r (.error err)], []⟩) ∨
    (∃ r next, d.request e pair organizerOnly = .ok r ∧ gw.send state r = (.ok (), next) ∧
      d.dispatchOne gw e organizerOnly state pair =
        ⟨.ok (), next, [.send r (.ok ())],
          [.notificationSent e.id pair.giver organizerOnly]⟩) := by
  unfold dispatchOne
  cases hrequest : d.request e pair organizerOnly with
  | error err => exact .inl ⟨err, rfl, rfl⟩
  | ok r =>
    rcases hsend : gw.send state r with ⟨answer, next⟩
    cases answer with
    | error err => exact .inr (.inl ⟨r, err, next, rfl, hsend, by simp [hsend]⟩)
    | ok done => exact .inr (.inr ⟨r, next, rfl, hsend, by simp [hsend]⟩)

/-- Where no mail can be written, the gateway is left alone. -/
theorem dispatchOne_of_error {err : DispatchError} (h : d.request e pair organizerOnly = .error err)
    (gw : Gateway γ) (state : γ) :
    d.dispatchOne gw e organizerOnly state pair = ⟨.error err, state, [], []⟩ := by
  rw [dispatchOne, h]

/-- Where a mail can be written for a pair, the pair comes to what the gateway answers. -/
theorem dispatchOne_of_request {r : MailRequest} (h : d.request e pair organizerOnly = .ok r)
    (gw : Gateway γ) (state : γ) :
    (d.dispatchOne gw e organizerOnly state pair).calls = [.send r (gw.send state r).1] ∧
      (d.dispatchOne gw e organizerOnly state pair).result =
        (gw.send state r).1.mapError (.gateway pair.giver) := by
  simp only [dispatchOne, h]
  rcases gw.send state r with ⟨answer, next⟩
  cases answer with
  | error err => exact ⟨rfl, rfl⟩
  | ok done => exact ⟨rfl, rfl⟩

/-- A mail that is only looked at is the one that its giver would get. -/
theorem request_of_renderOne {state : γ} {call : Call}
    (hcall : call ∈ (d.renderOne gw e state pair).calls) :
    d.request e pair false = .ok call.request := by
  unfold renderOne at hcall
  cases hrequest : d.request e pair false with
  | error err => simp [hrequest] at hcall
  | ok r =>
    rcases hrender : gw.render state r with ⟨refusal | mail, next⟩
    · simp only [hrequest, hrender, List.mem_singleton] at hcall
      rw [hcall, Call.request]
    · simp only [hrequest, hrender, List.mem_singleton] at hcall
      rw [hcall, Call.request]

/-! ## A batch -/

/-- A batch begins with its first pair and goes on with the others where that pair left the
gateway. -/
theorem dispatchPairs_cons (d : Dispatcher) (gw : Gateway γ) (e : Exchange) (organizerOnly : Bool)
    (state : γ) (pair : Pair) (rest : List Pair) :
    d.dispatchPairs gw e organizerOnly state (pair :: rest) =
      ⟨(d.dispatchPairs gw e organizerOnly (d.dispatchOne gw e organizerOnly state pair).gateway
          rest).report.count pair.giver (d.dispatchOne gw e organizerOnly state pair).result,
        (d.dispatchPairs gw e organizerOnly (d.dispatchOne gw e organizerOnly state pair).gateway
          rest).gateway,
        (d.dispatchOne gw e organizerOnly state pair).calls ++
          (d.dispatchPairs gw e organizerOnly (d.dispatchOne gw e organizerOnly state pair).gateway
            rest).calls,
        (d.dispatchOne gw e organizerOnly state pair).events ++
          (d.dispatchPairs gw e organizerOnly (d.dispatchOne gw e organizerOnly state pair).gateway
            rest).events⟩ :=
  rfl

/-- The gateway's state goes from mail to mail, whatever it answers. -/
theorem dispatchPairs_takes (state : γ) (pairs : List Pair) :
    gw.Takes state (d.dispatchPairs gw e organizerOnly state pairs).calls
      (d.dispatchPairs gw e organizerOnly state pairs).gateway := by
  induction pairs generalizing state with
  | nil => exact .nil state
  | cons pair rest ih =>
    rw [dispatchPairs_cons]
    obtain ⟨err, -, hone⟩ | ⟨r, err, next, -, hsend, hone⟩ | ⟨r, next, -, hsend, hone⟩ :=
      dispatchOne_cases d gw e organizerOnly state pair
    · rw [hone]
      exact ih state
    · rw [hone]
      exact .send hsend (ih next)
    · rw [hone]
      exact .send hsend (ih next)

/-- Nothing is handed over but the requests for the pairs. -/
theorem exists_pair_of_call {state : γ} {pairs : List Pair} {call : Call}
    (hcall : call ∈ (d.dispatchPairs gw e organizerOnly state pairs).calls) :
    ∃ pair ∈ pairs, d.request e pair organizerOnly = .ok call.request := by
  induction pairs generalizing state with
  | nil => cases hcall
  | cons pair rest ih =>
    rw [dispatchPairs_cons] at hcall
    rcases List.mem_append.1 hcall with hone | hrest
    · refine ⟨pair, List.mem_cons_self, ?_⟩
      obtain ⟨err, -, heq⟩ | ⟨r, err, next, hrequest, -, heq⟩ | ⟨r, next, hrequest, -, heq⟩ :=
        dispatchOne_cases d gw e organizerOnly state pair
      · simp [heq] at hone
      · rw [heq, List.mem_singleton] at hone
        rwa [hone]
      · rw [heq, List.mem_singleton] at hone
        rwa [hone]
    · obtain ⟨p, hp, hrequest⟩ := ih hrest
      exact ⟨p, List.mem_cons_of_mem _ hp, hrequest⟩

/-- Every pair is either told or reported. -/
theorem attempted_dispatchPairs (state : γ) (pairs : List Pair) :
    (d.dispatchPairs gw e organizerOnly state pairs).report.attempted = pairs.length := by
  unfold DispatchReport.attempted
  induction pairs generalizing state with
  | nil => rfl
  | cons pair rest ih =>
    have hrest := ih (d.dispatchOne gw e organizerOnly state pair).gateway
    rw [dispatchPairs_cons, List.length_cons, ← hrest]
    cases (d.dispatchOne gw e organizerOnly state pair).result with
    | error err => rfl
    | ok done => exact Nat.add_right_comm _ _ _

/-- Every giver is told or reported as often as there are pairs for this giver. -/
theorem told_add_unreached (state : γ) (pairs : List Pair) (id : Id) :
    (d.dispatchPairs gw e organizerOnly state pairs).calls.countP (Call.tells id) +
        (d.dispatchPairs gw e organizerOnly state pairs).report.unreached.count id =
      (pairs.map Pair.giver).count id := by
  unfold DispatchReport.unreached
  induction pairs generalizing state with
  | nil => rfl
  | cons pair rest ih =>
    rw [dispatchPairs_cons, List.map_cons, List.count_cons]
    obtain ⟨err, -, hone⟩ | ⟨r, err, next, -, -, hone⟩ | ⟨r, next, hrequest, -, hone⟩ :=
      dispatchOne_cases d gw e organizerOnly state pair
    · simp only [hone, ← ih state, DispatchReport.count, List.nil_append, List.map_cons,
        List.count_cons]
      omega
    · simp only [hone, ← ih next, DispatchReport.count, List.singleton_append, List.map_cons,
        List.count_cons, List.countP_cons, Call.tells, Bool.false_eq_true, if_false]
      omega
    · have hid : pair.giver = r.giver.id := congrArg Prod.fst (request_ids hrequest).2.2
      simp only [hone, ← ih next, List.singleton_append, List.countP_cons, Call.tells, hid]
      exact Nat.add_right_comm _ _ _

/-- The givers who were not told are listed in the order of the pairs. -/
theorem unreached_sublist (state : γ) (pairs : List Pair) :
    (d.dispatchPairs gw e organizerOnly state pairs).report.unreached.Sublist
      (pairs.map Pair.giver) := by
  unfold DispatchReport.unreached
  induction pairs generalizing state with
  | nil => exact .slnil
  | cons pair rest ih =>
    have hrest := ih (d.dispatchOne gw e organizerOnly state pair).gateway
    rw [dispatchPairs_cons]
    cases (d.dispatchOne gw e organizerOnly state pair).result with
    | error err => exact hrest.cons_cons _
    | ok done => exact hrest.cons _

/-- A pair that a mail can be written for is one call, and its failure is the gateway's. -/
theorem dispatchPairs_of_requests (gw : Gateway γ) {pairs : List Pair}
    (h : ∀ pair ∈ pairs, ∃ r, d.request e pair organizerOnly = .ok r) (state : γ) :
    List.Forall₂ (fun pair call => d.request e pair organizerOnly = .ok call.request) pairs
        (d.dispatchPairs gw e organizerOnly state pairs).calls ∧
      (d.dispatchPairs gw e organizerOnly state pairs).report.failures =
        (d.dispatchPairs gw e organizerOnly state pairs).calls.filterMap Call.rejection? := by
  induction pairs generalizing state with
  | nil => exact ⟨.nil, rfl⟩
  | cons pair rest ih =>
    have hrest : ∀ pair ∈ rest, ∃ r, d.request e pair organizerOnly = .ok r :=
      fun p hp => h p (List.mem_cons_of_mem _ hp)
    rw [dispatchPairs_cons]
    obtain ⟨err, hrequest, -⟩ | ⟨r, err, next, hrequest, -, hone⟩ | ⟨r, next, hrequest, -, hone⟩ :=
      dispatchOne_cases d gw e organizerOnly state pair
    · -- there is a request for the pair, so it cannot have failed
      obtain ⟨r, hr⟩ := h pair List.mem_cons_self
      rw [hrequest] at hr
      cases hr
    · obtain ⟨hcalls, hfailures⟩ := ih hrest next
      have hid : pair.giver = r.giver.id := congrArg Prod.fst (request_ids hrequest).2.2
      rw [hone]
      refine ⟨.cons hrequest hcalls, ?_⟩
      show DispatchFailure.mk pair.giver (.gateway pair.giver err) :: _ = _
      rw [hfailures, hid]
      rfl
    · obtain ⟨hcalls, hfailures⟩ := ih hrest next
      rw [hone]
      exact ⟨.cons hrequest hcalls, hfailures⟩

/-- Where a mail can be written for every pair, all failures are the gateway's. -/
theorem gateway_of_failure (gw : Gateway γ) {pairs : List Pair}
    (h : ∀ pair ∈ pairs, ∃ r, d.request e pair organizerOnly = .ok r) (state : γ) :
    ∀ f ∈ (d.dispatchPairs gw e organizerOnly state pairs).report.failures,
      ∃ refusal, f.error = .gateway f.giver refusal := by
  rw [(dispatchPairs_of_requests gw h state).2]
  intro f hf
  obtain ⟨call, -, hcall⟩ := List.mem_filterMap.1 hf
  cases call with
  | send request answer =>
    cases answer with
    | error refusal =>
      cases hcall
      exact ⟨refusal, rfl⟩
    | ok done => cases hcall
  | render request answer => cases hcall

/-- Where no mail can be written, the gateway is left alone and everybody is reported. -/
theorem dispatchPairs_of_errors (gw : Gateway γ) {pairs : List Pair} {err : Pair → DispatchError}
    (h : ∀ pair ∈ pairs, d.request e pair organizerOnly = .error (err pair)) (state : γ) :
    (d.dispatchPairs gw e organizerOnly state pairs).calls = [] ∧
      (d.dispatchPairs gw e organizerOnly state pairs).gateway = state ∧
      (d.dispatchPairs gw e organizerOnly state pairs).report =
        ⟨0, pairs.map fun pair => ⟨pair.giver, err pair⟩⟩ := by
  induction pairs with
  | nil => exact ⟨rfl, rfl, rfl⟩
  | cons pair rest ih =>
    obtain ⟨hpair, hrest⟩ := List.forall_mem_cons.1 h
    obtain ⟨hcalls, hgateway, hreport⟩ := ih hrest
    rw [dispatchPairs_cons, dispatchOne_of_error hpair]
    exact ⟨hcalls, hgateway, by simp only [hreport, DispatchReport.count, List.map_cons]⟩

/-- The gateway is handed the requests that can be built, in the order of their pairs, whatever it
answers. -/
theorem requests_dispatchPairs (d : Dispatcher) (gw : Gateway γ) (e : Exchange)
    (organizerOnly : Bool) (state : γ) (pairs : List Pair) :
    (d.dispatchPairs gw e organizerOnly state pairs).calls.map Call.request =
      pairs.filterMap fun pair => (d.request e pair organizerOnly).toOption := by
  induction pairs generalizing state with
  | nil => rfl
  | cons pair rest ih =>
    rw [dispatchPairs_cons, List.filterMap_cons]
    obtain ⟨err, hrequest, hone⟩ | ⟨r, err, next, hrequest, -, hone⟩ |
      ⟨r, next, hrequest, -, hone⟩ := dispatchOne_cases d gw e organizerOnly state pair
    · simp only [hone, hrequest, Except.toOption, List.nil_append, ih]
    · simp only [hone, hrequest, Except.toOption, List.singleton_append, List.map_cons, ih]
      rfl
    · simp only [hone, hrequest, Except.toOption, List.singleton_append, List.map_cons, ih]
      rfl

/-- The same mails with the same answers make the same report, whichever gateway they come from. -/
theorem report_eq_of_calls_eq {γ' : Type} {gw : Gateway γ} {gw' : Gateway γ'} {state : γ}
    {state' : γ'} {pairs : List Pair}
    (h : (d.dispatchPairs gw' e organizerOnly state' pairs).calls =
      (d.dispatchPairs gw e organizerOnly state pairs).calls) :
    (d.dispatchPairs gw' e organizerOnly state' pairs).report =
      (d.dispatchPairs gw e organizerOnly state pairs).report := by
  induction pairs generalizing state state' with
  | nil => rfl
  | cons pair rest ih =>
    rw [dispatchPairs_cons, dispatchPairs_cons] at h ⊢
    cases hrequest : d.request e pair organizerOnly with
    | error err =>
      rw [dispatchOne_of_error hrequest, dispatchOne_of_error hrequest] at h ⊢
      simp only [ih h]
    | ok r =>
      obtain ⟨hcalls, hresult⟩ := dispatchOne_of_request hrequest gw state
      obtain ⟨hcalls', hresult'⟩ := dispatchOne_of_request hrequest gw' state'
      rw [hcalls, hcalls', List.singleton_append, List.singleton_append] at h
      obtain ⟨hcall, hrest⟩ := List.cons.inj h
      obtain ⟨-, hanswer⟩ := Call.send.inj hcall
      simp only [hresult, hresult', hanswer, ih hrest]

end Dispatcher

end GiftExchange
