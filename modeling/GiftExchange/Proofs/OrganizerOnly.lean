import GiftExchange.Proofs.Contact
import GiftExchange.Proofs.Service

set_option autoImplicit false

/-! # Mails that go to the organizer only

A mail that is meant for the organizer is the mail that the giver would get, with another address on
it (`Dispatcher.request_for_organizer`). So nothing of such a batch is addressed to a participant.
Without the organizer's address no mail can be written, so the gateway is left alone and every pair
is reported. -/

namespace GiftExchange

/-- The same mail to another address. -/
def MailRequest.sentTo (r : MailRequest) (address : String) : MailRequest :=
  { r with recipient := { r.recipient with address := address } }

namespace Dispatcher

variable {γ : Type} {d : Dispatcher} {gw : Gateway γ} {e : Exchange} {pair : Pair}

/-- What goes to the organizer is the giver's mail with the organizer's address on it. -/
theorem request_for_organizer {r : MailRequest} (h : d.request e pair true = .ok r) :
    ∃ address real, e.organizer.contactEmail = some address ∧
      d.request e pair false = .ok real ∧ r = real.sentTo address := by
  obtain ⟨giver, receiver, address, hgiver, hreceiver, haddress, rfl⟩ := request_eq_ok_iff.1 h
  exact ⟨address, d.mail e giver receiver giver.email, recipientAddress_eq_ok_iff.1 haddress,
    request_eq_ok_iff.2 ⟨giver, receiver, giver.email, hgiver, hreceiver, rfl, rfl⟩, rfl⟩

/-- **Organizer-only mails preview the real ones.** Whatever the exchange, the pairing and the
gateway: every mail that is handed over is addressed to the organizer's trimmed mail address. If the
organizer has no mail address, or a blank one, nothing is handed over, and every pair is reported: for
a giver who does not take part, else for a receiver who does not, and else for the missing address.
And where a mail to the organizer can be written for a pair, the mail to the giver can be, and the two
are the same but for the address. -/
theorem organizer_only_previews_real_mails (d : Dispatcher) (gw : Gateway γ) (e : Exchange)
    (set : Pairing) (state : γ) :
    (∀ call ∈ (d.dispatchAll gw e set true state).calls, ∃ email,
      e.organizer.email = some email ∧ Text.isBlank email = false ∧
        call.request.recipient.address = Text.trim email) ∧
    ((∀ email, e.organizer.email = some email → Text.isBlank email = true) →
      (d.dispatchAll gw e set true state).calls = [] ∧
      (d.dispatchAll gw e set true state).gateway = state ∧
      (d.dispatchAll gw e set true state).report =
        ⟨0, set.pairs.map fun pair => ⟨pair.giver,
          if pair.giver ∉ e.ids then .unknownParticipant pair.giver
          else if pair.receiver ∉ e.ids then .unknownParticipant pair.receiver
          else .organizerEmailMissing⟩⟩) ∧
    ∀ pair r, d.request e pair true = .ok r →
      ∃ real, d.request e pair false = .ok real ∧ r = real.sentTo r.recipient.address := by
  refine ⟨fun call hcall => ?_, fun hblank => ?_, fun pair r hr => ?_⟩
  · obtain ⟨pair, -, hrequest⟩ := exists_pair_of_call hcall
    obtain ⟨address, real, hcontact, -, hmail⟩ := request_for_organizer hrequest
    obtain ⟨email, hemail, hblank, rfl⟩ := contact_eq_some_iff.1 hcontact
    exact ⟨email, hemail, hblank, by rw [hmail, MailRequest.sentTo]⟩
  · have hcontact : e.organizer.contactEmail = none := contact_eq_none_iff.2 hblank
    exact dispatchPairs_of_errors gw (fun pair _ => request_of_no_contact d hcontact pair) state
  · obtain ⟨address, real, -, hreal, rfl⟩ := request_for_organizer hr
    exact ⟨real, hreal, rfl⟩

end Dispatcher

namespace Service

/-- Two people who were drawn, one of whom gave to somebody who has left, and one who has left. -/
def leftovers : Pairing :=
  (Pairing.ofIds [(.ofNat 1, .ofNat 2), (.ofNat 2, .ofNat 9), (.ofNat 8, .ofNat 7)]).toOption.getD
    .empty

/-- The organizer's address is padded in one exchange and blank in the other. -/
theorem organizer_only_previews_leftovers :
    let padded := { gathering with organizer := ⟨"Olive", some " olive@example.com\t", none⟩ }
    let blank := { gathering with organizer := ⟨"Olive", some " \n", some "555 0100"⟩ }
    ((plainService.dispatcher.dispatchAll fullMailbox padded leftovers true 0).calls.map
      fun call => call.request.recipient.address) = ["olive@example.com"] ∧
    (∀ call ∈ (plainService.dispatcher.dispatchAll fullMailbox padded leftovers true 0).calls,
      ∃ email, padded.organizer.email = some email ∧ Text.isBlank email = false ∧
        call.request.recipient.address = Text.trim email) ∧
    (∃ r real, plainService.dispatcher.request padded ⟨.ofNat 1, .ofNat 2, by decide⟩ true = .ok r ∧
      plainService.dispatcher.request padded ⟨.ofNat 1, .ofNat 2, by decide⟩ false = .ok real ∧
      real.recipient.address = "ann@example.com" ∧ r = real.sentTo r.recipient.address) ∧
    (plainService.dispatcher.dispatchAll fullMailbox blank leftovers true 0).report =
      ⟨0, [⟨.ofNat 1, .organizerEmailMissing⟩, ⟨.ofNat 2, .unknownParticipant (.ofNat 9)⟩,
        ⟨.ofNat 8, .unknownParticipant (.ofNat 8)⟩]⟩ := by
  intro padded blank
  obtain ⟨hcalls, -, hpreview⟩ := Dispatcher.organizer_only_previews_real_mails
    plainService.dispatcher fullMailbox padded leftovers 0
  obtain ⟨-, hblank, -⟩ := Dispatcher.organizer_only_previews_real_mails
    plainService.dispatcher fullMailbox blank leftovers 0
  obtain ⟨-, -, hreport⟩ := hblank (by rintro _ ⟨⟩; decide)
  refine ⟨by decide +kernel, hcalls, ?_, by rw [hreport]; decide +kernel⟩
  have hwritable : .ofNat 1 ∈ padded.ids ∧ .ofNat 2 ∈ padded.ids ∧
      (true = true → padded.organizer.contactEmail.isSome = true) := by decide +kernel
  obtain ⟨r, hr⟩ : ∃ r,
      plainService.dispatcher.request padded ⟨.ofNat 1, .ofNat 2, by decide⟩ true = .ok r :=
    Dispatcher.exists_request_iff.2 hwritable
  obtain ⟨real, hreal, hmail⟩ := hpreview _ r hr
  refine ⟨r, real, hr, hreal, ?_, hmail⟩
  rw [Dispatcher.request_recipient hreal]
  have hann : padded.participant? (.ofNat 1) =
      some (.new (.ofNat 1) "Ann" "ann" "ann@example.com") := by decide +kernel
  rw [(Dispatcher.request_ids hreal).1] at hann
  rw [Option.some.inj hann]
  rfl

end Service

end GiftExchange
