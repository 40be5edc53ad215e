import GiftExchange.Proofs.Contact
import GiftExchange.Proofs.Errors

set_option autoImplicit false

/-! # The addresses on the mails that are handed over

Whatever an operation hands to the gateway was built behind the check, for settings that were
checked as well (`request_of_handsOver`). The checks trim what they look at. The organizer's address
is trimmed again where it is used; the sender's and the givers' addresses are handed over as they
were entered, so white space around them stays. -/

namespace GiftExchange

/-! ## What the checks say about addresses -/

theorem Participant.isWellFormed_email {p : Participant} (h : p.defect? = none) :
    Address.isWellFormed p.email = true := by
  by_contra hbad
  have hmalformed : (!Address.isWellFormed p.email) = true := by simpa using hbad
  rw [defect?, if_pos hmalformed] at h
  split_ifs at h

theorem Settings.isWellFormed_senderAddress {s : Settings} (h : s.defect? = none) :
    Address.isWellFormed s.senderAddress = true := by
  by_contra hbad
  have hmalformed : (!Address.isWellFormed s.senderAddress) = true := by simpa using hbad
  rw [defect?, if_pos hmalformed] at h
  split_ifs at h

theorem Exchange.isWellFormed_contactEmail {e : Exchange} (h : e.contactProblems = [])
    {address : String} (hcontact : e.organizer.contactEmail = some address) :
    Address.isWellFormed address = true := by
  by_contra hbad
  simp [contactProblems, hcontact, hbad] at h

namespace Service

variable {σ γ : Type} [RandomSource σ] {svc : Service σ} {gw : Gateway γ} {e : Exchange}
  {call : Call}

/-- The calls that the operations make for an exchange. -/
inductive HandsOver (svc : Service σ) (gw : Gateway γ) (e : Exchange) (call : Call) : Prop where
  | send {fuel : Nat} {state : γ} {out : Outcome σ γ DispatchReport}
      (h : svc.send fuel gw e state = some out) (hcall : call ∈ out.calls)
  | resend {givers : List Id} {state : γ} (hcall : call ∈ (svc.resend gw e givers state).calls)
  | organizerPreview {fuel : Nat} {avoid : Bool} {state : γ} {out : Outcome σ γ DispatchReport}
      (h : svc.organizerPreview fuel gw e avoid state = some out) (hcall : call ∈ out.calls)
  | preview {state : γ} (hcall : call ∈ (svc.preview gw e state).calls)

/-- What is handed over was built for an exchange without problems. -/
theorem request_of_handsOver (h : svc.HandsOver gw e call) :
    e.problems = [] ∧
      ∃ pair organizerOnly, svc.dispatcher.request e pair organizerOnly = .ok call.request := by
  cases h with
  | send hrun hcall =>
    obtain ⟨-, rfl⟩ | ⟨hsound, drawn, -, ⟨err, -, rfl⟩ | ⟨found, batch, -, rfl, rfl⟩⟩ :=
      send_cases hrun
    · cases hcall
    · cases hcall
    · obtain ⟨pair, -, hrequest⟩ := Dispatcher.exists_pair_of_call hcall
      exact ⟨hsound, pair, false, hrequest⟩
  | resend hcall =>
    rename_i givers state
    obtain ⟨-, heq⟩ | ⟨-, -, heq⟩ | ⟨hsound, set, batch, -, rfl, heq⟩ :=
      resend_cases svc gw e givers state
    · rw [heq] at hcall
      cases hcall
    · rw [heq] at hcall
      cases hcall
    · rw [heq] at hcall
      obtain ⟨pair, -, hrequest⟩ := Dispatcher.exists_pair_of_call hcall
      exact ⟨hsound, pair, false, hrequest⟩
  | organizerPreview hrun hcall =>
    obtain ⟨-, rfl⟩ | ⟨hsound, drawn, -, ⟨err, -, rfl⟩ | ⟨set, batch, -, rfl, rfl⟩⟩ :=
      organizerPreview_cases hrun
    · cases hcall
    · cases hcall
    · obtain ⟨pair, -, hrequest⟩ := Dispatcher.exists_pair_of_call hcall
      exact ⟨hsound, pair, true, hrequest⟩
  | preview hcall =>
    rename_i state
    obtain ⟨-, heq⟩ | ⟨hsound, first, second, rest, hne, -, posted, rfl, heq⟩ :=
      preview_cases svc gw e state
    · rw [heq] at hcall
      cases hcall
    · rw [heq] at hcall
      exact ⟨hsound, ⟨first.id, second.id, hne⟩, false, Dispatcher.request_of_renderOne hcall⟩

/-- **Addresses are handed over as they were entered.** With settings that were accepted, every mail
that an operation hands over has the sender's address just as the settings have it, and goes to a
participant's address just as it was entered, or to the address for replies. Trimmed, the sender's
and the recipient's address have the shape of an address; as they stand they have it exactly when
there is nothing to trim off. The address for replies has the shape as it stands. -/
theorem addresses_as_entered {settings : Settings} {source : σ}
    (hnew : Service.new settings source = .ok svc) (h : svc.HandsOver gw e call) :
    call.request.sender.address = settings.senderAddress ∧
      ((∃ p ∈ e.participants, call.request.recipient.address = p.email) ∨
        call.request.replyTo.map Mailbox.address = some call.request.recipient.address) ∧
      (∀ address ∈ [call.request.sender.address, call.request.recipient.address],
        Address.hasShape (Text.trim address).toList = true ∧
          (Address.hasShape address.toList = true ↔ Text.trim address = address)) ∧
      ∀ box, call.request.replyTo = some box → Address.hasShape box.address.toList = true := by
  obtain ⟨hdefect, rfl⟩ := new_eq_ok_iff.1 hnew
  obtain ⟨hsound, pair, organizerOnly, hrequest⟩ := request_of_handsOver h
  obtain ⟨-, hcontacts, -, -, hmembers, -⟩ := Exchange.problems_eq_nil_iff.1 hsound
  obtain ⟨giver, receiver, address, hgiver, -, haddress, hmail⟩ :=
    Dispatcher.request_eq_ok_iff.1 hrequest
  have hmember : giver ∈ e.participants := (Exchange.mem_of_participant? hgiver).1
  -- of these two only the organizer's address is trimmed before it is checked and used
  have hplace : giver.email = address ∨ e.organizer.contactEmail = some address := by
    rw [Dispatcher.recipientAddress_eq_ok_iff] at haddress
    cases organizerOnly with
    | false => exact .inl haddress
    | true => exact .inr haddress
  have hrecipient : Address.isWellFormed address = true := by
    rcases hplace with rfl | hcontact
    · exact Participant.isWellFormed_email (hmembers giver hmember)
    · exact Exchange.isWellFormed_contactEmail hcontacts hcontact
  rw [hmail]
  refine ⟨rfl, ?_, ?_, ?_⟩
  · rcases hplace with rfl | hcontact
    · exact .inl ⟨giver, hmember, rfl⟩
    · exact .inr (by simp [Dispatcher.mail, hcontact])
  · intro entered hentered
    have hwell : Address.isWellFormed entered = true := by
      rcases List.mem_pair.1 hentered with rfl | rfl
      · exact Settings.isWellFormed_senderAddress hdefect
      · exact hrecipient
    exact ⟨Address.hasShape_trim hwell, Address.hasShape_iff_trim hwell⟩
  · intro box hbox
    obtain ⟨contact, hcontact, rfl⟩ := Option.map_eq_some_iff.1 hbox
    exact hasShape_of_contact hcontact (Exchange.isWellFormed_contactEmail hcontacts hcontact)

/-- Two people, one of whom has a line break behind the address, and an organizer with white space
around it. -/
def paddedGuests : Exchange :=
  { gathering with
    organizer := ⟨"Olive", some " olive@example.com ", none⟩
    participants := [.new (.ofNat 1) "Ann" "ann" "ann@example.com\r\n",
      .new (.ofNat 2) "Ben" "ben" "ben@example.com"] }

/-- Settings with a blank behind the sender's address. -/
def paddedSettings : Settings := { plainSettings with senderAddress := "santa@example.com " }

/-- The line break reaches the gateway, and so does the blank behind the sender's address. -/
theorem padded_addresses_as_entered :
    ∃ svc call, Service.new paddedSettings (⟨[], 9⟩ : Listed) = .ok svc ∧
      svc.HandsOver fullMailbox paddedGuests call ∧
      call.request.sender.address = "santa@example.com " ∧
      call.request.recipient.address = "ann@example.com\r\n" ∧
      (∀ address ∈ [call.request.sender.address, call.request.recipient.address],
        Address.hasShape (Text.trim address).toList = true ∧
          Address.hasShape address.toList = false) ∧
      ∃ box, call.request.replyTo = some box ∧ Address.hasShape box.address.toList = true := by
  obtain ⟨svc, hnew, hsent⟩ : ∃ svc, Service.new paddedSettings (⟨[], 9⟩ : Listed) = .ok svc ∧
      ((svc.send 30 fullMailbox paddedGuests 0).bind fun out => out.calls.head?.map fun call =>
        (call.request.sender.address, call.request.recipient.address,
          call.request.replyTo.isSome)) =
        some ("santa@example.com ", "ann@example.com\r\n", true) :=
    ⟨_, new_eq_ok_iff.2 ⟨by decide +kernel, rfl⟩, by decide +kernel⟩
  obtain ⟨out, hsend, hhead⟩ := Option.bind_eq_some_iff.1 hsent
  obtain ⟨call, hcall, haddresses⟩ := Option.map_eq_some_iff.1 hhead
  simp only [Prod.mk.injEq] at haddresses
  obtain ⟨hsender, hrecipient, hreplies⟩ := haddresses
  have hover : svc.HandsOver fullMailbox paddedGuests call := .send hsend (List.mem_of_head? hcall)
  obtain ⟨-, -, hshapes, hshape⟩ := addresses_as_entered hnew hover
  refine ⟨svc, call, hnew, hover, hsender, hrecipient, ?_, ?_⟩
  · intro address haddress
    obtain ⟨htrimmed, hiff⟩ := hshapes address haddress
    have hpadded : Text.trim address ≠ address := by
      rw [hsender, hrecipient] at haddress
      rcases List.mem_pair.1 haddress with rfl | rfl
      · decide +kernel
      · decide +kernel
    exact ⟨htrimmed, Bool.eq_false_iff.2 fun h => hpadded (hiff.1 h)⟩
  · obtain ⟨box, hbox⟩ := Option.isSome_iff_exists.1 hreplies
    exact ⟨box, hbox, hshape box hbox⟩

end Service

end GiftExchange
