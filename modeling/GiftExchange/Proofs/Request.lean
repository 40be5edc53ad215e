import GiftExchange.Document.Mail
import GiftExchange.Proofs.Contact
import GiftExchange.Proofs.Service

set_option autoImplicit false

/-! # What a mail is made of

The template of a mail to a giver is set by the first of the receiver, the exchange and the settings that
says anything (`FirstSet`), and the group by the exchange or the settings. The rest is fixed by the
settings, the exchange and the two participants (`MailRequest.MadeFor`). The giver's own overrides are
read nowhere: with other ones the same mail is written, and they show where the giver shows. -/

namespace GiftExchange

/-! ## Levels -/

/-- The value of the first level that sets one. -/
def FirstSet {α : Type} (levels : List (Option α)) (a : α) : Prop :=
  ∃ before behind, levels = before ++ some a :: behind ∧ ∀ level ∈ before, level = none

section Levels

variable {α : Type} {levels : List (Option α)} {a b : α}

theorem firstSet_none : FirstSet (none :: levels) a ↔ FirstSet levels a := by
  constructor
  · rintro ⟨before, behind, hlevels, hnone⟩
    cases before with
    | nil => cases hlevels
    | cons level before =>
      cases hlevels
      exact ⟨before, behind, rfl, (List.forall_mem_cons.1 hnone).2⟩
  · rintro ⟨before, behind, rfl, hnone⟩
    exact ⟨none :: before, behind, rfl, List.forall_mem_cons.2 ⟨rfl, hnone⟩⟩

theorem firstSet_some : FirstSet (some b :: levels) a ↔ a = b := by
  constructor
  · rintro ⟨before, behind, hlevels, hnone⟩
    cases before with
    | nil =>
      cases hlevels
      rfl
    | cons level before =>
      cases hlevels
      cases hnone _ List.mem_cons_self
  · rintro rfl
    exact ⟨[], levels, rfl, by simp⟩

/-- The fallback is one more level. -/
theorem firstSet_firstPresent (levels : List (Option α)) (fallback : α) :
    FirstSet (levels ++ [some fallback]) (firstPresent levels fallback) := by
  induction levels with
  | nil => exact firstSet_some.2 rfl
  | cons level levels ih =>
    cases level with
    | none => exact firstSet_none.2 ih
    | some a => exact firstSet_some.2 rfl

end Levels

/-! ## The context -/

/-- The object with another value under one of its keys. -/
def Json.replace (v : Json) (key : String) (value : Json) : Json :=
  match v with
  | .object members => .object (members.map fun m => if m.1 = key then (key, value) else m)
  | other => other

namespace Exchange

theorem replace_assignments (e : Exchange) :
    e.toJson.replace "assignments" .null = { e with assignments := none }.toJson := rfl

theorem replace_extraInfo (e : Exchange) (text : String) :
    e.toJson.replace "extra_info" (.string text) = { e with extraInfo := some text }.toJson := rfl

end Exchange

/-- A mail in this format shows the text wrapped: it is plain, and the text is set and not blank. -/
def MailFormat.Wraps (format : MailFormat) (e : Exchange) (text : String) : Prop :=
  format = .plaintext ∧ e.extraInfo = some text ∧ Text.isBlank text = false

namespace Dispatcher

variable {d : Dispatcher} {e : Exchange} {format : MailFormat} {text : String}

theorem shown_of_wraps (h : format.Wraps e text) :
    shown format e =
      { e with assignments := none, extraInfo := some (Text.wrap text 75 "\r\n") } := by
  obtain ⟨rfl, htext, hblank⟩ := h
  simp [shown, htext, hblank, Text.mailWidth, Text.mailEnding]

theorem shown_of_not_wraps (h : ∀ text, ¬ format.Wraps e text) :
    shown format e = { e with assignments := none } := by
  have hinfo : (shown format e).extraInfo = e.extraInfo := by
    cases htext : e.extraInfo with
    | none => simp [shown, htext]
    | some text =>
      have hkept : ¬ (format = .plaintext ∧ Text.isBlank text = false) :=
        fun hw => h text ⟨hw.1, htext, hw.2⟩
      simp [shown, htext, hkept]
  exact congrArg (fun info => { e with assignments := none, extraInfo := info }) hinfo

end Dispatcher

/-! ## Whole requests -/

/-- What a mail that tells a giver about a receiver is made of. -/
structure MailRequest.MadeFor (r : MailRequest) (s : Settings) (e : Exchange)
    (giver receiver : Participant) : Prop where
  /-- The sender's name is overridden, the sender's address is not. -/
  sender : ∃ name, r.sender = ⟨some name, s.senderAddress⟩ ∧
    FirstSet [receiver.overrides.senderName, e.overrides.senderName, some s.senderName] name
  format : FirstSet [receiver.overrides.format, e.overrides.format, some s.defaultFormat] r.format
  templateName : FirstSet
    [receiver.overrides.templateName, e.overrides.templateName, some s.defaultTemplateName]
    r.templateName
  /-- The group passes the receiver by. -/
  templateGroup : FirstSet [e.overrides.templateGroup, some s.templateGroup] r.templateGroup
  recipient : r.recipient = ⟨some giver.name, giver.email⟩
  replyTo : ∀ box, r.replyTo = some box ↔ ∃ email, e.organizer.email = some email ∧
    Text.isBlank email = false ∧ box = ⟨some e.organizer.name, Text.trim email⟩
  context : ∃ exchange : Json,
    r.context = .object [("exchange", exchange),
      ("assignment", .object [("giver", giver.toJson), ("receiver", receiver.toJson)])] ∧
    (∀ text, r.format.Wraps e text →
      exchange = (e.toJson.replace "assignments" .null).replace "extra_info"
        (.string (Text.wrap text 75 "\r\n"))) ∧
    ((∀ text, ¬ r.format.Wraps e text) → exchange = e.toJson.replace "assignments" .null)

/-- The participant with other overrides. -/
def Participant.withOverrides (p : Participant) (overrides : TemplateOverrides) : Participant :=
  { p with overrides := overrides }

/-- The mail as it shows its giver with other overrides. -/
def MailRequest.withGiverOverrides (r : MailRequest) (overrides : TemplateOverrides) :
    MailRequest :=
  { r with
    giver := r.giver.withOverrides overrides
    exchange := { r.exchange with
      participants :=
        Exchange.updateFirst r.giver.id (·.withOverrides overrides) r.exchange.participants } }

namespace Dispatcher

variable {s : Settings} {d : Dispatcher} {e : Exchange} {pair : Pair}
  {giver receiver : Participant}

theorem ofSettings_eq_ok_iff :
    ofSettings s = .ok d ↔ s.defect? = none ∧ d = ⟨s.mailTemplate, s.senderAddress⟩ := by
  unfold ofSettings
  cases s.defect? with
  | none => simp [eq_comm]
  | some defect => simp

theorem madeFor_mail (s : Settings) (e : Exchange) (giver receiver : Participant) :
    (mail ⟨s.mailTemplate, s.senderAddress⟩ e giver receiver giver.email).MadeFor s e giver
      receiver where
  sender := ⟨_, rfl, firstSet_firstPresent [_, _] _⟩
  format := firstSet_firstPresent [_, _] _
  templateName := firstSet_firstPresent [_, _] _
  templateGroup := firstSet_firstPresent [_] _
  recipient := rfl
  replyTo box := by
    show e.organizer.contactEmail.map (fun a => (⟨some e.organizer.name, a⟩ : Mailbox)) = some box ↔ _
    simp only [Option.map_eq_some_iff, Organizer.contactEmail, contact_eq_some_iff]
    constructor
    · rintro ⟨_, ⟨email, hemail, hblank, rfl⟩, rfl⟩
      exact ⟨email, hemail, hblank, rfl⟩
    · rintro ⟨email, hemail, hblank, rfl⟩
      exact ⟨_, ⟨email, hemail, hblank, rfl⟩, rfl⟩
  context := by
    refine ⟨_, rfl, fun text hwraps => ?_, fun hkept => ?_⟩
    · rw [Exchange.replace_assignments, Exchange.replace_extraInfo]
      exact congrArg Exchange.toJson (shown_of_wraps hwraps)
    · rw [Exchange.replace_assignments]
      exact congrArg Exchange.toJson (shown_of_not_wraps hkept)

/-- With other overrides of its giver the mail is the same, but for what it shows of the giver. -/
theorem request_withGiverOverrides {r : MailRequest} (hr : d.request e pair false = .ok r)
    (overrides : TemplateOverrides) :
    ∃ e', e.update pair.giver (·.withOverrides overrides) = (true, e') ∧
      d.request e' pair false = .ok (r.withGiverOverrides overrides) := by
  obtain ⟨giver, receiver, address, hgiver, hreceiver, haddress, rfl⟩ := request_eq_ok_iff.1 hr
  cases haddress
  have hmember : pair.giver ∈ e.ids :=
    Exchange.isMember_iff.1 (Option.isSome_iff_exists.2 ⟨giver, hgiver⟩)
  have hsame : ∀ p : Participant, p.id = pair.giver → (p.withOverrides overrides).id = pair.giver :=
    fun _ hp => hp
  have hlookup := Exchange.participant?_update (e := e) hsame
  obtain ⟨hnobody, -⟩ | ⟨-, hedit⟩ := e.update_cases pair.giver (·.withOverrides overrides)
  · exact absurd hmember hnobody
  rw [hedit] at hlookup
  refine ⟨_, hedit, request_eq_ok_iff.2 ⟨giver.withOverrides overrides, receiver, giver.email,
    ?_, ?_, rfl, ?_⟩⟩
  · rw [hlookup, if_pos rfl, hgiver, Option.map_some]
  · -- nobody gives to himself, so the receiver is looked up as before
    rw [hlookup, if_neg pair.distinct, hreceiver]
  · rw [← (Exchange.mem_of_participant? hgiver).2]
    rfl

/-- **A mail is what its receiver's overrides, the exchange and the settings make it.** For settings that
were accepted and a pair of two participants of an exchange, the mail to the giver can be written. The
sender's name, the format and the name of the template come from the first of the receiver, the exchange
and the settings that sets them; the group comes from the exchange, or else from the settings. The mail is
sent from the settings' address to the giver's, and is answered to the organizer exactly if the organizer
has a mail address that is not blank. It shows both participants, and the exchange without drawn pairs,
with its free text wrapped exactly if the mail is plain and the text is set and not blank. With any other
overrides of the giver the mail would be the same, but for what it shows of the giver. -/
theorem mail_follows_receiver_first (hd : ofSettings s = .ok d)
    (hgiver : e.participant? pair.giver = some giver)
    (hreceiver : e.participant? pair.receiver = some receiver) :
    ∃ r, d.request e pair false = .ok r ∧ r.MadeFor s e giver receiver ∧
      ∀ overrides, ∃ e', e.update pair.giver (·.withOverrides overrides) = (true, e') ∧
        d.request e' pair false = .ok (r.withGiverOverrides overrides) := by
  obtain ⟨-, rfl⟩ := ofSettings_eq_ok_iff.1 hd
  have hr : request ⟨s.mailTemplate, s.senderAddress⟩ e pair false =
      .ok (mail ⟨s.mailTemplate, s.senderAddress⟩ e giver receiver giver.email) :=
    request_eq_ok_iff.2 ⟨giver, receiver, giver.email, hgiver, hreceiver, rfl, rfl⟩
  exact ⟨_, hr, madeFor_mail s e giver receiver, request_withGiverOverrides hr⟩

open Service

/-- A note that does not fit on one line of a mail. -/
def longNote : String :=
  "Gifts are opened after dinner,\nso bring yours wrapped, with the name of its receiver on it, not yours."

/-- Ann, with overrides of her own. -/
def annWithOverrides : Participant :=
  (Participant.new (.ofNat 1) "Ann" "ann" "ann@example.com").withOverrides
    ⟨some "Ann", some .multipart, some "card", some "ann"⟩

/-- Ben, who wants plain mails to be written about him. -/
def benWithOverrides : Participant :=
  (Participant.new (.ofNat 2) "Ben" "ben" "ben@example.com").withOverrides
    ⟨none, some .plaintext, some "gift", some "ben"⟩

/-- Three friends, where the exchange, Ann and Ben each set what they like. -/
def notedGathering : Exchange :=
  { gathering with
    extraInfo := some longNote
    overrides := ⟨some "Workshop", some .multipart, none, some "winter"⟩
    participants := [annWithOverrides, benWithOverrides,
      .new (.ofNat 3) "Cat" "cat" "cat@example.com"] }

/-- Ann gives to Ben. -/
def annToBen : Pair := ⟨annWithOverrides.id, benWithOverrides.id, by decide⟩

/-- Ann is told about Ben by the workshop, plainly as Ben asks, and with a template of the winter group;
what Ann likes herself does not matter. -/
theorem mail_to_ann_follows_ben :
    ∃ r, ofSettings plainSettings = .ok plainService.dispatcher ∧
      plainService.dispatcher.request notedGathering annToBen false = .ok r ∧
      r.sender = ⟨some "Workshop", "santa@example.com"⟩ ∧ r.format = .plaintext ∧
      r.templateName = "gift" ∧ r.templateGroup = "winter" ∧
      r.recipient = ⟨some "Ann", "ann@example.com"⟩ ∧
      r.replyTo = some ⟨some "Olive", "olive@example.com"⟩ ∧
      r.MadeFor plainSettings notedGathering annWithOverrides benWithOverrides ∧
      r.format.Wraps notedGathering longNote ∧
      ∃ e', notedGathering.update annToBen.giver (·.withOverrides .none) = (true, e') ∧
        plainService.dispatcher.request e' annToBen false = .ok (r.withGiverOverrides .none) := by
  have hd : ofSettings plainSettings = .ok plainService.dispatcher :=
    ofSettings_eq_ok_iff.2 ⟨by decide +kernel, rfl⟩
  have hann : notedGathering.participant? annToBen.giver = some annWithOverrides := by decide +kernel
  have hben : notedGathering.participant? annToBen.receiver = some benWithOverrides := by
    decide +kernel
  obtain ⟨r, hr, hmade, hsame⟩ := mail_follows_receiver_first hd hann hben
  obtain ⟨name, hsender, hname⟩ := hmade.sender
  have hname : name = "Workshop" := firstSet_some.1 (firstSet_none.1 hname)
  have hgroup : r.templateGroup = "winter" := firstSet_some.1 hmade.templateGroup
  have hreply : r.replyTo = some ⟨some "Olive", "olive@example.com"⟩ :=
    (hmade.replyTo _).2 ⟨"olive@example.com", rfl, by decide +kernel, by decide +kernel⟩
  have hformat : r.format = .plaintext := firstSet_some.1 hmade.format
  subst hname
  exact ⟨r, hd, hr, hsender, hformat, firstSet_some.1 hmade.templateName, hgroup, hmade.recipient, hreply,
    hmade, ⟨hformat, rfl, by decide +kernel⟩, hsame .none⟩

end Dispatcher

end GiftExchange
