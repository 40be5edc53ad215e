import GiftExchange.Document.Exchange
import GiftExchange.Exchange.Problem
import GiftExchange.Proofs.Json.Decoder
import GiftExchange.Proofs.Reachable

set_option autoImplicit false

/-! # An exchange is read back from its document

What is written for every part of an exchange is read back as this part, so an exchange is read back
from its text. Of a pairing only the pairs are written. They are put together again, which succeeds
for every pairing that can be made; its indexes are made anew, and answer as the old ones did. -/

namespace GiftExchange

open Decoder Decoder.Shape

/-! ## Templates -/

theorem MailFormat.inverts_decode : Inverts decode toJson := by
  intro f
  cases f <;> rfl

theorem inverts_optional_string : Inverts (optional string) (Json.ofOption .string) :=
  inverts_string.optional fun _ => nofun

theorem TemplateOverrides.inverts_decode : Inverts decode toJson := by
  intro o
  have hformat : Inverts (optional MailFormat.decode) (Json.ofOption MailFormat.toJson) :=
    MailFormat.inverts_decode.optional fun _ => nofun
  have hfields : shape.Reads _ o :=
    ((((reads_pure mk).and
      (reads_field (inverts_optional_string o.senderName))).and
      (reads_field (hformat o.format))).and
      (reads_field (inverts_optional_string o.templateName))).and
      (reads_field (inverts_optional_string o.templateGroup))
  exact hfields.decode (by decide) (.refl _) false

/-! ## People -/

theorem Id.inverts_decode : Inverts Decoder.id toJson := by
  intro id
  have hstring : string id.toJson.toTree = .ok id.toText := inverts_string id.toText
  simp only [Decoder.id, hstring, ofText?_toText]

theorem inverts_idSet : Inverts idSet idSetToJson := by
  intro s
  have hlist : Decoder.list Decoder.id (idSetToJson s).toTree = .ok s.toList :=
    Id.inverts_decode.list s.toList
  rw [idSet, hlist]
  exact congrArg Except.ok s.ofList_toList

theorem Participant.inverts_decode : Inverts decode toJson := by
  intro p
  have hfields : shape.Reads _ p :=
    ((((((reads_pure mk).and
      (reads_field (Id.inverts_decode p.id))).and
      (reads_field (inverts_string p.name))).and
      (reads_field (inverts_string p.nickname))).and
      (reads_field (inverts_string p.email))).and
      (reads_field (inverts_idSet p.conflicts))).and
      (reads_field (TemplateOverrides.inverts_decode p.overrides))
  exact hfields.decode (by decide) (.refl _) false

theorem Organizer.inverts_decode : Inverts decode toJson := by
  intro o
  have hfields : shape.Reads _ o :=
    (((reads_pure mk).and
      (reads_field (inverts_string o.name))).and
      (reads_field (inverts_optional_string o.email))).and
      (reads_field (inverts_optional_string o.phone))
  exact hfields.decode (by decide) (.refl _) false

/-! ## Pairs -/

/-- What is written for a giver and a receiver is read as these two, who may be one person. -/
theorem Pair.shape_decode_ids (giver receiver : Id) :
    shape.decode false (Json.object [("giver", giver.toJson), ("receiver", receiver.toJson)]).toTree =
      .ok (giver, receiver) := by
  have hfields : shape.Reads _ (giver, receiver) :=
    ((reads_pure Prod.mk).and
      (reads_field (Id.inverts_decode giver))).and
      (reads_field (Id.inverts_decode receiver))
  exact hfields.decode (by decide) (.refl _) false

theorem Pair.inverts_decode : Inverts decode toJson := by
  intro p
  have hread : shape.decode false p.toJson.toTree = .ok (p.giver, p.receiver) :=
    shape_decode_ids p.giver p.receiver
  have hpair : Pair.of p.giver p.receiver = .ok p := dif_neg p.distinct
  rw [decode, hread]
  show (Pair.of p.giver p.receiver).mapError _ = _
  rw [hpair]
  rfl

theorem Stage.inverts_decode : Inverts decode toJson := by
  intro s
  cases s <;> rfl

namespace Pairing

/-- The same pairs, and the same answers to every question. -/
structure AnswersAs (read set : Pairing) : Prop where
  reachable : read.Reachable
  pairs : read.pairs = set.pairs
  pairOf? : ∀ id, read.pairOf? id = set.pairOf? id
  receiverOf? : ∀ id, read.receiverOf? id = set.receiverOf? id
  giverOf? : ∀ id, read.giverOf? id = set.giverOf? id
  hasGiver : ∀ id, read.hasGiver id = set.hasGiver id
  hasReceiver : ∀ id, read.hasReceiver id = set.hasReceiver id

/-- The pairs of a pairing that can be made are put together again. -/
theorem exists_decode {set : Pairing} (h : set.Reachable) :
    ∃ read, decode set.toJson.toTree = .ok read ∧ read.AnswersAs set := by
  obtain ⟨read, hread⟩ := h.indexed.exists_ofList
  obtain ⟨hindexed, hpairs⟩ := ofList_eq_ok hread
  have hlookups := h.indexed.lookups_congr hindexed hpairs
  refine ⟨read, ?_, .ofList hread, hpairs, fun id => (hlookups id).1, fun id => (hlookups id).2.1,
    fun id => (hlookups id).2.2.1, fun id => (hlookups id).2.2.2.1,
    fun id => (hlookups id).2.2.2.2⟩
  have hlist : Decoder.list Pair.decode set.toJson.toTree = .ok set.pairs :=
    Pair.inverts_decode.list set.pairs
  rw [decode, hlist]
  show (ofList set.pairs).mapError _ = _
  rw [hread]
  rfl

end Pairing

/-! ## Exchanges -/

namespace Exchange

theorem decode_of_stored {e : Exchange} {stored : Option Pairing}
    (h : optional Pairing.decode (Json.ofOption Pairing.toJson e.assignments).toTree = .ok stored) :
    decode e.toJson.toTree = .ok { e with assignments := stored } := by
  have hinfo : optional string (Json.ofOption .string e.extraInfo).toTree = .ok e.extraInfo :=
    inverts_optional_string e.extraInfo
  have hmembers : Decoder.list Participant.decode
      (Json.array (e.participants.map Participant.toJson)).toTree = .ok e.participants :=
    Participant.inverts_decode.list e.participants
  have hfields : shape.Reads _ { e with assignments := stored } :=
    (((((((((((reads_pure mk).and
      (reads_field (Id.inverts_decode e.id))).and
      (reads_field (inverts_string e.name))).and
      (reads_field (inverts_string e.dateAndTime))).and
      (reads_field (inverts_string e.theme))).and
      (reads_field (inverts_string e.cost))).and
      (reads_field hinfo)).and
      (reads_field (Organizer.inverts_decode e.organizer))).and
      (reads_field (TemplateOverrides.inverts_decode e.overrides))).and
      (reads_field hmembers)).and
      (reads_field h)).and
      (reads_field (Stage.inverts_decode e.stage))
  exact hfields.decode (by decide) (.refl _) false

/-- Exchanges are equal if they are but for their pairings and these are equal. -/
theorem beq_of_stored {e : Exchange} {stored : Option Pairing}
    (h : (stored == e.assignments) = true) :
    ({ e with assignments := stored } == e) = true := by
  -- the fields are compared one after the other
  show (e.id == e.id && (e.name == e.name && (e.dateAndTime == e.dateAndTime &&
    (e.theme == e.theme && (e.cost == e.cost && (e.extraInfo == e.extraInfo &&
    (e.organizer == e.organizer && (e.overrides == e.overrides &&
    (e.participants == e.participants && (stored == e.assignments &&
      e.stage == e.stage)))))))))) = true
  simp only [beq_self_eq_true, h, Bool.and_self]

/-- **Reading undoes writing.** For every exchange, valid or not, whose stored pairing, if there is
one, can be made: the text that is written for it is read, and the exchange that is read is equal to
the one that was written. It is the same in all fields but the pairing, which is there exactly if one
was written, has the same pairs, and answers every lookup as the old one. -/
theorem reading_undoes_writing {e : Exchange}
    (hmade : ∀ set, e.assignments = some set → set.Reachable) :
    ∃ read, ofText e.toText = .ok read ∧ (read == e) = true ∧
      read = { e with assignments := read.assignments } ∧
      Option.Rel Pairing.AnswersAs read.assignments e.assignments := by
  have hstored : ∃ stored,
      optional Pairing.decode (Json.ofOption Pairing.toJson e.assignments).toTree = .ok stored ∧
        (stored == e.assignments) = true ∧
        Option.Rel Pairing.AnswersAs stored e.assignments := by
    cases hset : e.assignments with
    | none => exact ⟨none, rfl, rfl, .none⟩
    | some set =>
      obtain ⟨read, hread, hanswers⟩ := Pairing.exists_decode (hmade set hset)
      refine ⟨some read, ?_, ?_, .some hanswers⟩
      · have hnull : set.toJson.toTree ≠ .null := nofun
        rw [Json.ofOption, optional_of_ne_null hnull, hread]
        rfl
      · show (read.pairs == set.pairs) = true
        rw [hanswers.pairs]
        exact beq_self_eq_true _
  obtain ⟨stored, hdecode, hequal, hanswers⟩ := hstored
  refine ⟨{ e with assignments := stored }, ?_, beq_of_stored hequal, rfl, hanswers⟩
  rw [ofText, toText, ofText_render]
  exact decode_of_stored hdecode

/-- Two people with one identifier, the first of whom must not give to himself, in an exchange with
quotes, a backslash, control characters and characters beyond the first plane in its texts. -/
def oddExchange : Exchange where
  id := .ofNat 0xfedcba98765432100123456789abcdef
  name := "a \"round\" of \\ gifts"
  dateAndTime := "\n\t\x01\x1f\x7f"
  theme := ""
  cost := "🎁 é"
  extraInfo := some "null"
  organizer := ⟨"", none, some ""⟩
  overrides := ⟨none, some .multipart, some "", none⟩
  participants :=
    [⟨.ofNat 1, "Ann", "", "ann", .ofList [.ofNat 2, .ofNat 1], .none⟩,
      ⟨.ofNat 1, "Ben", "ben", "", ∅, ⟨some "\r", none, none, some "/"⟩⟩]
  assignments := some Pairing.ringWithoutTwo
  stage := .sent

theorem reading_undoes_writing_oddly :
    (∀ set, oddExchange.assignments = some set → set.Reachable) ∧ oddExchange.problems ≠ [] ∧
      ∃ read set, ofText oddExchange.toText = .ok read ∧ (read == oddExchange) = true ∧
        read.assignments = some set ∧ set.receiverOf? (.ofNat 3) = some (.ofNat 1) ∧
        set.giverOf? (.ofNat 3) = none := by
  have hmade : ∀ set, oddExchange.assignments = some set → set.Reachable := by
    rintro set ⟨⟩
    exact .restrict (.offer (.offer (.offer (.offer .empty _) _) _) _) _
  obtain ⟨read, hread, hequal, -, hanswers⟩ := reading_undoes_writing hmade
  refine ⟨hmade, by decide +kernel, read, ?_⟩
  generalize hstored : read.assignments = stored at hanswers
  cases hanswers with
  | @some set _ hset =>
    refine ⟨set, hread, hequal, rfl, ?_, ?_⟩
    · rw [hset.receiverOf?]
      decide
    · rw [hset.giverOf?]
      decide

end Exchange

end GiftExchange
