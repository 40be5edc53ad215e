import GiftExchange.Proofs.Stage
import GiftExchange.Proofs.Validity
import Mathlib.Data.List.Induction

set_option autoImplicit false

/-! # The participants as a map in the order of additions

The list of participants is searched from the front, and every edit looks for its identifier first.
Behind any edits it is therefore a map from identifiers (`Records`): under an identifier stands what
was last put there and not removed since, and the identifiers stand in the order of their additions.
What is put changes in two ways only, by edits in place and by losing the conflicts with people who
are removed. -/

namespace GiftExchange

theorem Exchange.participants_markStarted (e : Exchange) :
    e.markStarted.participants = e.participants := by
  unfold markStarted
  split <;> rfl

namespace Edit

/-! ## Edits one at a time -/

/-- A participant who is changed in place stays under the same identifier. -/
def KeepsId : Edit → Prop
  | .change id f => ∀ p : Participant, p.id = id → (f p).id = id
  | _ => True

/-- The participant that an edit puts into the list. -/
def put? : Edit → Option Participant
  | .add p | .replace p => some p
  | _ => none

/-- Whether an edit takes the participant with an identifier out. -/
def removes (id : Id) : Edit → Bool
  | .remove other => other == id
  | _ => false

/-- Whether an edit decides anew who stands under an identifier. -/
def settles (id : Id) (edit : Edit) : Bool :=
  edit.removes id || edit.put?.any (·.id == id)

/-- What becomes of a participant by an edit that does not decide about this one. -/
def revise (p : Participant) : Edit → Participant
  | .remove other => p.removeConflict other
  | .change id f => if id = p.id then f p else p
  | _ => p

/-- What becomes of the lookup of an identifier. -/
def entry (id : Id) (found : Option Participant) (edit : Edit) : Option Participant :=
  if edit.settles id then edit.put? else found.map edit.revise

/-- The identifiers that were added and not taken out later, in the order of their additions. -/
def joined : List Edit → List Id
  | [] => []
  | .add p :: later => if later.any (removes p.id) then joined later else p.id :: joined later
  | _ :: later => joined later

theorem settles_of_put? {edit : Edit} {id : Id} {p : Participant} (hput : edit.put? = some p)
    (hid : p.id = id) : edit.settles id = true := by
  simp [settles, hput, hid]

theorem id_of_settles {edit : Edit} {id : Id} {p : Participant} (h : edit.settles id = true)
    (hput : edit.put? = some p) : p.id = id := by
  cases edit with
  | remove other => cases hput
  | _ => simpa [settles, removes, hput] using h

variable {e : Exchange} {edit : Edit} {id : Id}

/-- An edit that is refused leaves the exchange as it is. -/
theorem apply_of_refused (h : (edit.perform e).1 = false) : edit.apply e = e := by
  cases edit with
  | describe | markStarted => cases h
  | add p =>
    obtain ⟨-, hadd⟩ | ⟨-, hadd⟩ := e.add_cases p
    · exact congrArg Prod.snd hadd
    · rw [perform, hadd] at h
      cases h
  | replace p =>
    obtain ⟨-, hreplace⟩ | ⟨-, hreplace⟩ := e.update_cases p.id fun _ => p
    · exact congrArg Prod.snd hreplace
    · rw [perform, Exchange.replace, hreplace] at h
      cases h
  | remove other =>
    obtain ⟨-, hremove⟩ | ⟨removed, -, hremove⟩ := e.remove_cases other
    · exact congrArg Prod.snd hremove
    · rw [perform, hremove] at h
      cases h
  | change other f =>
    obtain ⟨-, hupdate⟩ | ⟨-, hupdate⟩ := e.update_cases other f
    · exact congrArg Prod.snd hupdate
    · rw [perform, hupdate] at h
      cases h

/-- Only a new identifier is added. -/
theorem not_mem_of_add {p : Participant} (h : ((Edit.add p).perform e).1 = true) :
    p.id ∉ e.ids := by
  obtain ⟨-, hadd⟩ | ⟨hp, -⟩ := e.add_cases p
  · rw [perform, hadd] at h
    cases h
  · exact hp

/-- Only somebody who is there is replaced. -/
theorem mem_of_replace {p : Participant} (h : ((Edit.replace p).perform e).1 = true) :
    p.id ∈ e.ids := by
  by_contra hp
  have hrefused : (e.replace p).1 = false := Exchange.update_eq_false_iff.2 hp
  exact absurd (h.symm.trans hrefused) (by decide)

/-- Only somebody who is there is taken out. -/
theorem mem_of_remove (h : ((Edit.remove id).perform e).1 = true) : id ∈ e.ids := by
  by_contra hid
  rw [perform, Exchange.remove_eq_none_iff.2 hid] at h
  cases h

theorem participant?_apply (hkeeps : edit.KeepsId) (hnodup : e.ids.Nodup)
    (h : (edit.perform e).1 = true) (id : Id) :
    (edit.apply e).participant? id = edit.entry id (e.participant? id) := by
  have hsame : (edit.apply e).participants = e.participants →
      (edit.apply e).participant? id = (e.participant? id).map fun p => p := by
    intro heq
    rw [Exchange.participant?, heq, Option.map_id', Exchange.participant?]
  cases edit with
  | add p =>
    rw [apply, perform, Exchange.participant?_add (not_mem_of_add h), entry]
    by_cases hid : p.id = id <;> simp [settles, removes, put?, revise, hid]
  | replace p =>
    rw [apply, perform, Exchange.participant?_replace (mem_of_replace h), entry]
    by_cases hid : p.id = id <;> simp [settles, removes, put?, revise, hid]
  | remove other =>
    rw [apply, perform, Exchange.participant?_remove hnodup (mem_of_remove h), entry]
    by_cases hid : other = id <;> simp [settles, removes, put?, revise, hid]
  | change other f =>
    rw [apply, perform, Exchange.participant?_update hkeeps, entry]
    cases hfound : e.participant? id with
    | none =>
      by_cases hid : other = id
      · simp [settles, removes, put?, hid, hfound]
      · simp [settles, removes, put?, hid]
    | some p =>
      have hp := (Exchange.mem_of_participant? hfound).2
      by_cases hid : other = id
      · simp [settles, removes, put?, revise, hid, hfound, hp]
      · simp [settles, removes, put?, revise, hid, hp]
  | describe => exact hsame rfl
  | markStarted => exact hsame e.participants_markStarted

/-- Taking somebody out keeps the order of the others, and whoever is added comes last. -/
theorem ids_apply (hkeeps : edit.KeepsId) (hnodup : e.ids.Nodup) (h : (edit.perform e).1 = true) :
    (edit.apply e).ids = e.ids.filter (fun id => !edit.removes id) ++ joined [edit] := by
  cases edit with
  | add p =>
    rw [apply, perform, Exchange.ids_add (not_mem_of_add h)]
    simp [removes, joined]
  | replace p =>
    rw [apply, perform, Exchange.ids_replace]
    simp [removes, joined]
  | remove other =>
    rw [apply, perform, Exchange.ids_remove, hnodup.erase_eq_filter]
    simp [removes, joined, bne, BEq.comm]
  | change other f =>
    rw [apply, perform, Exchange.ids_update hkeeps]
    simp [removes, joined]
  | describe => simp [removes, joined, apply, perform, Exchange.ids]
  | markStarted =>
    simp [removes, joined, apply, perform, Exchange.ids, Exchange.participants_markStarted]

theorem nodup_ids_apply (hkeeps : edit.KeepsId) (hnodup : e.ids.Nodup)
    (h : (edit.perform e).1 = true) : (edit.apply e).ids.Nodup := by
  cases edit with
  | add p => exact Exchange.nodup_ids_add hnodup p
  | _ =>
    rw [ids_apply hkeeps hnodup h]
    simpa [joined] using hnodup.filter _

/-! ## Edits one after the other -/

/-- Those of some edits that are not refused, one applied after the other. -/
def accepted (e : Exchange) : List Edit → List Edit
  | [] => []
  | edit :: rest =>
    if (edit.perform e).1 then edit :: accepted (edit.apply e) rest
    else accepted (edit.apply e) rest

theorem joined_append (history : List Edit) (edit : Edit) :
    joined (history ++ [edit]) =
      (joined history).filter (fun id => !edit.removes id) ++ joined [edit] := by
  induction history with
  | nil => rfl
  | cons first rest ih =>
    cases first with
    | add p =>
      rw [List.cons_append, joined, joined, List.any_append, ih]
      by_cases hlater : rest.any (removes p.id) = true
      · simp [hlater]
      · by_cases hnow : edit.removes p.id = true
        · simp [hlater, hnow]
        · simp [hlater, hnow]
    | _ => exact ih

/-- What was last put under an identifier stands there, with the later changes of it, unless it was
taken out. -/
theorem foldl_entry_eq_some_iff {history : List Edit} {q : Participant} :
    history.foldl (entry id) none = some q ↔
      ∃ before put later p, history = before ++ put :: later ∧ put.put? = some p ∧ p.id = id ∧
        (∀ edit ∈ later, edit.settles id = false) ∧ q = later.foldl revise p := by
  -- the last edit either decides who stands there, or revises who stood there before it
  induction history using List.reverseRecOn generalizing q with
  | nil => simp
  | append_singleton history edit ih =>
    rw [List.foldl_append, List.foldl_cons, List.foldl_nil, entry]
    constructor
    · intro h
      by_cases hnow : edit.settles id = true
      · rw [if_pos hnow] at h
        exact ⟨history, edit, [], q, rfl, h, id_of_settles hnow h, by simp, rfl⟩
      · rw [if_neg hnow] at h
        obtain ⟨known, hknown, rfl⟩ := Option.map_eq_some_iff.1 h
        obtain ⟨before, put, later, p, rfl, hput, hid, hlater, rfl⟩ := ih.1 hknown
        refine ⟨before, put, later ++ [edit], p, by simp, hput, hid, ?_, by simp⟩
        rw [List.forall_mem_append, List.forall_mem_singleton]
        exact ⟨hlater, by simpa using hnow⟩
    · rintro ⟨before, put, later, p, hhistory, hput, hid, hlater, rfl⟩
      rcases List.eq_nil_or_concat' later with rfl | ⟨earlier, last, rfl⟩
      · obtain ⟨rfl, hlast⟩ := List.append_inj' hhistory rfl
        obtain rfl := List.singleton_inj.1 hlast
        rw [if_pos (settles_of_put? hput hid)]
        exact hput
      · have hsplit : history ++ [edit] = (before ++ put :: earlier) ++ [last] := by
          simpa using hhistory
        obtain ⟨rfl, hlast⟩ := List.append_inj' hsplit rfl
        obtain rfl := List.singleton_inj.1 hlast
        rw [List.forall_mem_append, List.forall_mem_singleton] at hlater
        have hknown := ih.2 ⟨before, put, earlier, p, rfl, hput, hid, hlater.1, rfl⟩
        simp [hlater.2, hknown]

/-- The exchange is the map that its history tells of. -/
structure Records (history : List Edit) (e : Exchange) : Prop where
  nodup : e.ids.Nodup
  order : e.ids = joined history
  found : ∀ id, e.participant? id = history.foldl (entry id) none

theorem Records.step {history : List Edit} (h : Records history e) (hkeeps : edit.KeepsId)
    (hdone : (edit.perform e).1 = true) : Records (history ++ [edit]) (edit.apply e) where
  nodup := nodup_ids_apply hkeeps h.nodup hdone
  order := by rw [ids_apply hkeeps h.nodup hdone, h.order, joined_append]
  found id := by
    rw [participant?_apply hkeeps h.nodup hdone, h.found, List.foldl_append]
    rfl

theorem Records.run {history edits : List Edit} (h : Records history e)
    (hkeeps : ∀ edit ∈ edits, edit.KeepsId) :
    Records (history ++ accepted e edits) (edits.foldl apply e) := by
  induction edits generalizing history e with
  | nil =>
    rw [accepted, List.append_nil]
    exact h
  | cons edit rest ih =>
    rw [List.forall_mem_cons] at hkeeps
    rw [List.foldl_cons, accepted]
    by_cases hdone : (edit.perform e).1 = true
    · have hnext := ih (h.step hkeeps.1 hdone) hkeeps.2
      rwa [if_pos hdone, List.append_cons]
    · -- what is refused is left out of the history, and changes nothing either
      rw [if_neg hdone, apply_of_refused (eq_false_of_ne_true hdone)]
      exact ih h hkeeps.2

end Edit

open Edit

/-- **The participants are a map in the order of additions.** Take a new exchange through any edits
that keep the identifiers of those whom they change, and let the history be those that were not
refused. No identifier occurs twice, so the check never says so. Under an identifier stands the
participant who was last put there, with the changes since, unless the identifier was taken out
since. The identifiers stand in the order of the additions that were not taken back; a replacement
keeps the places, and taking somebody out keeps the order of the others. Only a taken identifier
cannot be added, which is the problem that is told, only an unknown one cannot be replaced, removed
or changed, and an edit that is refused leaves the exchange as it is. -/
theorem participants_are_ordered_map (id : Id) (name : String) (organizer : Organizer)
    {edits : List Edit} (hkeeps : ∀ edit ∈ edits, edit.KeepsId) :
    let start := Exchange.new id name organizer
    let history := accepted start edits
    let e := edits.foldl apply start
    e.ids.Nodup ∧
      (∀ other, .duplicateParticipant other ∉ e.problems) ∧
      (∀ other q, e.participant? other = some q ↔
        ∃ before put later p, history = before ++ put :: later ∧ put.put? = some p ∧
          p.id = other ∧ (∀ edit ∈ later, edit.settles other = false) ∧ q = later.foldl revise p) ∧
      e.ids = joined history ∧
      (∀ p, (e.replace p).2.ids = e.ids) ∧
      (∀ other, (e.remove other).2.ids = e.ids.erase other) ∧
      (∀ p problems, (e.add p).1 = .error problems ↔
        p.id ∈ e.ids ∧ problems = [.duplicateParticipant p.id]) ∧
      (∀ p, (e.replace p).1 = false ↔ p.id ∉ e.ids) ∧
      (∀ other, (e.remove other).1 = none ↔ other ∉ e.ids) ∧
      (∀ other f, (e.update other f).1 = false ↔ other ∉ e.ids) ∧
      ∀ edit : Edit, (edit.perform e).1 = false → (edit.perform e).2 = e := by
  intro start history e
  have hempty : Records [] start := ⟨List.nodup_nil, rfl, fun _ => rfl⟩
  obtain ⟨hnodup, horder, hfound⟩ : Records history e := hempty.run hkeeps
  refine ⟨hnodup, Exchange.duplicateParticipant_not_mem hnodup, ?_, horder, e.ids_replace,
    e.ids_remove, fun _ _ => Exchange.add_eq_error_iff, fun _ => Exchange.update_eq_false_iff,
    fun _ => Exchange.remove_eq_none_iff, fun _ _ => Exchange.update_eq_false_iff,
    fun _ => apply_of_refused⟩
  intro other q
  rw [hfound]
  exact foldl_entry_eq_some_iff

/-- Edits of a group: Ann, who must not give to Ben, comes again in vain; Cat is replaced before she
is there; Ben is replaced, leaves twice and comes back behind Cat. -/
def comings : List Edit :=
  [.add (.new (.ofNat 1) "Ann" "ann" "ann@example.com"),
    .add (.new (.ofNat 2) "Ben" "ben" "ben@example.com"),
    .change (.ofNat 1) (·.addConflict (.ofNat 2)),
    .add (.new (.ofNat 1) "Ann" "again" "ann@example.com"),
    .replace (.new (.ofNat 3) "Cat" "early" "cat@example.com"),
    .add (.new (.ofNat 3) "Cat" "cat" "cat@example.com"),
    .replace (.new (.ofNat 2) "Ben" "benny" "ben@example.com"),
    .remove (.ofNat 2), .remove (.ofNat 2),
    .add (.new (.ofNat 2) "Ben" "back" "ben@example.com")]

/-- The group behind these edits. -/
def comers : Exchange :=
  comings.foldl apply (Exchange.new (.ofNat 9) "Winter" ⟨"Olive", none, none⟩)

/-- The edits of them that were not refused. -/
def comersHistory : List Edit :=
  accepted (Exchange.new (.ofNat 9) "Winter" ⟨"Olive", none, none⟩) comings

/-- Somebody with the identifier of Cat. -/
def dan : Participant := .new (.ofNat 3) "Dan" "dan" "dan@example.com"

/-- The history has seven of the ten edits; Ann stands first, without her conflict, and Ben last. Dan
cannot be added. -/
theorem participants_are_ordered_map_of_comings :
    (∀ edit ∈ comings, edit.KeepsId) ∧ comersHistory.length = 7 ∧
      comers.ids = [.ofNat 1, .ofNat 3, .ofNat 2] ∧ comers.ids = joined comersHistory ∧
      (∃ before put later p, comersHistory = before ++ put :: later ∧ put.put? = some p ∧
        (∀ edit ∈ later, edit.settles (.ofNat 1) = false) ∧
        later.foldl revise p = .new (.ofNat 1) "Ann" "ann" "ann@example.com") ∧
      (∀ other, .duplicateParticipant other ∉ comers.problems) ∧
      (comers.add dan).1 = .error [.duplicateParticipant (.ofNat 3)] ∧
      (Edit.add dan).perform comers = (false, comers) := by
  have hkeeps : ∀ edit ∈ comings, edit.KeepsId := by
    simp [comings, KeepsId, Participant.addConflict_id]
  obtain ⟨-, hproblems, hfound, horder, -, -, hadd, -, -, -, hrefused⟩ :=
    participants_are_ordered_map (.ofNat 9) "Winter" ⟨"Olive", none, none⟩ hkeeps
  have hann : comers.participant? (.ofNat 1) =
      some (.new (.ofNat 1) "Ann" "ann" "ann@example.com") := by
    decide +kernel
  obtain ⟨before, put, later, p, hhistory, hput, -, hlater, hq⟩ := (hfound _ _).1 hann
  have herror : (comers.add dan).1 = .error [.duplicateParticipant (.ofNat 3)] :=
    (hadd dan _).2 ⟨by decide +kernel, rfl⟩
  have hfalse : ((Edit.add dan).perform comers).1 = false := by
    rw [perform, herror]
    rfl
  exact ⟨hkeeps, by decide +kernel, by decide +kernel, horder,
    ⟨before, put, later, p, hhistory, hput, hlater, hq.symm⟩, hproblems, herror,
    Prod.ext hfalse (hrefused (.add dan) hfalse)⟩

end GiftExchange
