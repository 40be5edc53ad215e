import GiftExchange.Proofs.Conflicts
import GiftExchange.Proofs.Contact
import GiftExchange.Proofs.Validity

set_option autoImplicit false

/-! # Which problems are listed

What an exchange needs is said without its check: `Exchange.Sound` is all of it, and
`Exchange.breaches` counts how often the rule behind a problem is broken. The check finds nothing
exactly for a sound exchange, and lists every problem as often as its rule is broken. Each part of the
check has problems of its own kinds only, so a count over the whole list is a count over one part; the
walk over the participants is counted by induction, behind any identifiers seen before. -/

namespace GiftExchange

/-! ## Participants -/

namespace Participant

/-- A participant who has all that is needed, and no conflict with himself. -/
structure Sound (p : Participant) : Prop where
  id : p.id ≠ Id.nil
  name : Text.isBlank p.name = false
  nickname : Text.isBlank p.nickname = false
  email : Text.isBlank p.email = false
  address : Address.isWellFormed p.email = true
  conflicts : p.id ∉ p.conflicts

/-- What is wrong with a participant, whatever else is wrong. -/
def Has (p : Participant) : Defect → Prop
  | .nilId => p.id = Id.nil
  | .missingName id => id = p.id ∧ Text.isBlank p.name = true
  | .missingNickname id => id = p.id ∧ Text.isBlank p.nickname = true
  | .missingEmail id => id = p.id ∧ Text.isBlank p.email = true
  | .malformedEmail id => id = p.id ∧ Address.isWellFormed p.email = false
  | .selfConflict id => id = p.id ∧ p.id ∈ p.conflicts

/-- How many kinds of defects are looked for before this one. -/
def Defect.rank : Defect → Nat
  | .nilId => 0
  | .missingName _ => 1
  | .missingNickname _ => 2
  | .missingEmail _ => 3
  | .malformedEmail _ => 4
  | .selfConflict _ => 5

/-- The first of the defects that a participant has. -/
structure FirstDefect (p : Participant) (defect : Defect) : Prop where
  has : p.Has defect
  first : ∀ other, p.Has other → defect.rank ≤ other.rank

variable {p : Participant} {defect : Defect}

theorem defect?_eq_none_iff_sound : p.defect? = none ↔ p.Sound := by
  rw [defect?_eq_none_iff]
  constructor
  · rintro ⟨hid, hname, hnickname, hemail, haddress, hconflicts⟩
    exact ⟨hid, hname, hnickname, hemail, haddress, hconflicts⟩
  · rintro ⟨hid, hname, hnickname, hemail, haddress, hconflicts⟩
    exact ⟨hid, hname, hnickname, hemail, haddress, hconflicts⟩

theorem Sound.not_has (h : p.Sound) : ¬ p.Has defect := by
  obtain ⟨hid, hname, hnickname, hemail, haddress, hconflicts⟩ := h
  cases defect <;> simp [Has, hid, hname, hnickname, hemail, haddress, hconflicts]

theorem firstDefect_of_defect? (h : p.defect? = some defect) : p.FirstDefect defect := by
  unfold defect? at h
  split_ifs at h <;> cases h <;> refine ⟨by simp_all [Has], fun other hother => ?_⟩ <;>
    cases other <;> simp_all [Has, Defect.rank]

/-- A participant has one defect of each kind at most. -/
theorem FirstDefect.unique {other : Defect} (h : p.FirstDefect defect) (h' : p.FirstDefect other) :
    defect = other := by
  have hrank : defect.rank = other.rank :=
    Nat.le_antisymm (h.first other h'.has) (h'.first defect h.has)
  have hhas := h.has
  have hhas' := h'.has
  cases defect <;> cases other <;> simp_all [Has, Defect.rank]

theorem defect?_eq_some_iff : p.defect? = some defect ↔ p.FirstDefect defect := by
  refine ⟨firstDefect_of_defect?, fun h => ?_⟩
  cases hfound : p.defect? with
  | none => exact absurd h.has (defect?_eq_none_iff_sound.1 hfound).not_has
  | some found => rw [(firstDefect_of_defect? hfound).unique h]

end Participant

namespace Exchange

/-! ## The rules -/

/-- An exchange that can be drawn: nothing that is needed is blank, the organizer can be reached,
there are at least two participants, no two of them have one identifier, each of them is sound, and
their conflicts are with participants. -/
structure Sound (e : Exchange) : Prop where
  name : Text.isBlank e.name = false
  dateAndTime : Text.isBlank e.dateAndTime = false
  theme : Text.isBlank e.theme = false
  cost : Text.isBlank e.cost = false
  organizerName : Text.isBlank e.organizer.name = false
  contact : ∃ text, (e.organizer.email = some text ∨ e.organizer.phone = some text) ∧
    Text.isBlank text = false
  organizerEmail : ∀ text, e.organizer.email = some text → Text.isBlank text = false →
    Address.isWellFormed text = true
  two : 2 ≤ e.participants.length
  distinct : e.ids.Nodup
  participants : ∀ p ∈ e.participants, p.Sound
  conflicts : ∀ p ∈ e.participants, ∀ other ∈ p.conflicts, other ∈ e.ids

/-- The text that is needed under a name. -/
def neededText? (e : Exchange) : String → Option String
  | "name" => some e.name
  | "date_and_time" => some e.dateAndTime
  | "theme" => some e.theme
  | "cost" => some e.cost
  | "organizer_name" => some e.organizer.name
  | _ => none

/-- How often the rule that a problem names is broken. -/
def breaches (e : Exchange) : Problem → Nat
  | .missingField field => if (e.neededText? field).any Text.isBlank then 1 else 0
  | .missingOrganizerContact =>
    if e.organizer.email.all Text.isBlank ∧ e.organizer.phone.all Text.isBlank then 1 else 0
  | .malformedOrganizerEmail =>
    if e.organizer.email.any fun text => !Text.isBlank text && !Address.isWellFormed text then 1
    else 0
  | .tooFewParticipants required actual =>
    if e.participants.length < 2 ∧ required = 2 ∧ actual = e.participants.length then 1 else 0
  | .duplicateParticipant id => e.ids.count id - 1
  | .participant defect => e.participants.countP fun p => p.defect? = some defect
  | .foreignConflict holder other => e.participants.countP fun p =>
    p.id = holder ∧ other ∈ p.conflicts ∧ other ≠ p.id ∧ other ∉ e.ids

variable {e : Exchange}

/-! ## Blank texts -/

theorem count_missingField (fields : List (String × String)) (field : String) :
    ((fields.filter fun f => Text.isBlank f.2).map fun f => Problem.missingField f.1).count
        (.missingField field) =
      fields.countP fun f => f.1 == field && Text.isBlank f.2 := by
  rw [List.count, List.countP_map, List.countP_filter]
  refine List.countP_congr fun f _ => ?_
  simp

theorem count_fieldProblems (e : Exchange) (problem : Problem) :
    e.fieldProblems.count problem =
      match problem with
      | .missingField field => if (e.neededText? field).any Text.isBlank then 1 else 0
      | _ => 0 := by
  cases problem with
  | missingField field =>
    rw [fieldProblems, count_missingField]
    simp only [List.countP_cons, List.countP_nil]
    fun_cases neededText? e field with
    | case6 _ hname hdate htheme hcost horganizer =>
      simp [Ne.symm hname, Ne.symm hdate, Ne.symm htheme, Ne.symm hcost, Ne.symm horganizer]
    | _ => simp
  | _ => exact List.count_eq_zero_of_not_mem (by simp [fieldProblems])

theorem fieldProblems_eq_nil_iff :
    e.fieldProblems = [] ↔
      Text.isBlank e.name = false ∧ Text.isBlank e.dateAndTime = false ∧
        Text.isBlank e.theme = false ∧ Text.isBlank e.cost = false ∧
        Text.isBlank e.organizer.name = false := by
  simp [fieldProblems]

/-! ## The organizer's contact -/

theorem isWellFormed_trim (text : String) :
    Address.isWellFormed (Text.trim text) = Address.isWellFormed text := by
  rw [Address.isWellFormed, Text.toList_trim, Text.trimChars_trimChars, Address.isWellFormed]

theorem all_isBlank_iff {value : Option String} :
    value.all Text.isBlank = true ↔ contact value = none := by
  rw [contact_eq_none_iff, Option.all_eq_true]

/-- The organizer cannot be reached, or by telephone only, or has a mail address that is not blank;
only the first and the last can be a problem. -/
theorem contactProblems_cases (e : Exchange) :
    (e.organizer.email.all Text.isBlank = true ∧ e.organizer.phone.all Text.isBlank = true ∧
      e.contactProblems = [.missingOrganizerContact]) ∨
    (e.organizer.email.all Text.isBlank = true ∧ e.organizer.phone.all Text.isBlank = false ∧
      e.contactProblems = []) ∨
    (∃ text, e.organizer.email = some text ∧ Text.isBlank text = false ∧
      e.contactProblems =
        if Address.isWellFormed text then [] else [.malformedOrganizerEmail]) := by
  unfold contactProblems Organizer.contactEmail Organizer.contactPhone
  cases hemail : contact e.organizer.email with
  | none =>
    cases hphone : contact e.organizer.phone with
    | none => exact .inl ⟨all_isBlank_iff.2 hemail, all_isBlank_iff.2 hphone, rfl⟩
    | some found =>
      refine .inr (.inl ⟨all_isBlank_iff.2 hemail, ?_, rfl⟩)
      rw [← Bool.not_eq_true, all_isBlank_iff, hphone]
      simp
  | some found =>
    obtain ⟨text, htext, hblank, rfl⟩ := contact_eq_some_iff.1 hemail
    exact .inr (.inr ⟨text, htext, hblank, by simp only [isWellFormed_trim]⟩)

theorem any_eq_false_of_all {value : Option String} (bad : String → Bool)
    (h : value.all Text.isBlank = true) :
    (value.any fun text => !Text.isBlank text && bad text) = false := by
  cases value <;> simp_all

theorem count_contactProblems (e : Exchange) (problem : Problem) :
    e.contactProblems.count problem =
      match problem with
      | .missingOrganizerContact =>
        if e.organizer.email.all Text.isBlank ∧ e.organizer.phone.all Text.isBlank then 1 else 0
      | .malformedOrganizerEmail =>
        if e.organizer.email.any fun text => !Text.isBlank text && !Address.isWellFormed text then 1
        else 0
      | _ => 0 := by
  obtain ⟨hemail, hphone, heq⟩ | ⟨hemail, hphone, heq⟩ | ⟨text, hemail, hblank, heq⟩ :=
    contactProblems_cases e
  · rw [heq]
    cases problem <;> simp [hemail, hphone, any_eq_false_of_all _ hemail]
  · rw [heq]
    cases problem <;> simp [hphone, any_eq_false_of_all _ hemail]
  · rw [heq]
    cases hwell : Address.isWellFormed text <;> cases problem <;> simp [hemail, hblank, hwell]

theorem contactProblems_eq_nil_iff :
    e.contactProblems = [] ↔
      (∃ text, (e.organizer.email = some text ∨ e.organizer.phone = some text) ∧
        Text.isBlank text = false) ∧
      ∀ text, e.organizer.email = some text → Text.isBlank text = false →
        Address.isWellFormed text = true := by
  obtain ⟨hemail, hphone, heq⟩ | ⟨hemail, hphone, heq⟩ | ⟨text, hemail, hblank, heq⟩ :=
    contactProblems_cases e
  · rw [heq]
    rw [Option.all_eq_true] at hemail hphone
    refine iff_of_false (List.cons_ne_nil _ _) ?_
    rintro ⟨⟨text, htext | htext, hblank⟩, -⟩
    · simp [hemail text htext] at hblank
    · simp [hphone text htext] at hblank
  · rw [heq]
    rw [Option.all_eq_true] at hemail
    obtain ⟨text, htext, hblank⟩ := (Option.all_eq_false _ _).1 hphone
    refine iff_of_true rfl ⟨⟨text, .inr htext, hblank⟩, fun text htext hblank => ?_⟩
    simp [hemail text htext] at hblank
  · rw [heq]
    constructor
    · intro h
      refine ⟨⟨text, .inl hemail, hblank⟩, fun other hother _ => ?_⟩
      cases hemail.symm.trans hother
      simpa using h
    · rintro ⟨-, hwell⟩
      rw [if_pos (hwell text hemail hblank)]

/-! ## The number of participants -/

theorem count_countProblems (e : Exchange) (problem : Problem) :
    e.countProblems.count problem =
      match problem with
      | .tooFewParticipants required actual =>
        if e.participants.length < 2 ∧ required = 2 ∧ actual = e.participants.length then 1 else 0
      | _ => 0 := by
  unfold countProblems minParticipants
  by_cases hfew : e.participants.length < 2
  · rw [if_pos hfew, List.count_singleton]
    cases problem with
    | tooFewParticipants required actual =>
      simp [hfew, @eq_comm _ 2, @eq_comm _ e.participants.length]
    | _ => simp
  · cases problem <;> simp [hfew]

/-! ## Each participant -/

/-- Of an identifier, every occurrence is listed but the first one, and that one too if the identifier
was seen before. Of each participant the first defect is listed. -/
theorem count_memberProblems (seen : List Id) (ps : List Participant) (problem : Problem) :
    (memberProblems seen ps).count problem =
      match problem with
      | .duplicateParticipant id =>
        (ps.map Participant.id).count id - if id ∈ seen then 0 else 1
      | .participant defect => ps.countP fun p => p.defect? = some defect
      | _ => 0 := by
  induction ps generalizing seen with
  | nil => cases problem <;> simp [memberProblems]
  | cons p rest ih =>
    rw [memberProblems, List.count_append, List.count_append, ih]
    cases problem with
    | duplicateParticipant id =>
      have hdefect : (p.defect?.map Problem.participant).toList.count (.duplicateParticipant id) =
          0 := by
        cases p.defect? <;> simp
      dsimp only
      rw [hdefect, List.map_cons, List.count_cons]
      -- behind `p` the identifier of `p` counts as seen
      by_cases hid : p.id = id
      · subst hid
        by_cases hseen : p.id ∈ seen <;> simp [hseen, Nat.add_comm]
      · by_cases hseen : p.id ∈ seen <;> simp [hseen, hid, Ne.symm hid]
    | participant defect =>
      have hseen : (if p.id ∈ seen then [Problem.duplicateParticipant p.id] else []).count
          (.participant defect) = 0 := by
        split <;> simp
      have hdefect : (p.defect?.map Problem.participant).toList.count (.participant defect) =
          if p.defect? = some defect then 1 else 0 := by
        cases p.defect? <;> simp [List.count_singleton]
      dsimp only
      rw [hseen, hdefect, List.countP_cons, Nat.zero_add, Nat.add_comm]
      simp
    | _ => cases p.defect? <;> split <;> simp

/-! ## Conflicts with others -/

theorem count_foreignConflicts (members : List Id) (p : Participant) (problem : Problem) :
    (foreignConflicts members p).count problem =
      match problem with
      | .foreignConflict holder other =>
        if p.id = holder ∧ other ∈ p.conflicts ∧ other ≠ p.id ∧ other ∉ members then 1 else 0
      | _ => 0 := by
  cases problem with
  | foreignConflict holder other =>
    have hnodup : (foreignConflicts members p).Nodup := by
      refine List.Nodup.map ?_ (p.conflicts.nodup_toList.filter _)
      rintro _ _ ⟨⟩
      rfl
    have hmem : .foreignConflict holder other ∈ foreignConflicts members p ↔
        p.id = holder ∧ other ∈ p.conflicts ∧ other ≠ p.id ∧ other ∉ members := by
      simp only [foreignConflicts, List.mem_map, List.mem_filter, Problem.foreignConflict.injEq,
        Bool.and_eq_true, bne_iff_ne, Bool.not_eq_true', ← Bool.not_eq_true, List.contains_iff_mem]
      constructor
      · rintro ⟨_, ⟨hconflict, hother, hforeign⟩, hid, rfl⟩
        exact ⟨hid, hconflict, hother, hforeign⟩
      · rintro ⟨hid, hconflict, hother, hforeign⟩
        exact ⟨other, ⟨hconflict, hother, hforeign⟩, hid, rfl⟩
    rw [hnodup.count]
    simp only [hmem]
  | _ => exact List.count_eq_zero_of_not_mem (by simp [foreignConflicts])

theorem count_flatMap_foreignConflicts (members : List Id) (ps : List Participant)
    (problem : Problem) :
    (ps.flatMap (foreignConflicts members)).count problem =
      match problem with
      | .foreignConflict holder other => ps.countP fun p =>
        p.id = holder ∧ other ∈ p.conflicts ∧ other ≠ p.id ∧ other ∉ members
      | _ => 0 := by
  induction ps with
  | nil => cases problem <;> simp
  | cons p rest ih =>
    rw [List.flatMap_cons, List.count_append, count_foreignConflicts, ih]
    cases problem <;> simp [List.countP_cons, Nat.add_comm]

/-! ## The whole list -/

theorem problems_eq_nil_iff_sound : e.problems = [] ↔ e.Sound := by
  simp only [problems_eq_nil_iff, fieldProblems_eq_nil_iff, contactProblems_eq_nil_iff,
    Participant.defect?_eq_none_iff_sound, foreignConflicts_eq_nil_iff]
  constructor
  · rintro ⟨⟨hname, hdate, htheme, hcost, horganizer⟩, ⟨hcontact, hemail⟩, htwo, hnodup, hsound,
      hforeign⟩
    refine ⟨hname, hdate, htheme, hcost, horganizer, hcontact, hemail, htwo, hnodup, hsound, ?_⟩
    -- who has a conflict with himself takes part himself
    intro p hp other hother
    by_cases hself : other = p.id
    · exact hself ▸ List.mem_map_of_mem hp
    · exact hforeign p hp other hother hself
  · intro h
    exact ⟨⟨h.name, h.dateAndTime, h.theme, h.cost, h.organizerName⟩, ⟨h.contact, h.organizerEmail⟩,
      h.two, h.distinct, h.participants, fun p hp other hother _ => h.conflicts p hp other hother⟩

/-- **What is wrong is listed, and nothing else.** An exchange has no problems exactly if it is sound.
Every problem is listed as often as the rule that it names is broken: a blank text once; the organizer
once at most, who either cannot be reached or has a malformed address; an identifier once for every
occurrence behind its first; each participant who is not sound once, with the first of his defects; and
a conflict once for every participant who has it and neither is that person nor takes part with him. -/
theorem problems_are_breaches (e : Exchange) :
    (e.problems = [] ↔ e.Sound) ∧
      (∀ problem, e.problems.count problem = e.breaches problem) ∧
      e.problems.count .missingOrganizerContact + e.problems.count .malformedOrganizerEmail ≤ 1 ∧
      ∀ (p : Participant) (defect : Participant.Defect),
        p.defect? = some defect ↔ p.FirstDefect defect := by
  have hcount : ∀ problem, e.problems.count problem = e.breaches problem := by
    intro problem
    simp only [problems, List.count_append, count_fieldProblems, count_contactProblems,
      count_countProblems, count_memberProblems, count_flatMap_foreignConflicts]
    cases problem <;> simp [breaches, ids]
  refine ⟨problems_eq_nil_iff_sound, hcount, ?_, fun p defect => Participant.defect?_eq_some_iff⟩
  rw [hcount, hcount, breaches, breaches]
  by_cases hemail : e.organizer.email.all Text.isBlank = true
  · rw [any_eq_false_of_all _ hemail]
    split <;> simp
  · rw [if_neg fun hall => hemail hall.1]
    split <;> simp

/-- Two entries with one identifier; the first one lacks more than a nickname. -/
example :
    { Exchange.new (.ofNat 9) "Swap" ⟨"Olive", some "olive@", some "555-0100"⟩ with
      participants :=
        [⟨.ofNat 1, "Ann", "", "ann", .ofList [.ofNat 7, .ofNat 1], .none⟩,
          .new (.ofNat 1) "Ben" "ben" "ben@example.com"] : Exchange }.problems =
      [.missingField "date_and_time", .missingField "theme", .missingField "cost",
        .malformedOrganizerEmail, .participant (.missingNickname (.ofNat 1)),
        .duplicateParticipant (.ofNat 1), .foreignConflict (.ofNat 1) (.ofNat 7)] := by
  decide +kernel

end Exchange

end GiftExchange
