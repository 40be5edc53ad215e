import GiftExchange.Proofs.Exchange
import GiftExchange.Proofs.Problems

set_option autoImplicit false

/-! # Somebody leaves

Who leaves an exchange is taken out of the list, and out of the conflicts of everybody else. Where no
identifier occurs twice, each participant who is left was one of the others and has lost one conflict at
most (`mem_participants_remove`). What is forbidden among the others therefore stays forbidden, no
conflict is left with somebody who is gone, and a sound exchange stays sound as long as two participants
are left. -/

namespace GiftExchange

namespace Participant

variable {p : Participant} {id other : Id}

theorem mem_conflicts_removeConflict :
    other ∈ (p.removeConflict id).conflicts ↔ other ∈ p.conflicts ∧ other ≠ id :=
  SortedSet.mem_erase

theorem Sound.removeConflict (h : p.Sound) : (p.removeConflict id).Sound where
  id := h.id
  name := h.name
  nickname := h.nickname
  email := h.email
  address := h.address
  conflicts hself := h.conflicts (mem_conflicts_removeConflict.1 hself).1

end Participant

namespace Exchange

/-- Every conflict of a participant is with a participant. -/
def Closed (e : Exchange) : Prop :=
  ∀ p ∈ e.participants, ∀ other ∈ p.conflicts, other ∈ e.ids

variable {e : Exchange} {id giver receiver : Id} {p : Participant}

/-- Who is left was one of the others, and has no conflict with the one who is gone. -/
theorem mem_participants_remove (hnodup : e.ids.Nodup) (hid : id ∈ e.ids) :
    p ∈ (e.remove id).2.participants ↔
      ∃ q ∈ e.participants, q.id ≠ id ∧ q.removeConflict id = p := by
  have hlookup : p ∈ (e.remove id).2.participants ↔
      (e.remove id).2.participant? p.id = some p := by
    rw [participant?_eq_some_iff (nodup_ids_remove hnodup id)]
    exact (and_iff_left rfl).symm
  rw [hlookup, participant?_remove hnodup hid]
  constructor
  · intro hfound
    split_ifs at hfound with hgone
    obtain ⟨q, hq, rfl⟩ := Option.map_eq_some_iff.1 hfound
    exact ⟨q, (mem_of_participant? hq).1, Ne.symm hgone, rfl⟩
  · rintro ⟨q, hq, hother, rfl⟩
    have hfound : e.participant? q.id = some q :=
      (participant?_eq_some_iff hnodup).2 ⟨hq, rfl⟩
    show (if id = q.id then none else (e.participant? q.id).map (·.removeConflict id)) = _
    rw [if_neg (Ne.symm hother), hfound, Option.map_some]

/-- What is forbidden behind a removal was forbidden before, and not for the one who is gone. -/
theorem forbids_remove (hnodup : e.ids.Nodup) (hid : id ∈ e.ids) :
    (e.remove id).2.conflicts.forbids giver receiver = true ↔
      e.conflicts.forbids giver receiver = true ∧ giver ≠ id ∧ receiver ≠ id := by
  simp only [conflicts, Conflicts.forbids_ofParticipants, mem_participants_remove hnodup hid]
  constructor
  · rintro ⟨_, ⟨q, hq, hgiver, rfl⟩, rfl, hreceiver⟩
    obtain ⟨hconflict, hother⟩ := Participant.mem_conflicts_removeConflict.1 hreceiver
    exact ⟨⟨q, hq, rfl, hconflict⟩, hgiver, hother⟩
  · rintro ⟨⟨q, hq, rfl, hconflict⟩, hgiver, hother⟩
    exact ⟨q.removeConflict id, ⟨q, hq, hgiver, rfl⟩, rfl,
      Participant.mem_conflicts_removeConflict.2 ⟨hconflict, hother⟩⟩

theorem Closed.remove (hclosed : e.Closed) (hnodup : e.ids.Nodup) (hid : id ∈ e.ids) :
    (e.remove id).2.Closed := by
  intro p hp other hother
  obtain ⟨q, hq, -, rfl⟩ := (mem_participants_remove hnodup hid).1 hp
  obtain ⟨hconflict, hne⟩ := Participant.mem_conflicts_removeConflict.1 hother
  rw [ids_remove]
  exact (List.mem_erase_of_ne hne).2 (hclosed q hq other hconflict)

theorem length_remove (hid : id ∈ e.ids) :
    (e.remove id).2.participants.length = e.participants.length - 1 := by
  have hlength := congrArg List.length (e.ids_remove id)
  rwa [List.length_erase_of_mem hid, ids, ids, List.length_map, List.length_map] at hlength

/-- A sound exchange stays sound exactly if two participants are left. -/
theorem Sound.remove_iff (hsound : e.Sound) (hid : id ∈ e.ids) :
    (e.remove id).2.Sound ↔ 3 ≤ e.participants.length := by
  have hlength := length_remove hid
  constructor
  · intro hsound'
    have htwo := hsound'.two
    omega
  · intro hthree
    have hclosed : e.Closed := hsound.conflicts
    have hmembers : ∀ p ∈ (e.remove id).2.participants, p.Sound := by
      intro p hp
      obtain ⟨q, hq, -, rfl⟩ := (mem_participants_remove hsound.distinct hid).1 hp
      exact (hsound.participants q hq).removeConflict
    have hdistinct : (e.remove id).2.ids.Nodup := nodup_ids_remove hsound.distinct id
    have hconflicts : (e.remove id).2.Closed := hclosed.remove hsound.distinct hid
    have htwo : 2 ≤ (e.remove id).2.participants.length := by omega
    -- nothing but the participants is another
    obtain ⟨ps, hremove⟩ := e.remove_eq_participants id
    rw [hremove] at hmembers hdistinct hconflicts htwo ⊢
    exact { hsound with
      two := htwo
      distinct := hdistinct
      participants := hmembers
      conflicts := hconflicts }

/-- **Somebody who leaves takes his own conflicts along, and no others.** Take an exchange in which no
identifier occurs twice, and one of its members. He can be removed, nothing but the participants
changes, and the others stay in their order. Behind that a giver must not give to a receiver exactly if
that was so before and neither of them is the one who is gone. Every other participant is there
as before, and has each of his conflicts but one with the one who is gone. If every conflict was with a
participant, it still is. And an exchange without problems still has none exactly if it had at least
three participants. -/
theorem removal_drops_own_conflicts (hnodup : e.ids.Nodup) (hid : id ∈ e.ids) :
    ∃ removed e', e.remove id = (some removed, e') ∧
      e.participant? id = some removed ∧ e' = { e with participants := e'.participants } ∧
      e'.ids = e.ids.erase id ∧
      (∀ giver receiver, e'.conflicts.forbids giver receiver = true ↔
        e.conflicts.forbids giver receiver = true ∧ giver ≠ id ∧ receiver ≠ id) ∧
      (∀ p ∈ e.participants, p.id ≠ id →
        ∃ p', e'.participant? p.id = some p' ∧ p' = { p with conflicts := p'.conflicts } ∧
          ∀ other, other ∈ p'.conflicts ↔ other ∈ p.conflicts ∧ other ≠ id) ∧
      (e.Closed → e'.Closed) ∧
      (e.problems = [] → (e'.problems = [] ↔ 3 ≤ e.participants.length)) := by
  obtain ⟨hnobody, -⟩ | ⟨removed, hremoved, hremove⟩ := e.remove_cases id
  · exact absurd hid hnobody
  have hanswer : (e.remove id).1 = some removed := by rw [hremove]
  obtain ⟨ps, hedited⟩ := e.remove_eq_participants id
  refine ⟨removed, (e.remove id).2, Prod.ext hanswer rfl, hremoved, by rw [hedited],
    e.ids_remove id, fun _ _ => forbids_remove hnodup hid, fun p hp hother => ?_,
    fun hclosed => hclosed.remove hnodup hid, fun hnone => ?_⟩
  · refine ⟨p.removeConflict id, ?_, rfl, fun _ => Participant.mem_conflicts_removeConflict⟩
    rw [participant?_remove hnodup hid, if_neg (Ne.symm hother),
      (participant?_eq_some_iff hnodup).2 ⟨hp, rfl⟩, Option.map_some]
  · rw [problems_eq_nil_iff_sound] at hnone ⊢
    exact hnone.remove_iff hid

/-- Three people, Ann and Ben and Cat. Ann and Cat must not give to anybody, and Ben not to Cat. -/
def feud : Exchange :=
  { Exchange.new (.ofNat 9) "Swap" ⟨"Olive", some "olive@example.com", none⟩ with
    dateAndTime := "Dec 20, 6pm"
    theme := "Books"
    cost := "$20"
    participants :=
      [⟨.ofNat 1, "Ann", "ann", "ann@example.com", .ofList [.ofNat 2, .ofNat 3], .none⟩,
        ⟨.ofNat 2, "Ben", "ben", "ben@example.com", .ofList [.ofNat 3], .none⟩,
        ⟨.ofNat 3, "Cat", "cat", "cat@example.com", .ofList [.ofNat 1, .ofNat 2], .none⟩] }

/-- When Ben leaves, Ann and Cat still must not give to each other, and nothing is wrong; when Cat
leaves as well, there are too few. -/
theorem removal_drops_own_conflicts_of_feud :
    feud.ids.Nodup ∧ Id.ofNat 2 ∈ feud.ids ∧ feud.problems = [] ∧ feud.Closed ∧
      ∃ ben left, feud.remove (.ofNat 2) = (some ben, left) ∧ ben.name = "Ben" ∧
        left.ids = [.ofNat 1, .ofNat 3] ∧
        left.conflicts.forbids (.ofNat 1) (.ofNat 3) = true ∧
        left.conflicts.forbids (.ofNat 3) (.ofNat 1) = true ∧
        left.conflicts.forbids (.ofNat 2) (.ofNat 3) = false ∧ left.Closed ∧ left.problems = [] ∧
        ∃ cat ann, left.remove (.ofNat 3) = (some cat, ann) ∧ ann.problems ≠ [] := by
  have hnodup : feud.ids.Nodup := by decide
  have hben : Id.ofNat 2 ∈ feud.ids := by decide
  have hproblems : feud.problems = [] := by decide +kernel
  have hclosed : feud.Closed := (problems_eq_nil_iff_sound.1 hproblems).conflicts
  obtain ⟨ben, left, hremove, hfound, -, hids, hforbids, -, hstays, hvalid⟩ :=
    removal_drops_own_conflicts hnodup hben
  have hpair : left.ids = [.ofNat 1, .ofNat 3] := by
    rw [hids]
    decide
  have hsound : left.problems = [] := (hvalid hproblems).2 (by decide)
  have hdistinct : left.ids.Nodup := by
    rw [hpair]
    decide
  have hcat : Id.ofNat 3 ∈ left.ids := by
    rw [hpair]
    decide
  obtain ⟨cat, ann, hagain, -, -, -, -, -, -, hfew⟩ := removal_drops_own_conflicts hdistinct hcat
  have htwo : left.participants.length = 2 := by
    rw [← List.length_map Participant.id, ← ids, hpair]
    rfl
  refine ⟨hnodup, hben, hproblems, hclosed, ben, left, hremove, ?_, hpair, ?_, ?_, ?_,
    hstays hclosed, hsound, cat, ann, hagain, fun hnone => ?_⟩
  · have hname : (feud.participant? (.ofNat 2)).map Participant.name = some "Ben" := by decide
    rw [hfound] at hname
    exact Option.some.inj hname
  · exact (hforbids _ _).2 (by decide)
  · exact (hforbids _ _).2 (by decide)
  · rw [Bool.eq_false_iff]
    exact fun h => ((hforbids _ _).1 h).2.1 rfl
  · have hthree := (hfew hsound).1 hnone
    omega

end Exchange

end GiftExchange
