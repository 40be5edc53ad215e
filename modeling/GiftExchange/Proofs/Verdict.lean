import GiftExchange.Proofs.Reachable
import GiftExchange.Proofs.Violation

set_option autoImplicit false

/-! # What the check of a pairing says

The check compares sizes and looks every member up on both sides; it never looks for outsiders. For
a pairing that can be made and a group without repeated members it still decides the rules as they
are meant. What it answers with is always true of what was checked (`Violation.Holds`), also for a
group in which somebody is listed twice: each of its parts is a lookup, and lookups say what the
list of pairs says. -/

namespace GiftExchange

/-- What a violation says of a pairing that was checked for the group `ids`. -/
def Violation.Holds (s : Pairing) (ids : List Id) (conflicts : Conflicts)
    (avoidReciprocal : Bool) : Violation → Prop
  | .sizeMismatch expected actual =>
    expected = ids.length ∧ actual = s.pairs.length ∧ expected ≠ actual
  | .missingReceiver id => id ∈ ids ∧ ∀ receiver, ¬ s.Gives id receiver
  | .missingGiver id => id ∈ ids ∧ ∀ giver, ¬ s.Gives giver id
  | .conflict giver receiver =>
    s.Gives giver receiver ∧ conflicts.forbids giver receiver = true
  | .reciprocalPair first second =>
    avoidReciprocal = true ∧ first ≠ second ∧ s.Gives first second ∧ s.Gives second first

namespace Pairing

variable {s : Pairing} {ids : List Id} {conflicts : Conflicts} {avoidReciprocal : Bool}

theorem mem_givers_iff {id : Id} :
    id ∈ s.pairs.map Pair.giver ↔ ∃ receiver, s.Gives id receiver := by
  simp only [List.mem_map, Gives]
  constructor
  · rintro ⟨p, hp, rfl⟩
    exact ⟨p.receiver, p, hp, rfl, rfl⟩
  · rintro ⟨receiver, p, hp, hgiver, -⟩
    exact ⟨p, hp, hgiver⟩

theorem mem_receivers_iff {id : Id} :
    id ∈ s.pairs.map Pair.receiver ↔ ∃ giver, s.Gives giver id := by
  simp only [List.mem_map, Gives]
  constructor
  · rintro ⟨p, hp, rfl⟩
    exact ⟨p.giver, p, hp, rfl, rfl⟩
  · rintro ⟨giver, p, hp, -, hreceiver⟩
    exact ⟨p, hp, hreceiver⟩

/-- Nobody stands twice on one side, so the sides are lists of the group when they have its
members. -/
theorem Indexed.keeps_iff_mem (h : s.Indexed) (hids : ids.Nodup) :
    s.Keeps ids conflicts avoidReciprocal ↔
      (∀ id, id ∈ s.pairs.map Pair.giver ↔ id ∈ ids) ∧
      (∀ id, id ∈ s.pairs.map Pair.receiver ↔ id ∈ ids) ∧
      (∀ p ∈ s.pairs, conflicts.forbids p.giver p.receiver = false) ∧
      (avoidReciprocal = true → ∀ a b, ¬ (s.Gives a b ∧ s.Gives b a)) := by
  rw [← List.perm_ext_iff_of_nodup h.byGiver.nodup hids,
    ← List.perm_ext_iff_of_nodup h.byReceiver.nodup hids]
  constructor
  · intro hkeeps
    exact ⟨hkeeps.givers, hkeeps.receivers, hkeeps.allowed, hkeeps.oneWay⟩
  · rintro ⟨hgivers, hreceivers, hallowed, honeWay⟩
    exact ⟨hgivers, hreceivers, hallowed, honeWay⟩

/-! ## Each part of the check -/

theorem Indexed.memberViolation?_holds (h : s.Indexed) {id : Id} {v : Violation} (hid : id ∈ ids)
    (hv : s.memberViolation? id = some v) : v.Holds s ids conflicts avoidReciprocal := by
  unfold memberViolation? at hv
  split_ifs at hv with hgiver hreceiver
  · cases hv
    refine ⟨hid, fun receiver hgives => ?_⟩
    have hmem : s.hasGiver id = true := h.hasGiver_iff.2 (mem_givers_iff.2 ⟨receiver, hgives⟩)
    simp [hmem] at hgiver
  · cases hv
    refine ⟨hid, fun giver hgives => ?_⟩
    have hmem : s.hasReceiver id = true :=
      h.hasReceiver_iff.2 (mem_receivers_iff.2 ⟨giver, hgives⟩)
    simp [hmem] at hreceiver

theorem Indexed.pairViolation?_holds (h : s.Indexed) {p : Pair} {v : Violation} (hp : p ∈ s.pairs)
    (hv : s.pairViolation? conflicts avoidReciprocal p = some v) :
    v.Holds s ids conflicts avoidReciprocal := by
  have hgives : s.Gives p.giver p.receiver := ⟨p, hp, rfl, rfl⟩
  unfold pairViolation? at hv
  split_ifs at hv with hforbidden hmutual
  · cases hv
    exact ⟨hgives, hforbidden⟩
  · cases hv
    rw [Bool.and_eq_true, beq_iff_eq, h.receiverOf?_eq_some_iff] at hmutual
    exact ⟨hmutual.1, p.distinct, hgives, hmutual.2⟩

/-- Every answer of the check is true. -/
theorem Indexed.violation?_holds (h : s.Indexed) {v : Violation}
    (hv : s.violation? ids conflicts avoidReciprocal = some v) :
    v.Holds s ids conflicts avoidReciprocal := by
  unfold violation? at hv
  split_ifs at hv with hsize
  · cases hv
    exact ⟨rfl, rfl, Ne.symm hsize⟩
  · rw [Option.or_eq_some_iff] at hv
    rcases hv with hmember | ⟨-, hpair⟩
    · obtain ⟨id, hid, hone⟩ := List.exists_of_findSome?_eq_some hmember
      exact h.memberViolation?_holds hid hone
    · obtain ⟨p, hp, hone⟩ := List.exists_of_findSome?_eq_some hpair
      exact h.pairViolation?_holds hp hone

/-- **The check is right, whatever it says.** Take a pairing that can be made. For a group without
repeated members nothing is found exactly when the givers are the members, the receivers are the
members, no pair is forbidden and, where that is asked for, no two people give to each other. For
any group, what is found is true: two sizes that differ, a listed member who gives to nobody or to
whom nobody gives, a pair that is forbidden, or two people who give to each other though they
should not. -/
theorem verdict_is_right (h : s.Reachable) :
    (ids.Nodup →
      (s.violation? ids conflicts avoidReciprocal = none ↔
        (∀ id, id ∈ s.pairs.map Pair.giver ↔ id ∈ ids) ∧
        (∀ id, id ∈ s.pairs.map Pair.receiver ↔ id ∈ ids) ∧
        (∀ p ∈ s.pairs, conflicts.forbids p.giver p.receiver = false) ∧
        (avoidReciprocal = true → ∀ a b, ¬ (s.Gives a b ∧ s.Gives b a)))) ∧
      ∀ v, s.violation? ids conflicts avoidReciprocal = some v →
        v.Holds s ids conflicts avoidReciprocal := by
  have hindexed : s.Indexed := h.indexed
  refine ⟨fun hids => ?_, fun v hv => hindexed.violation?_holds hv⟩
  rw [hindexed.violation?_eq_none_iff hids, hindexed.keeps_iff_mem hids]

/-- A ring of three people is right for them, and not for a group of three in which somebody else
takes the place of the third. -/
theorem verdict_of_ringOfThree :
    ringOfThree.Reachable ∧ [Id.ofNat 3, .ofNat 1, .ofNat 2].Nodup ∧
      ringOfThree.violation? [.ofNat 3, .ofNat 1, .ofNat 2] .empty true = none ∧
      (∀ a b, ¬ (ringOfThree.Gives a b ∧ ringOfThree.Gives b a)) ∧
      ringOfThree.violation? [.ofNat 1, .ofNat 2, .ofNat 4] .empty true =
        some (.missingReceiver (.ofNat 4)) ∧
      ∀ receiver, ¬ ringOfThree.Gives (.ofNat 4) receiver := by
  have hnodup : [Id.ofNat 3, .ofNat 1, .ofNat 2].Nodup := by decide
  have hright : ringOfThree.violation? [.ofNat 3, .ofNat 1, .ofNat 2] .empty true = none := by
    decide
  have hwrong : ringOfThree.violation? [.ofNat 1, .ofNat 2, .ofNat 4] .empty true =
      some (.missingReceiver (.ofNat 4)) := by
    decide
  obtain ⟨-, -, -, honeWay⟩ := ((verdict_is_right ringOfThree_reachable).1 hnodup).1 hright
  obtain ⟨-, hnobody⟩ := (verdict_is_right ringOfThree_reachable).2 _ hwrong
  exact ⟨ringOfThree_reachable, hnodup, hright, honeWay rfl, hwrong, hnobody⟩

end Pairing

end GiftExchange
