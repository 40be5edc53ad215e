import GiftExchange.Pairing.Violation
import GiftExchange.Proofs.Pairing
import Mathlib.Data.List.Perm.Subperm

set_option autoImplicit false

/-! # The rules, said without the check

`Pairing.Keeps` states the rules for a pairing of a group as they are meant: the givers are the
group, the receivers are the group, no pair is forbidden and, where that is asked for, no two
people give to each other. The check `violation?` only compares sizes and looks members up; that it
finds nothing exactly when the rules are kept is a counting argument, for a group without repeated
members and a pairing with right indexes. -/

namespace GiftExchange

/-- The pairing keeps the rules for the group `ids`. -/
structure Pairing.Keeps (s : Pairing) (ids : List Id) (conflicts : Conflicts)
    (avoidReciprocal : Bool) : Prop where
  givers : (s.pairs.map Pair.giver).Perm ids
  receivers : (s.pairs.map Pair.receiver).Perm ids
  allowed : ∀ p ∈ s.pairs, conflicts.forbids p.giver p.receiver = false
  oneWay : avoidReciprocal = true → ∀ a b, ¬ (s.Gives a b ∧ s.Gives b a)

namespace Pairing

variable {s : Pairing} {ids : List Id} {conflicts : Conflicts} {avoidReciprocal : Bool}

/-- People who give to each other can be allowed. -/
theorem Keeps.relax (h : s.Keeps ids conflicts avoidReciprocal) : s.Keeps ids conflicts false :=
  ⟨h.givers, h.receivers, h.allowed, fun hnever => by cases hnever⟩

/-- Pairs that were right for one group are right for another exactly when it has the same members
and forbids none of the pairs. -/
theorem Keeps.keeps_iff {ids' : List Id} {conflicts' : Conflicts}
    (h : s.Keeps ids conflicts avoidReciprocal) :
    s.Keeps ids' conflicts' false ↔
      ids'.Perm ids ∧ ∀ a b, s.Gives a b → conflicts'.forbids a b = false := by
  constructor
  · intro h'
    refine ⟨h'.givers.symm.trans h.givers, ?_⟩
    rintro a b ⟨p, hp, rfl, rfl⟩
    exact h'.allowed p hp
  · rintro ⟨hperm, hallowed⟩
    refine ⟨h.givers.trans hperm.symm, h.receivers.trans hperm.symm, ?_, ?_⟩
    · intro p hp
      exact hallowed _ _ ⟨p, hp, rfl, rfl⟩
    · intro hnever
      cases hnever

/-- A group whose members are all listed, in a list as long as the group, is that list. -/
theorem perm_of_subset_of_length {l ids : List Id} (hids : ids.Nodup)
    (hlen : l.length = ids.length) (hsub : ∀ id ∈ ids, id ∈ l) : l.Perm ids :=
  ((hids.subperm hsub).perm_of_length_le (Nat.le_of_eq hlen)).symm

theorem Indexed.memberViolation?_eq_none_iff (h : s.Indexed) {id : Id} :
    s.memberViolation? id = none ↔
      id ∈ s.pairs.map Pair.giver ∧ id ∈ s.pairs.map Pair.receiver := by
  rw [← h.hasGiver_iff, ← h.hasReceiver_iff, memberViolation?]
  by_cases hg : s.hasGiver id = true <;> by_cases hr : s.hasReceiver id = true <;> simp [hg, hr]

theorem Indexed.pairViolation?_eq_none_iff (h : s.Indexed) {p : Pair} :
    s.pairViolation? conflicts avoidReciprocal p = none ↔
      conflicts.forbids p.giver p.receiver = false ∧
        (avoidReciprocal = true → ¬ s.Gives p.receiver p.giver) := by
  rw [← h.receiverOf?_eq_some_iff, pairViolation?]
  by_cases hc : conflicts.forbids p.giver p.receiver = true
  · simp [hc]
  · by_cases hm : avoidReciprocal = true <;> simp [hc, hm]

/-- The check finds nothing exactly when the rules are kept. -/
theorem Indexed.violation?_eq_none_iff (h : s.Indexed) (hids : ids.Nodup) :
    s.violation? ids conflicts avoidReciprocal = none ↔
      s.Keeps ids conflicts avoidReciprocal := by
  have hmembers : ids.findSome? s.memberViolation? = none ↔
      ∀ id ∈ ids, id ∈ s.pairs.map Pair.giver ∧ id ∈ s.pairs.map Pair.receiver := by
    simp only [List.findSome?_eq_none_iff, h.memberViolation?_eq_none_iff]
  have hpairs : s.pairs.findSome? (s.pairViolation? conflicts avoidReciprocal) = none ↔
      ∀ p ∈ s.pairs, conflicts.forbids p.giver p.receiver = false ∧
        (avoidReciprocal = true → ¬ s.Gives p.receiver p.giver) := by
    simp only [List.findSome?_eq_none_iff, h.pairViolation?_eq_none_iff]
  rw [violation?]
  constructor
  · intro hv
    split at hv
    · cases hv
    rename_i hsize
    have hlen : s.pairs.length = ids.length := not_not.1 hsize
    rw [Option.or_eq_none_iff, hmembers, hpairs] at hv
    obtain ⟨hm, hp⟩ := hv
    -- as many pairs as members, so a side on which everybody stands has nobody twice
    refine ⟨?_, ?_, fun p hp' => (hp p hp').1, ?_⟩
    · exact perm_of_subset_of_length hids (by rw [List.length_map, hlen])
        fun id hid => (hm id hid).1
    · exact perm_of_subset_of_length hids (by rw [List.length_map, hlen])
        fun id hid => (hm id hid).2
    · rintro havoid a b ⟨⟨p, hmem, rfl, rfl⟩, hback⟩
      exact (hp p hmem).2 havoid hback
  · rintro ⟨hg, hr, hallowed, honeWay⟩
    have hlen : s.size = ids.length := by
      rw [size, ← hg.length_eq, List.length_map]
    rw [if_neg (not_not.2 hlen), Option.or_eq_none_iff, hmembers, hpairs]
    refine ⟨fun id hid => ⟨hg.mem_iff.2 hid, hr.mem_iff.2 hid⟩, fun p hp => ?_⟩
    exact ⟨hallowed p hp, fun havoid hback => honeWay havoid _ _ ⟨⟨p, hp, rfl, rfl⟩, hback⟩⟩

end Pairing

end GiftExchange
