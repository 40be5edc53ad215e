import GiftExchange.Proofs.Pairing
import Mathlib.Tactic.TFAE

set_option autoImplicit false

/-! # The pairings that can be made

A pairing starts empty or from a list of pairs, is offered further pairs, and is restricted to some
givers, in any order (`Reachable`). Each of these keeps both indexes right, so they are right in
every pairing that can be made: no lookup follows an index beyond the list, and asking for a
receiver, for a giver or for a pair always gives the answer that reading the list would give. They
also put pairs in one after the other and in no other way, so the list makes the pairing, indexes
included (`Rebuilt`). -/

namespace GiftExchange

namespace Pairing

/-- The pairings that can be made. -/
inductive Reachable : Pairing → Prop where
  | empty : Reachable empty
  | ofList {l : List Pair} {s : Pairing} (done : ofList l = .ok s) : Reachable s
  | offer {s : Pairing} (before : Reachable s) (p : Pair) : Reachable (s.offer p).2
  | restrict {s : Pairing} (before : Reachable s) (givers : List Id) : Reachable (s.restrict givers)

variable {s : Pairing}

/-! ## Offers -/

/-- A pair is taken exactly when neither side of it is. -/
theorem Indexed.offer_ok_iff (h : s.Indexed) {p : Pair} :
    (s.offer p).1 = .ok () ↔
      p.giver ∉ s.pairs.map Pair.giver ∧ p.receiver ∉ s.pairs.map Pair.receiver := by
  have hinsert : (s.offer p).1 = .ok () ↔ ∃ t, s.insert p = .ok t := by
    rw [offer_eq]
    cases s.insert p <;> simp
  rw [hinsert]
  simp only [h.insert_eq_ok_iff, exists_and_left, exists_eq, and_true]

/-- A pair that is not taken changes nothing. -/
theorem offer_of_error {p : Pair} {err : PairingError} (h : (s.offer p).1 = .error err) :
    (s.offer p).2 = s := by
  rw [offer_eq] at h ⊢
  cases hinsert : s.insert p with
  | ok t =>
    rw [hinsert] at h
    cases h
  | error err => rfl

theorem Indexed.offer (h : s.Indexed) (p : Pair) : (s.offer p).2.Indexed := by
  rw [offer_eq]
  cases hinsert : s.insert p with
  | error err => exact h
  | ok t =>
    obtain ⟨hg, hr, rfl⟩ := h.insert_eq_ok_iff.1 hinsert
    exact h.push hg hr

/-! ## Every pairing -/

theorem Reachable.indexed (h : s.Reachable) : s.Indexed := by
  induction h with
  | empty => exact indexed_empty
  | ofList done => exact (ofList_eq_ok done).1
  | offer before p ih => exact ih.offer p
  | restrict before givers ih => exact ih.restrict givers

/-! ## Pairings and their lists -/

/-- Put in one after the other, the pairs of the list make the pairing. -/
def Rebuilt (s : Pairing) : Prop :=
  s.pairs.foldl push empty = s

theorem rebuilt_empty : empty.Rebuilt := rfl

theorem Rebuilt.push (h : s.Rebuilt) (p : Pair) : (s.push p).Rebuilt := by
  have hpairs : (s.push p).pairs = s.pairs ++ [p] := rfl
  rw [Rebuilt, hpairs, List.foldl_append, h]
  rfl

theorem Rebuilt.insert {t : Pairing} {p : Pair} (h : s.Rebuilt) (hok : s.insert p = .ok t) :
    t.Rebuilt := by
  rw [insert_eq] at hok
  split at hok
  · cases hok
  · split at hok
    · cases hok
    · cases hok
      exact h.push p

theorem Rebuilt.foldlM_insert {l : List Pair} {t : Pairing} (h : s.Rebuilt)
    (hok : l.foldlM Pairing.insert s = .ok t) : t.Rebuilt := by
  induction l generalizing s with
  | nil =>
    cases hok
    exact h
  | cons p rest ih =>
    rw [List.foldlM_cons] at hok
    cases hone : s.insert p with
    | error err =>
      rw [hone] at hok
      cases hok
    | ok u =>
      rw [hone] at hok
      exact ih (h.insert hone) hok

theorem Rebuilt.offer (h : s.Rebuilt) (p : Pair) : (s.offer p).2.Rebuilt := by
  rw [offer_eq]
  cases hinsert : s.insert p with
  | error err => exact h
  | ok t => exact h.insert hinsert

theorem Rebuilt.restrict (s : Pairing) (givers : List Id) : (s.restrict givers).Rebuilt := by
  refine List.foldlRecOn givers s.pick rebuilt_empty fun chosen hchosen giver _ => ?_
  unfold pick
  split
  · exact hchosen
  · split
    · exact hchosen
    · exact hchosen.push _

theorem Reachable.rebuilt (h : s.Reachable) : s.Rebuilt := by
  induction h with
  | empty => exact rebuilt_empty
  | ofList done => exact rebuilt_empty.foldlM_insert done
  | offer before p ih => exact ih.offer p
  | restrict before givers ih => exact .restrict _ givers

/-- Pairings that can be made are equal when their lists are. -/
theorem Reachable.eq_of_pairs {t : Pairing} (h : s.Reachable) (h' : t.Reachable)
    (hpairs : s.pairs = t.pairs) : s = t := by
  rw [← h.rebuilt, ← h'.rebuilt, hpairs]

/-! ## Lookups -/

/-- **Every way to ask gives the same answer.** In every pairing that can be made nobody gives
twice, nobody receives twice and nobody gives to himself; the positions in both indexes are
positions of the list; and that somebody gives to somebody is what the lookup of the receiver, of
the giver and of the pair say, and what the list says. A pair that is offered is taken exactly when
neither side of it is, and else the list and both indexes stay as they were. -/
theorem lookups_agree (h : s.Reachable) :
    (s.pairs.map Pair.giver).Nodup ∧ (s.pairs.map Pair.receiver).Nodup ∧
      (∀ giver receiver, (giver, receiver) ∈ s.pairs.map Pair.ids → giver ≠ receiver) ∧
      (∀ (id : Id) (i : Nat), s.byGiver[id]? = some i ∨ s.byReceiver[id]? = some i →
        i < s.pairs.length) ∧
      (∀ giver receiver, List.TFAE [
        s.receiverOf? giver = some receiver,
        s.giverOf? receiver = some giver,
        (s.pairOf? giver).map Pair.ids = some (giver, receiver),
        (giver, receiver) ∈ s.pairs.map Pair.ids]) ∧
      (∀ p, (s.offer p).1 = .ok () ↔
        p.giver ∉ s.pairs.map Pair.giver ∧ p.receiver ∉ s.pairs.map Pair.receiver) ∧
      ∀ p err, (s.offer p).1 = .error err → (s.offer p).2 = s := by
  have hindexed := h.indexed
  refine ⟨hindexed.byGiver.nodup, hindexed.byReceiver.nodup, ?_, ?_, ?_,
    fun p => hindexed.offer_ok_iff, fun p err => offer_of_error⟩
  · rintro giver receiver hmem rfl
    obtain ⟨p, -, hids⟩ := List.mem_map.1 hmem
    obtain ⟨hg, hr⟩ := Prod.mk.inj hids
    exact p.distinct (hg.trans hr.symm)
  · rintro id i (hi | hi)
    · exact hindexed.byGiver.lt_length hi
    · exact hindexed.byReceiver.lt_length hi
  · intro giver receiver
    have hmem : (giver, receiver) ∈ s.pairs.map Pair.ids ↔ s.Gives giver receiver := by
      simp only [List.mem_map, Gives, Pair.ids, Prod.mk.injEq]
    tfae_have 1 ↔ 4 := hindexed.receiverOf?_eq_some_iff.trans hmem.symm
    tfae_have 2 ↔ 4 := hindexed.giverOf?_eq_some_iff.trans hmem.symm
    tfae_have 3 ↔ 4 := by
      rw [hmem, Option.map_eq_some_iff, Gives]
      refine exists_congr fun p => ?_
      rw [hindexed.pairOf?_eq_some_iff, and_assoc, Pair.ids, Prod.mk.injEq]
      exact and_congr_right fun _ => and_self_left
    tfae_finish

/-- Three people who give in a ring. -/
def ringOfThree : Pairing :=
  (((empty.offer ⟨.ofNat 1, .ofNat 2, by decide⟩).2.offer ⟨.ofNat 2, .ofNat 3, by decide⟩).2.offer
    ⟨.ofNat 3, .ofNat 1, by decide⟩).2

theorem ringOfThree_reachable : ringOfThree.Reachable :=
  .offer (.offer (.offer .empty _) _) _

/-- Two pairs of a ring of three, picked in another order than the one they were offered in; one
offer was refused on the way. -/
def ringWithoutTwo : Pairing :=
  ((((empty.offer ⟨.ofNat 1, .ofNat 2, by decide⟩).2.offer ⟨.ofNat 1, .ofNat 3, by decide⟩).2.offer
    ⟨.ofNat 2, .ofNat 3, by decide⟩).2.offer ⟨.ofNat 3, .ofNat 1, by decide⟩).2.restrict
    [.ofNat 3, .ofNat 7, .ofNat 1, .ofNat 3]

theorem lookups_agree_without_two :
    ringWithoutTwo.Reachable ∧
      ringWithoutTwo.pairs.map Pair.ids = [(.ofNat 3, .ofNat 1), (.ofNat 1, .ofNat 2)] ∧
      (∀ giver receiver, ringWithoutTwo.receiverOf? giver = some receiver ↔
        ringWithoutTwo.giverOf? receiver = some giver) ∧
      (ringWithoutTwo.offer ⟨.ofNat 2, .ofNat 3, by decide⟩).1 = .ok () ∧
      (ringWithoutTwo.offer ⟨.ofNat 2, .ofNat 1, by decide⟩).2 = ringWithoutTwo := by
  have hmade : ringWithoutTwo.Reachable :=
    .restrict (.offer (.offer (.offer (.offer .empty _) _) _) _) _
  obtain ⟨-, -, -, -, hlookups, hoffer, hrefused⟩ := lookups_agree hmade
  have hpairs : ringWithoutTwo.pairs.map Pair.ids =
      [(.ofNat 3, .ofNat 1), (.ofNat 1, .ofNat 2)] := by decide
  have herror : (ringWithoutTwo.offer ⟨.ofNat 2, .ofNat 1, by decide⟩).1 =
      .error (.duplicateReceiver (.ofNat 1)) := by decide
  refine ⟨hmade, hpairs, fun giver receiver => (hlookups giver receiver).out 0 1, ?_,
    hrefused _ _ herror⟩
  exact (hoffer _).2 (by decide)

/-- Four people, two and two of whom give to each other. -/
def mutualPairs : Pairing :=
  ((((empty.offer ⟨.ofNat 1, .ofNat 2, by decide⟩).2.offer
    ⟨.ofNat 2, .ofNat 1, by decide⟩).2.offer ⟨.ofNat 3, .ofNat 4, by decide⟩).2.offer
    ⟨.ofNat 4, .ofNat 3, by decide⟩).2

/-- The same four people in a ring. -/
def ringOfFour : Pairing :=
  ((((empty.offer ⟨.ofNat 4, .ofNat 1, by decide⟩).2.offer
    ⟨.ofNat 3, .ofNat 4, by decide⟩).2.offer ⟨.ofNat 2, .ofNat 3, by decide⟩).2.offer
    ⟨.ofNat 1, .ofNat 2, by decide⟩).2

end Pairing

end GiftExchange
