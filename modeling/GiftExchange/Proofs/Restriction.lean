import GiftExchange.Proofs.Reachable
import Mathlib.Data.List.Induction

set_option autoImplicit false

/-! # Restricting a pairing to some givers

A restriction goes through a list of givers and adds the pair of each, without a look at the receivers.
After any part of the list it holds exactly the pairs of the givers in this part, in the order in which
these givers came up (`Picked`): one more giver either adds the pair that is still missing or changes
nothing. So a restriction answers for the listed givers as the pairing does, answers for nobody else,
and restricting twice is restricting once to those who are in both lists. -/

namespace GiftExchange

namespace Pairing

variable {s : Pairing}

/-! ## The walk over the givers -/

/-- What is chosen of a pairing once the listed givers came up. -/
structure Picked (s : Pairing) (givers : List Id) (chosen : Pairing) : Prop where
  isChosen : s.Chosen chosen
  mem_iff : ∀ p, p ∈ chosen.pairs ↔ p ∈ s.pairs ∧ p.giver ∈ givers
  ordered : chosen.pairs.Pairwise fun p q => givers.idxOf p.giver < givers.idxOf q.giver

theorem picked_empty (s : Pairing) : s.Picked [] empty :=
  ⟨chosen_empty, fun p => by simp [empty], List.Pairwise.nil⟩

/-- Givers who came up keep their places when one more comes up. -/
theorem Picked.ordered_concat {givers : List Id} {chosen : Pairing} (h : s.Picked givers chosen)
    (giver : Id) :
    chosen.pairs.Pairwise fun p q =>
      (givers ++ [giver]).idxOf p.giver < (givers ++ [giver]).idxOf q.giver := by
  refine h.ordered.imp_of_mem fun {p q} hp hq hlt => ?_
  rw [List.idxOf_append_of_mem ((h.mem_iff p).1 hp).2,
    List.idxOf_append_of_mem ((h.mem_iff q).1 hq).2]
  exact hlt

theorem Picked.pick {givers : List Id} {chosen : Pairing} (h : s.Picked givers chosen)
    (hindexed : s.Indexed) (giver : Id) :
    s.Picked (givers ++ [giver]) (s.pick chosen giver) := by
  obtain ⟨hnone, hpick⟩ | ⟨p, hp, hfound, hpick⟩ | ⟨p, hp, hfound, hpick⟩ :=
    h.isChosen.pick_cases hindexed giver
  · rw [hpick]
    refine ⟨h.isChosen, fun q => ?_, h.ordered_concat giver⟩
    rw [h.mem_iff, List.mem_append, List.mem_singleton]
    refine and_congr_right fun hq => (or_iff_left fun hgiver => ?_).symm
    rw [hindexed.pairOf?_eq_some_iff.2 ⟨hq, hgiver⟩] at hnone
    cases hnone
  · rw [hpick]
    obtain ⟨-, rfl⟩ := hindexed.pairOf?_eq_some_iff.1 hfound
    refine ⟨h.isChosen, fun q => ?_, h.ordered_concat p.giver⟩
    have hold : p.giver ∈ givers := ((h.mem_iff p).1 hp).2
    rw [h.mem_iff, List.mem_append, List.mem_singleton]
    exact and_congr_right fun _ => (or_iff_left_of_imp fun hgiver => hgiver ▸ hold).symm
  · rw [hpick]
    obtain ⟨hmem, rfl⟩ := hindexed.pairOf?_eq_some_iff.1 hfound
    have hnew : p.giver ∉ givers := fun hold => hp ((h.mem_iff p).2 ⟨hmem, hold⟩)
    refine ⟨h.isChosen.push hindexed hmem hp, fun q => ?_, ?_⟩
    · have hsame : q ∈ s.pairs → q.giver = p.giver → q = p := fun hq hgiver => by
        rw [hindexed.pairOf?_eq_some_iff.2 ⟨hq, hgiver⟩] at hfound
        exact Option.some.inj hfound
      rw [push, List.mem_append, List.mem_append, List.mem_singleton, List.mem_singleton, h.mem_iff]
      constructor
      · rintro (⟨hq, hlisted⟩ | rfl)
        · exact ⟨hq, .inl hlisted⟩
        · exact ⟨hmem, .inr rfl⟩
      · rintro ⟨hq, hlisted | hgiver⟩
        · exact .inl ⟨hq, hlisted⟩
        · exact .inr (hsame hq hgiver)
    · refine List.pairwise_append.2 ⟨h.ordered_concat p.giver, List.pairwise_singleton _ _, ?_⟩
      -- whoever came up before stands before the giver who comes up now
      rintro q hq _ hlast
      obtain rfl := List.mem_singleton.1 hlast
      have hlisted : q.giver ∈ givers := ((h.mem_iff q).1 hq).2
      rw [List.idxOf_append_of_mem hlisted, List.idxOf_append_of_notMem hnew]
      exact Nat.lt_of_lt_of_le (List.idxOf_lt_length_of_mem hlisted) (Nat.le_add_right _ _)

theorem Indexed.picked_restrict (h : s.Indexed) (givers : List Id) :
    s.Picked givers (s.restrict givers) := by
  induction givers using List.reverseRecOn with
  | nil => exact picked_empty s
  | append_singleton front giver ih =>
    rw [Pairing.restrict, List.foldl_append]
    exact ih.pick h giver

/-! ## Lookups -/

theorem Indexed.gives_restrict_iff (h : s.Indexed) {givers : List Id} {giver receiver : Id} :
    (s.restrict givers).Gives giver receiver ↔ s.Gives giver receiver ∧ giver ∈ givers := by
  simp only [Gives, (h.picked_restrict givers).mem_iff]
  constructor
  · rintro ⟨p, ⟨hp, hlisted⟩, rfl, rfl⟩
    exact ⟨⟨p, hp, rfl, rfl⟩, hlisted⟩
  · rintro ⟨⟨p, hp, rfl, rfl⟩, hlisted⟩
    exact ⟨p, ⟨hp, hlisted⟩, rfl, rfl⟩

theorem Indexed.pairOf?_restrict (h : s.Indexed) (givers : List Id) (id : Id) :
    (s.restrict givers).pairOf? id = if id ∈ givers then s.pairOf? id else none := by
  refine Option.ext fun p => ?_
  rw [(h.restrict givers).pairOf?_eq_some_iff, (h.picked_restrict givers).mem_iff]
  by_cases hid : id ∈ givers
  · rw [if_pos hid, h.pairOf?_eq_some_iff]
    constructor
    · rintro ⟨⟨hp, -⟩, hgiver⟩
      exact ⟨hp, hgiver⟩
    · rintro ⟨hp, rfl⟩
      exact ⟨⟨hp, hid⟩, rfl⟩
  · rw [if_neg hid]
    refine iff_of_false ?_ (by simp)
    rintro ⟨⟨-, hlisted⟩, rfl⟩
    exact hid hlisted

theorem Indexed.receiverOf?_restrict (h : s.Indexed) (givers : List Id) (id : Id) :
    (s.restrict givers).receiverOf? id = if id ∈ givers then s.receiverOf? id else none := by
  rw [receiverOf?, h.pairOf?_restrict]
  split <;> rfl

theorem Indexed.giverOf?_restrict (h : s.Indexed) (givers : List Id) (id : Id) :
    (s.restrict givers).giverOf? id = (s.giverOf? id).filter (· ∈ givers) := by
  refine Option.ext fun giver => ?_
  rw [(h.restrict givers).giverOf?_eq_some_iff, h.gives_restrict_iff, Option.filter_eq_some_iff,
    h.giverOf?_eq_some_iff, decide_eq_true_iff]

/-! ## Restricting twice -/

theorem Reachable.restrict_restrict (h : s.Reachable) (first second : List Id) :
    (s.restrict first).restrict second = s.restrict (second.filter (· ∈ first)) := by
  refine (Reachable.restrict (.restrict h first) second).eq_of_pairs (.restrict h _) ?_
  rw [(h.indexed.restrict first).restrict_pairs, h.indexed.restrict_pairs, List.filterMap_filter]
  simp only [h.indexed.pairOf?_restrict, decide_eq_true_iff]

/-- **A restriction is the pairing for the listed givers.** Take a pairing that can be made and any
list, also with people who give to nobody and with people who are listed twice. The restriction has
exactly the pairs of the pairing whose giver is listed, each once, in the order in which their givers
are listed first. Asked for a receiver it answers as the pairing does for a listed giver and with
nobody else; asked for a giver it gives the answer of the pairing if this one is listed. To restrict a
restriction is to restrict the pairing to those in the second list who are in the first one. -/
theorem restriction_answers_for_listed (h : s.Reachable) (givers : List Id) :
    (∀ p, p ∈ (s.restrict givers).pairs ↔ p ∈ s.pairs ∧ p.giver ∈ givers) ∧
      (s.restrict givers).pairs.Nodup ∧
      (s.restrict givers).pairs.Pairwise
        (fun p q => givers.idxOf p.giver < givers.idxOf q.giver) ∧
      (∀ giver, (s.restrict givers).receiverOf? giver =
        if giver ∈ givers then s.receiverOf? giver else none) ∧
      (∀ receiver, (s.restrict givers).giverOf? receiver =
        (s.giverOf? receiver).filter (· ∈ givers)) ∧
      ∀ second, (s.restrict givers).restrict second =
        s.restrict (second.filter (· ∈ givers)) := by
  have hpicked := h.indexed.picked_restrict givers
  refine ⟨hpicked.mem_iff, ?_, hpicked.ordered, h.indexed.receiverOf?_restrict givers,
    h.indexed.giverOf?_restrict givers, h.restrict_restrict givers⟩
  refine hpicked.ordered.imp ?_
  rintro p _ hlt rfl
  exact Nat.lt_irrefl _ hlt

/-- Of a ring of three, the third and the first are listed, the third one twice, with a stranger
between them. -/
theorem restriction_of_ringOfThree :
    ringOfThree.Reachable ∧
      (ringOfThree.restrict [.ofNat 3, .ofNat 7, .ofNat 1, .ofNat 3]).pairs.map Pair.ids =
        [(.ofNat 3, .ofNat 1), (.ofNat 1, .ofNat 2)] ∧
      (ringOfThree.restrict [.ofNat 3, .ofNat 7, .ofNat 1, .ofNat 3]).receiverOf? (.ofNat 2) = none ∧
      (ringOfThree.restrict [.ofNat 3, .ofNat 7, .ofNat 1, .ofNat 3]).giverOf? (.ofNat 3) = none ∧
      (ringOfThree.restrict [.ofNat 3, .ofNat 7, .ofNat 1, .ofNat 3]).restrict
        [.ofNat 2, .ofNat 1, .ofNat 2, .ofNat 3] = ringOfThree.restrict [.ofNat 1, .ofNat 3] := by
  obtain ⟨-, -, -, hreceiver, hgiver, htwice⟩ := restriction_answers_for_listed ringOfThree_reachable
    [.ofNat 3, .ofNat 7, .ofNat 1, .ofNat 3]
  have hlooked : ringOfThree.giverOf? (.ofNat 3) = some (.ofNat 2) := by decide
  refine ⟨ringOfThree_reachable, by decide, ?_, ?_, htwice _⟩
  · rw [hreceiver, if_neg (by decide)]
  · rw [hgiver, hlooked]
    rfl

end Pairing

end GiftExchange
