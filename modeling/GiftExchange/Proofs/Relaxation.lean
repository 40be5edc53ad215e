import GiftExchange.Proofs.Counting
import GiftExchange.Proofs.Fairness

set_option autoImplicit false

/-! # Asking for less never fails

Rules that ask no more than others (`Rules.Relaxes`) accept every candidate that the others accept.
Up to the first candidate that they accept both draw the same numbers: each attempt goes on from the
order that the last shuffle left, which does not depend on the rules. So with relaxed rules, or with
more attempts, a draw that had an answer still has one, no later than before; and rules that ask the
same have the same answer, since the number of attempts only says when to give up. -/

namespace GiftExchange

/-- The rules are for the same group and forbid nothing that the others allow. -/
structure Rules.Relaxes (relaxed rules : Rules) : Prop where
  participants : relaxed.participants = rules.participants
  conflicts : ∀ giver receiver, relaxed.conflicts.forbids giver receiver = true →
    rules.conflicts.forbids giver receiver = true
  oneWay : relaxed.avoidReciprocal = true → rules.avoidReciprocal = true

/-- Rules that forbid the same are as strict as each other. -/
theorem Rules.Relaxes.symm_of_eq {relaxed rules : Rules} (h : relaxed.Relaxes rules)
    (hconflicts : ∀ giver receiver,
      relaxed.conflicts.forbids giver receiver = rules.conflicts.forbids giver receiver)
    (honeWay : relaxed.avoidReciprocal = rules.avoidReciprocal) : rules.Relaxes relaxed where
  participants := h.participants.symm
  conflicts giver receiver hforbidden := (hconflicts giver receiver).trans hforbidden
  oneWay havoid := honeWay.trans havoid

theorem Pairing.Keeps.mono {s : Pairing} {ids : List Id} {conflicts conflicts' : Conflicts}
    {avoid avoid' : Bool} (h : s.Keeps ids conflicts avoid)
    (hconflicts : ∀ giver receiver, conflicts'.forbids giver receiver = true →
      conflicts.forbids giver receiver = true)
    (honeWay : avoid' = true → avoid = true) : s.Keeps ids conflicts' avoid' where
  givers := h.givers
  receivers := h.receivers
  allowed p hp := by
    rw [Bool.eq_false_iff]
    intro hforbidden
    have hallowed := h.allowed p hp
    rw [hconflicts _ _ hforbidden] at hallowed
    cases hallowed
  oneWay havoid := h.oneWay (honeWay havoid)

namespace Generation

variable {rules relaxed : Rules}

/-- Relaxed rules accept what the rules accept. -/
theorem candidate?_of_relaxes (hrelaxes : relaxed.Relaxes rules)
    (hnodup : rules.participants.Nodup) {order : List Id} {set : Pairing}
    (h : candidate? rules order = some set) : candidate? relaxed order = some set := by
  obtain ⟨hpair, hnone⟩ := candidate?_eq_some_iff.1 h
  have hindexed : set.Indexed := (Pairing.ofIds_eq_ok hpair).1
  have hkeeps := (hindexed.violation?_eq_none_iff hnodup).1 hnone
  rw [candidate?_eq_some_iff, hrelaxes.participants]
  refine ⟨hpair, (hindexed.violation?_eq_none_iff hnodup).2 ?_⟩
  exact hkeeps.mono hrelaxes.conflicts hrelaxes.oneWay

/-- Rules that relax each other accept the same candidates. -/
theorem candidate?_eq_of_relaxes (hrelaxes : relaxed.Relaxes rules) (hback : rules.Relaxes relaxed)
    (hnodup : rules.participants.Nodup) (order : List Id) :
    candidate? relaxed order = candidate? rules order := by
  refine Option.ext fun set => ⟨fun h => ?_, candidate?_of_relaxes hrelaxes hnodup⟩
  exact candidate?_of_relaxes hback (hback.participants ▸ hnodup) h

section Drawing

variable {σ : Type} [RandomSource σ]

/-- With relaxed rules and no fewer attempts left, pairs are found no later, and the same ones if
the same candidates are accepted. -/
theorem attempts_of_relaxes (hrelaxes : relaxed.Relaxes rules) (hnodup : rules.participants.Nodup)
    {fuel left left' number : Nat} {receivers : List Id} {c c₁ : Counted σ}
    {found : Pairing × Nat} (hle : left ≤ left') (htwo : 2 ≤ receivers.length)
    (h : attempts fuel rules left number receivers c = some (some found, c₁)) :
    ∃ found' c₂, attempts fuel relaxed left' number receivers c = some (some found', c₂) ∧
      c₂.drawn ≤ c₁.drawn ∧
      ((∀ order, candidate? relaxed order = candidate? rules order) →
        found' = found ∧ c₂ = c₁) := by
  -- both runs see the candidate of this attempt, and go on from the order that it left
  induction left generalizing left' number receivers c with
  | zero => cases h
  | succ left ih =>
    cases left' with
    | zero => exact absurd hle (Nat.not_succ_le_zero left)
    | succ left' =>
      rw [attempts, Option.bind_eq_some_iff] at h
      obtain ⟨⟨order, c'⟩, hderange, h⟩ := h
      rw [attempts, hrelaxes.participants, hderange, Option.bind_some]
      have hlen : 2 ≤ order.length := by rwa [(derange_spec hderange).1.length_eq]
      dsimp only at h ⊢
      cases hstrict : candidate? rules order with
      | some set =>
        rw [hstrict] at h
        cases h
        rw [candidate?_of_relaxes hrelaxes hnodup hstrict]
        exact ⟨_, _, rfl, Nat.le_refl _, fun _ => ⟨rfl, rfl⟩⟩
      | none =>
        rw [hstrict] at h
        cases hrelaxed : candidate? relaxed order with
        | some set =>
          refine ⟨_, _, rfl, Nat.le_of_lt (attempts_drawn hlen h), fun hsame => ?_⟩
          rw [hsame, hstrict] at hrelaxed
          cases hrelaxed
        | none => exact ih (Nat.le_of_succ_le_succ hle) hlen h

/-- Pairs that the attempts find are the answer of a draw that is not refused. -/
theorem generate_of_attempts {fuel k : Nat} {maxAttempts : UInt32} {s s' : σ} {set : Pairing}
    (hrefusal : refusal? rules.participants maxAttempts = none)
    (h : attempts fuel rules maxAttempts.toNat 1 rules.participants s = some (some (set, k), s')) :
    generate fuel rules maxAttempts s = some ⟨.ok set, s',
      [.assignmentsGenerated rules.participants.length k rules.avoidReciprocal]⟩ := by
  rw [generate, hrefusal, h]
  rfl

/-- **Asking for less never turns success into failure.** Where a draw has an answer, it has one
from the same source also if pairs are allowed that were forbidden, if people may give to each
other who might not, and if more attempts are made; it then draws no more numbers. If nothing but
the number of attempts is changed, everything is as before: the pairs, what is logged, and the
source that is left. -/
theorem relaxing_keeps_success {fuel : Nat} {maxAttempts moreAttempts : UInt32} {s : σ}
    {drawn : Drawn σ GenerationError Pairing} {set : Pairing} (hrelaxes : relaxed.Relaxes rules)
    (hmore : maxAttempts ≤ moreAttempts) (h : generate fuel rules maxAttempts s = some drawn)
    (hok : drawn.result = .ok set) :
    ∃ drawn' set' count count',
      generate fuel relaxed moreAttempts s = some drawn' ∧ drawn'.result = .ok set' ∧
      numbersDrawn fuel rules maxAttempts s = some count ∧
      numbersDrawn fuel relaxed moreAttempts s = some count' ∧ count' ≤ count ∧
      ((∀ giver receiver,
          relaxed.conflicts.forbids giver receiver = rules.conflicts.forbids giver receiver) →
        relaxed.avoidReciprocal = rules.avoidReciprocal → drawn' = drawn ∧ count' = count) := by
  obtain ⟨counted, hcounted, rfl, hcount⟩ := exists_counted h
  obtain ⟨hrefusal, k, hattempts, hevents⟩ := generate_ok hcounted hok
  obtain ⟨hmax, hnodup, htwo⟩ := refusal?_eq_none_iff.1 hrefusal
  have hrefusal' : refusal? relaxed.participants moreAttempts = none := by
    rw [hrelaxes.participants]
    exact refusal?_eq_none_iff.2 ⟨UInt32.le_trans hmax hmore, hnodup, htwo⟩
  obtain ⟨⟨set', k'⟩, c', hattempts', hdrawn, hsame⟩ := attempts_of_relaxes hrelaxes hnodup
    (UInt32.le_iff_toNat_le.1 hmore) htwo hattempts
  rw [← hrelaxes.participants] at hattempts'
  have hcounted' := generate_of_attempts hrefusal' hattempts'
  have hgenerate' := (generate_source fuel relaxed moreAttempts (Counted.fresh s)).trans
    (congrArg (Option.map Drawn.forget) hcounted')
  refine ⟨_, set', counted.source.drawn, c'.drawn, hgenerate', rfl, hcount, ?_, hdrawn, ?_⟩
  · rw [numbersDrawn, hcounted', Option.map_some]
  · intro hconflicts havoid
    have hback : rules.Relaxes relaxed := hrelaxes.symm_of_eq hconflicts havoid
    obtain ⟨hfound, rfl⟩ := hsame (candidate?_eq_of_relaxes hrelaxes hback hnodup)
    cases hfound
    obtain ⟨result, source, events⟩ := counted
    cases hok
    cases hevents
    rw [hrelaxes.participants, havoid]
    exact ⟨rfl, rfl⟩

/-- Four people drawn for with all rules, and with no rule and more attempts: then the first
candidate is taken. -/
theorem relaxing_keeps_success_of_four :
    (Rules.mk rulesOfFour.participants .empty false).Relaxes rulesOfFour ∧
      ∃ drawn set drawn' set', generate 30 rulesOfFour 5 (⟨[], 9⟩ : Listed) = some drawn ∧
        drawn.result = .ok set ∧
        generate 30 ⟨rulesOfFour.participants, .empty, false⟩ 9 (⟨[], 9⟩ : Listed) = some drawn' ∧
        drawn'.result = .ok set' ∧
        numbersDrawn 30 rulesOfFour 5 (⟨[], 9⟩ : Listed) = some 30 ∧
        numbersDrawn 30 ⟨rulesOfFour.participants, .empty, false⟩ 9 (⟨[], 9⟩ : Listed) =
          some 7 := by
  have hrelaxes : (Rules.mk rulesOfFour.participants .empty false).Relaxes rulesOfFour := by
    refine ⟨rfl, fun giver receiver hforbidden => ?_, fun hnever => ?_⟩
    · cases hforbidden
    · cases hnever
  have hrun : ((generate 30 rulesOfFour 5 (⟨[], 9⟩ : Listed)).map fun drawn =>
      drawn.result.isOk) = some true := by
    decide
  obtain ⟨⟨result, source, events⟩, h, hisOk⟩ := Option.map_eq_some_iff.1 hrun
  cases result with
  | error e => cases hisOk
  | ok set =>
    obtain ⟨drawn', set', -, -, hgenerate, hok, -⟩ :=
      relaxing_keeps_success hrelaxes (by decide : (5 : UInt32) ≤ 9) h rfl
    exact ⟨hrelaxes, _, set, drawn', set', h, rfl, hgenerate, hok, by decide, by decide⟩

end Drawing

end Generation

end GiftExchange
