import GiftExchange.Proofs.Generation
import GiftExchange.Proofs.Verdict

set_option autoImplicit false

/-! # Why an attempt fails

An attempt starts from the order of the receivers that the last one left (`Starts`). However many
attempts there were, this is an order of the whole group, so an attempt that comes to a derangement has
pairs for everybody: they can be put together, and the check of the sizes and of the members finds
nothing. What is left is a conflict, or two people who should not give to each other
(`Violation.BreaksRule`); where there are no such rules the first attempt is the last. -/

namespace GiftExchange

/-- A violation that is a broken rule, and not a group that is paired up in part only: somebody gives to
somebody forbidden, or two people give to each other though they should not. -/
def Violation.BreaksRule (set : Pairing) (rules : Rules) : Violation → Prop
  | .conflict giver receiver =>
    set.Gives giver receiver ∧ rules.conflicts.forbids giver receiver = true
  | .reciprocalPair first second =>
    rules.avoidReciprocal = true ∧ set.Gives first second ∧ set.Gives second first
  | .sizeMismatch .. | .missingGiver _ | .missingReceiver _ => False

namespace Generation

variable {rules : Rules} {order : List Id} {set : Pairing} {v : Violation}

/-! ## What the check can find -/

/-- Where everybody gives and everybody receives, only a rule can be broken. -/
theorem breaksRule_of_violation? (hindexed : set.Indexed)
    (hgivers : set.pairs.map Pair.giver = rules.participants)
    (hreceivers : (set.pairs.map Pair.receiver).Perm rules.participants)
    (hv : set.violation? rules.participants rules.conflicts rules.avoidReciprocal = some v) :
    v.BreaksRule set rules := by
  have hholds := hindexed.violation?_holds hv
  cases v with
  | sizeMismatch expected actual =>
    obtain ⟨rfl, rfl, hne⟩ := hholds
    rw [← hgivers, List.length_map] at hne
    exact hne rfl
  | missingReceiver id =>
    obtain ⟨hid, hnobody⟩ := hholds
    rw [← hgivers, Pairing.mem_givers_iff] at hid
    obtain ⟨receiver, hgives⟩ := hid
    exact hnobody receiver hgives
  | missingGiver id =>
    obtain ⟨hid, hnobody⟩ := hholds
    rw [← hreceivers.mem_iff, Pairing.mem_receivers_iff] at hid
    obtain ⟨giver, hgives⟩ := hid
    exact hnobody giver hgives
  | conflict giver receiver => exact hholds
  | reciprocalPair first second => exact ⟨hholds.1, hholds.2.2⟩

/-- A candidate is refused exactly when the check of its pairs finds something. -/
theorem candidate?_refused_iff (hpair : pairUp rules.participants order = .ok set) :
    candidate? rules order = none ↔
      ∃ v, set.violation? rules.participants rules.conflicts rules.avoidReciprocal = some v := by
  rw [candidate?, hpair]
  dsimp only
  cases set.violation? rules.participants rules.conflicts rules.avoidReciprocal with
  | none => simp
  | some v => simp

/-! ## One attempt after the other -/

/-- From which order of the receivers and which source an attempt of a draw starts: the first one from
the order of the group, each other one from what a refused attempt left. -/
inductive Starts {σ : Type} [RandomSource σ] (fuel : Nat) (rules : Rules) (s : σ) :
    Nat → List Id → σ → Prop where
  | first : Starts fuel rules s 1 rules.participants s
  | next {number : Nat} {receivers order : List Id} {s₁ s₂ : σ}
      (before : Starts fuel rules s number receivers s₁)
      (left : derange rules.participants fuel fuel receivers s₁ = some (order, s₂))
      (refused : candidate? rules order = none) : Starts fuel rules s (number + 1) order s₂

/-- What an attempt comes to that leaves the receivers in an order: pairs for everybody, which are
refused if the check finds something, and then for a rule that they break. -/
structure Attempted (rules : Rules) (order : List Id) (set : Pairing) : Prop where
  paired : pairUp rules.participants order = .ok set
  onlyRules : ∀ v,
    set.violation? rules.participants rules.conflicts rules.avoidReciprocal = some v →
      v.BreaksRule set rules
  refused : candidate? rules order = none ↔
    ∃ v, set.violation? rules.participants rules.conflicts rules.avoidReciprocal = some v

section Drawing

variable {σ : Type} [RandomSource σ] {fuel number left : Nat} {receivers : List Id} {s s₁ s₂ s' : σ}

/-- No attempt loses or doubles a receiver. -/
theorem Starts.perm (h : Starts fuel rules s number receivers s₁) :
    receivers.Perm rules.participants := by
  induction h with
  | first => exact .refl _
  | next _ left _ ih => exact (derange_spec left).1.trans ih

/-- What the attempts from one on come to: the pairs of one of them, or a start that has as many refused
attempts before it as were left. -/
theorem Starts.attempts_cases {found : Option (Pairing × Nat)}
    (h : Starts fuel rules s number receivers s₁)
    (hrun : attempts fuel rules left number receivers s₁ = some (found, s')) :
    (∃ set k before s₂ order, found = some (set, k) ∧ Starts fuel rules s k before s₂ ∧
      derange rules.participants fuel fuel before s₂ = some (order, s') ∧
      candidate? rules order = some set) ∨
    (found = none ∧ ∃ last, Starts fuel rules s (number + left) last s') := by
  induction left generalizing number receivers s₁ with
  | zero =>
    cases hrun
    exact .inr ⟨rfl, receivers, h⟩
  | succ left ih =>
    rw [attempts, Option.bind_eq_some_iff] at hrun
    obtain ⟨⟨order, s₂⟩, hderange, hrun⟩ := hrun
    dsimp only at hrun
    cases hcandidate : candidate? rules order with
    | some set =>
      rw [hcandidate] at hrun
      cases hrun
      exact .inl ⟨set, number, receivers, s₁, order, rfl, h, hderange, hcandidate⟩
    | none =>
      rw [hcandidate] at hrun
      have hnext := ih (h.next hderange hcandidate) hrun
      rwa [Nat.add_assoc, Nat.add_comm 1 left] at hnext

/-- An attempt that comes to a derangement pairs up the whole group. -/
theorem Starts.exists_attempted (h : Starts fuel rules s number receivers s₁)
    (hnodup : rules.participants.Nodup)
    (hderange : derange rules.participants fuel fuel receivers s₁ = some (order, s₂)) :
    ∃ set, Attempted rules order set := by
  obtain ⟨hsame, hderanged⟩ := derange_spec hderange
  have hperm : order.Perm rules.participants := hsame.trans h.perm
  obtain ⟨set, hset, hindexed, hids⟩ := exists_pairUp hnodup hperm hderanged
  have hgivers : set.pairs.map Pair.giver = rules.participants := givers_of_ids hperm.length_eq hids
  have hreceivers : set.pairs.map Pair.receiver = order := receivers_of_ids hperm.length_eq hids
  exact ⟨set, hset, fun v hv => breaksRule_of_violation? hindexed hgivers (hreceivers ▸ hperm) hv,
    candidate?_refused_iff hset⟩

/-- Where nobody is forbidden for anybody and people may give to each other, nothing is refused. -/
theorem Attempted.accepted (h : Attempted rules order set) (hfree : rules.conflicts = .empty)
    (hboth : rules.avoidReciprocal = false) : candidate? rules order = some set := by
  refine candidate?_eq_some_iff.2 ⟨h.paired, Option.eq_none_iff_forall_ne_some.2 fun v hv => ?_⟩
  have hbroken := h.onlyRules v hv
  cases v with
  | conflict giver receiver =>
    obtain ⟨-, hforbidden⟩ := hbroken
    rw [hfree] at hforbidden
    cases hforbidden
  | reciprocalPair first second =>
    obtain ⟨havoid, -⟩ := hbroken
    rw [hboth] at havoid
    cases havoid
  | _ => exact hbroken

/-- What a draw answers are the pairs of one of its attempts, or else as many were refused as it may
make. -/
theorem generate_attempts {maxAttempts : UInt32} {drawn : Drawn σ GenerationError Pairing}
    (hrefusal : refusal? rules.participants maxAttempts = none)
    (h : generate fuel rules maxAttempts s = some drawn) :
    (∃ set number receivers s₁ order, drawn.result = .ok set ∧
      drawn.events = [.assignmentsGenerated rules.participants.length number
        rules.avoidReciprocal] ∧
      Starts fuel rules s number receivers s₁ ∧
      derange rules.participants fuel fuel receivers s₁ = some (order, drawn.source) ∧
      candidate? rules order = some set) ∨
    (drawn.result = .error (.attemptsExhausted rules.participants.length maxAttempts) ∧
      ∃ last, Starts fuel rules s (1 + maxAttempts.toNat) last drawn.source) := by
  rw [generate, hrefusal] at h
  obtain ⟨⟨found, s'⟩, hattempts, rfl⟩ := Option.map_eq_some_iff.1 h
  obtain ⟨set, number, before, s₂, order, rfl, hstarts, hderange, hcandidate⟩ | ⟨rfl, hlast⟩ :=
    Starts.first.attempts_cases hattempts
  · exact .inl ⟨set, number, before, s₂, order, rfl, rfl, hstarts, hderange, hcandidate⟩
  · exact .inr ⟨rfl, hlast⟩

/-- The pairs of the first attempt are answered if they are not refused. -/
theorem generate_first {maxAttempts : UInt32}
    (hrefusal : refusal? rules.participants maxAttempts = none)
    (hderange : derange rules.participants fuel fuel rules.participants s = some (order, s'))
    (haccepted : candidate? rules order = some set) :
    generate fuel rules maxAttempts s =
      some ⟨.ok set, s', [.assignmentsGenerated rules.participants.length 1
        rules.avoidReciprocal]⟩ := by
  obtain ⟨left, hleft⟩ := exists_left hrefusal
  rw [generate, hrefusal, hleft, attempts, hderange]
  simp only [Option.bind_some, haccepted, Option.map_some]

/-- A draw whose first attempt does not end does not end. -/
theorem generate_stuck {maxAttempts : UInt32}
    (hrefusal : refusal? rules.participants maxAttempts = none)
    (hderange : derange rules.participants fuel fuel rules.participants s = none) :
    generate fuel rules maxAttempts s = none := by
  obtain ⟨left, hleft⟩ := exists_left hrefusal
  rw [generate, hrefusal, hleft, attempts, hderange]
  rfl

/-- **An attempt fails for a conflict or for two people who give to each other, and for nothing else.**
Take a group of at least two that repeats nobody, any conflicts, and any source. However many attempts
were refused before, an attempt that comes to a derangement pairs everybody up. The check of these pairs
never speaks of their number, or of a member without giver or receiver; if it finds something, and only
then is the attempt refused, a pair is forbidden or two people give to each other though they
should not. These are the attempts of a draw: it answers with the pairs of one that is not refused, or
else all that it may make are refused. Without conflicts, where people may give to each other, a draw
answers with the pairs of its first attempt, whenever that comes to a derangement. -/
theorem attempts_fail_by_rules_only (hnodup : rules.participants.Nodup)
    (htwo : 2 ≤ rules.participants.length) (fuel : Nat) (s : σ) :
    (∀ number receivers s₁ order s₂, Starts fuel rules s number receivers s₁ →
      derange rules.participants fuel fuel receivers s₁ = some (order, s₂) →
      ∃ set, Attempted rules order set) ∧
    ∀ maxAttempts, 1 ≤ maxAttempts →
      (∀ drawn, generate fuel rules maxAttempts s = some drawn →
        (∃ set number receivers s₁ order, drawn.result = .ok set ∧
          drawn.events = [.assignmentsGenerated rules.participants.length number
            rules.avoidReciprocal] ∧
          Starts fuel rules s number receivers s₁ ∧
          derange rules.participants fuel fuel receivers s₁ = some (order, drawn.source) ∧
          candidate? rules order = some set) ∨
        (drawn.result = .error (.attemptsExhausted rules.participants.length maxAttempts) ∧
          ∃ last, Starts fuel rules s (1 + maxAttempts.toNat) last drawn.source)) ∧
      (rules.conflicts = .empty → rules.avoidReciprocal = false →
        (∀ order s', derange rules.participants fuel fuel rules.participants s = some (order, s') →
          ∃ set, pairUp rules.participants order = .ok set ∧
            generate fuel rules maxAttempts s =
              some ⟨.ok set, s', [.assignmentsGenerated rules.participants.length 1 false]⟩) ∧
        (derange rules.participants fuel fuel rules.participants s = none →
          generate fuel rules maxAttempts s = none)) := by
  refine ⟨fun _ _ _ _ _ h hderange => h.exists_attempted hnodup hderange,
    fun maxAttempts hmax => ?_⟩
  have hrefusal : refusal? rules.participants maxAttempts = none :=
    refusal?_eq_none_iff.2 ⟨hmax, hnodup, htwo⟩
  refine ⟨fun _ h => generate_attempts hrefusal h,
    fun hfree hboth => ⟨fun order s' hderange => ?_, generate_stuck hrefusal⟩⟩
  obtain ⟨set, hset⟩ := Starts.first.exists_attempted hnodup hderange
  have hrun := generate_first hrefusal hderange (hset.accepted hfree hboth)
  rw [hboth] at hrun
  exact ⟨set, hset.paired, hrun⟩

/-- Four people whose third attempt is the first that breaks no rule; without rules the first attempt
answers. -/
theorem attempts_fail_by_rules_only_of_four :
    rulesOfFour.participants.Nodup ∧ 2 ≤ rulesOfFour.participants.length ∧
      (∃ receivers s₁ order set s₂, Starts 30 rulesOfFour (⟨[], 9⟩ : Listed) 3 receivers s₁ ∧
        derange rulesOfFour.participants 30 30 receivers s₁ = some (order, s₂) ∧
        Attempted rulesOfFour order set ∧ candidate? rulesOfFour order = some set) ∧
      ∃ set s', generate 30 ⟨rulesOfFour.participants, .empty, false⟩ 5 (⟨[], 9⟩ : Listed) =
        some ⟨.ok set, s', [.assignmentsGenerated 4 1 false]⟩ := by
  have hnodup : rulesOfFour.participants.Nodup := by decide
  have htwo : 2 ≤ rulesOfFour.participants.length := by decide
  have hmax : (1 : UInt32) ≤ 5 := by decide
  refine ⟨hnodup, htwo, ?_, ?_⟩
  · have hrun : ((generate 30 rulesOfFour 5 (⟨[], 9⟩ : Listed)).map fun drawn =>
        (drawn.result.isOk, drawn.events)) = some (true, [.assignmentsGenerated 4 3 true]) := by
      decide
    obtain ⟨drawn, h, heq⟩ := Option.map_eq_some_iff.1 hrun
    obtain ⟨hisOk, hevents⟩ := Prod.mk.inj heq
    obtain ⟨hattempted, hdraw⟩ := attempts_fail_by_rules_only hnodup htwo 30 (⟨[], 9⟩ : Listed)
    obtain ⟨set, number, receivers, s₁, order, -, hlogged, hstarts, hderange, hcandidate⟩ |
      ⟨hfailed, -⟩ := (hdraw 5 hmax).1 drawn h
    · simp only [hevents, List.cons.injEq, Event.assignmentsGenerated.injEq] at hlogged
      obtain rfl : 3 = number := hlogged.1.2.1
      obtain ⟨found, hfound⟩ := hattempted _ _ _ _ _ hstarts hderange
      obtain rfl : found = set :=
        Except.ok.inj (hfound.paired.symm.trans (candidate?_eq_some_iff.1 hcandidate).1)
      exact ⟨receivers, s₁, order, found, drawn.source, hstarts, hderange, hfound, hcandidate⟩
    · rw [hfailed] at hisOk
      cases hisOk
  · have hfirst : (derange rulesOfFour.participants 30 30 rulesOfFour.participants
        (⟨[], 9⟩ : Listed)).isSome = true := by
      decide
    obtain ⟨⟨order, s'⟩, hderange⟩ := Option.isSome_iff_exists.1 hfirst
    have hfree : (⟨rulesOfFour.participants, .empty, false⟩ : Rules).participants.Nodup := hnodup
    obtain ⟨-, hdraw⟩ := attempts_fail_by_rules_only hfree htwo 30 (⟨[], 9⟩ : Listed)
    obtain ⟨set, -, hrun⟩ := ((hdraw 5 hmax).2 rfl rfl).1 order s' hderange
    exact ⟨set, s', hrun⟩

end Drawing

end Generation

end GiftExchange
