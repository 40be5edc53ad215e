import GiftExchange.Generation
import GiftExchange.Proofs.Shuffle
import GiftExchange.Proofs.Violation
import Mathlib.Data.List.Forall2

set_option autoImplicit false

/-! # What a draw answers

A draw refuses a group that is empty or repeats somebody; else it shuffles the receivers until a
shuffle puts nobody at his own place and the pairs keep the rules. An answer therefore is the
candidate of some order of the receivers, and keeps all rules whatever was drawn. A draw with its
fallback answers what one of its two draws answered. -/

namespace GiftExchange

namespace Generation

/-! ## Requests that are refused -/

theorem firstRepeated?_eq_none_iff {seen l : List Id} :
    firstRepeated? seen l = none ↔ l.Nodup ∧ ∀ id ∈ l, id ∉ seen := by
  induction l generalizing seen with
  | nil => simp [firstRepeated?]
  | cons id rest ih =>
    rw [firstRepeated?]
    by_cases hid : id ∈ seen
    · simp [hid]
    · rw [if_neg hid, ih, List.nodup_cons]
      constructor
      · rintro ⟨hnodup, hrest⟩
        refine ⟨⟨fun hmem => hrest id hmem List.mem_cons_self, hnodup⟩, fun x hx => ?_⟩
        rcases List.mem_cons.1 hx with rfl | hx
        · exact hid
        · exact fun hmem => hrest x hx (List.mem_cons_of_mem _ hmem)
      · rintro ⟨⟨hnew, hnodup⟩, hrest⟩
        refine ⟨hnodup, fun x hx hmem => ?_⟩
        rcases List.mem_cons.1 hmem with rfl | hmem
        · exact hnew hx
        · exact hrest x (List.mem_cons_of_mem _ hx) hmem

theorem refusal?_eq_none_iff {participants : List Id} {maxAttempts : UInt32} :
    refusal? participants maxAttempts = none ↔
      1 ≤ maxAttempts ∧ participants.Nodup ∧ 2 ≤ participants.length := by
  have hnodup : firstRepeated? [] participants = none ↔ participants.Nodup := by
    simp [firstRepeated?_eq_none_iff]
  rw [refusal?, ← hnodup]
  by_cases hmax : maxAttempts < 1
  · simp [hmax, UInt32.not_le.2 hmax]
  · have hmax' : 1 ≤ maxAttempts := UInt32.not_lt.1 hmax
    cases participants with
    | nil => simp [hmax]
    | cons id rest =>
      cases hfirst : firstRepeated? [] (id :: rest) with
      | some repeated => simp [hmax]
      | none =>
        simp only [hmax, if_false, List.isEmpty_cons, Bool.false_eq_true]
        by_cases htwo : (id :: rest).length < 2
        · rw [if_pos htwo]
          exact iff_of_false (Option.some_ne_none _) fun h => Nat.not_le.2 htwo h.2.2
        · rw [if_neg htwo]
          exact iff_of_true rfl ⟨hmax', trivial, Nat.not_lt.1 htwo⟩

theorem one_le_toNat {maxAttempts : UInt32} (h : 1 ≤ maxAttempts) : 1 ≤ maxAttempts.toNat := by
  simpa using UInt32.le_iff_toNat_le.1 h

/-- A draw that is not refused makes an attempt. -/
theorem exists_left {participants : List Id} {maxAttempts : UInt32}
    (h : refusal? participants maxAttempts = none) : ∃ left, maxAttempts.toNat = left + 1 :=
  Nat.exists_eq_add_one.2 (one_le_toNat (refusal?_eq_none_iff.1 h).1)

/-! ## One candidate -/

theorem isDerangement_iff {givers receivers : List Id} :
    isDerangement givers receivers = true ↔ ∀ p ∈ givers.zip receivers, p.1 ≠ p.2 := by
  simp [isDerangement]

/-- Nobody is put together with himself. -/
theorem isDerangement_of_ids {givers order : List Id} {pairs : List Pair}
    (hids : pairs.map Pair.ids = givers.zip order) : isDerangement givers order = true := by
  rw [isDerangement_iff, ← hids]
  intro p hp
  obtain ⟨q, -, rfl⟩ := List.mem_map.1 hp
  exact q.distinct

/-- Pairs of givers and receivers at the same places give everybody in the group a receiver. -/
theorem givers_of_ids {givers order : List Id} {pairs : List Pair}
    (hlen : order.length = givers.length) (hids : pairs.map Pair.ids = givers.zip order) :
    pairs.map Pair.giver = givers := by
  have h := congrArg (List.map Prod.fst) hids
  rw [List.map_map, List.map_fst_zip (Nat.le_of_eq hlen.symm)] at h
  exact h

theorem receivers_of_ids {givers order : List Id} {pairs : List Pair}
    (hlen : order.length = givers.length) (hids : pairs.map Pair.ids = givers.zip order) :
    pairs.map Pair.receiver = order := by
  have h := congrArg (List.map Prod.snd) hids
  rw [List.map_map, List.map_snd_zip (Nat.le_of_eq hlen)] at h
  exact h

/-- A derangement of a group that repeats nobody can be paired up. -/
theorem exists_pairUp {givers order : List Id} (hnodup : givers.Nodup) (hperm : order.Perm givers)
    (hderanged : isDerangement givers order = true) :
    ∃ set, pairUp givers order = .ok set ∧ set.Indexed ∧
      set.pairs.map Pair.ids = givers.zip order := by
  have hlen : order.length = givers.length := hperm.length_eq
  obtain ⟨set, hset⟩ := Pairing.exists_ofIds (isDerangement_iff.1 hderanged)
    (by rwa [List.map_fst_zip (Nat.le_of_eq hlen.symm)])
    (by rw [List.map_snd_zip (Nat.le_of_eq hlen)]; exact hperm.nodup_iff.2 hnodup)
  exact ⟨set, hset, Pairing.ofIds_eq_ok hset⟩

theorem candidate?_eq_some_iff {rules : Rules} {order : List Id} {set : Pairing} :
    candidate? rules order = some set ↔
      pairUp rules.participants order = .ok set ∧
        set.violation? rules.participants rules.conflicts rules.avoidReciprocal = none := by
  rw [candidate?]
  cases hpair : pairUp rules.participants order with
  | error e => simp
  | ok found =>
    simp only [Except.ok.injEq]
    constructor
    · intro h
      split at h
      · rename_i hnone
        cases h
        exact ⟨rfl, hnone⟩
      · cases h
    · rintro ⟨rfl, hnone⟩
      rw [hnone]

/-- A candidate has the group's members as givers, in order, and the shuffled receivers; and it
keeps the rules. -/
theorem candidate_spec {rules : Rules} {order : List Id} {set : Pairing}
    (hnodup : rules.participants.Nodup) (hlen : order.length = rules.participants.length)
    (h : candidate? rules order = some set) :
    set.Indexed ∧ set.pairs.map Pair.giver = rules.participants ∧
      set.pairs.map Pair.receiver = order ∧
      set.Keeps rules.participants rules.conflicts rules.avoidReciprocal := by
  obtain ⟨hpair, hnone⟩ := candidate?_eq_some_iff.1 h
  obtain ⟨hindexed, hids⟩ := Pairing.ofIds_eq_ok hpair
  exact ⟨hindexed, givers_of_ids hlen hids, receivers_of_ids hlen hids,
    (hindexed.violation?_eq_none_iff hnodup).1 hnone⟩

/-! ## The attempts -/

section Drawing

variable {σ : Type} [RandomSource σ]

/-- The shuffles of an attempt end in a derangement of the receivers. -/
theorem derange_spec {givers receivers order : List Id} {drawFuel fuel : Nat} {s s' : σ}
    (h : derange givers drawFuel fuel receivers s = some (order, s')) :
    order.Perm receivers ∧ isDerangement givers order = true := by
  induction fuel generalizing receivers s with
  | zero => cases h
  | succ fuel ih =>
    rw [derange, Option.bind_eq_some_iff] at h
    obtain ⟨⟨shuffled, s₁⟩, hshuffle, h⟩ := h
    obtain ⟨js, -, rfl⟩ := shuffle_eq_some_iff.1 hshuffle
    dsimp only at h
    split at h
    · rename_i hderanged
      cases h
      exact ⟨walk_perm js receivers, hderanged⟩
    · obtain ⟨hperm, hderanged⟩ := ih h
      exact ⟨hperm.trans (walk_perm js receivers), hderanged⟩

/-- Pairs that the attempts find are the candidate of some order of the receivers. -/
theorem attempts_spec {fuel left number k : Nat} {rules : Rules} {receivers : List Id}
    {s s' : σ} {set : Pairing}
    (h : attempts fuel rules left number receivers s = some (some (set, k), s')) :
    ∃ order, order.Perm receivers ∧ candidate? rules order = some set := by
  induction left generalizing number receivers s with
  | zero => cases h
  | succ left ih =>
    rw [attempts, Option.bind_eq_some_iff] at h
    obtain ⟨⟨order, s₁⟩, hderange, h⟩ := h
    have hperm : order.Perm receivers := (derange_spec hderange).1
    dsimp only at h
    split at h
    · rename_i found hfound
      cases h
      exact ⟨order, hperm, hfound⟩
    · -- the next attempt starts from the order that this one left
      obtain ⟨order', hperm', hset⟩ := ih h
      exact ⟨order', hperm'.trans hperm, hset⟩

/-- A draw that answers with pairs was not refused, and its attempts found the pairs. -/
theorem generate_ok {fuel : Nat} {rules : Rules} {maxAttempts : UInt32} {s : σ}
    {drawn : Drawn σ GenerationError Pairing} {set : Pairing}
    (h : generate fuel rules maxAttempts s = some drawn) (hok : drawn.result = .ok set) :
    refusal? rules.participants maxAttempts = none ∧
      ∃ k, attempts fuel rules maxAttempts.toNat 1 rules.participants s =
          some (some (set, k), drawn.source) ∧
        drawn.events =
          [.assignmentsGenerated rules.participants.length k rules.avoidReciprocal] := by
  rw [generate] at h
  split at h
  · cases h
    cases hok
  · rename_i hrefusal
    refine ⟨hrefusal, ?_⟩
    obtain ⟨⟨found, s'⟩, hattempts, rfl⟩ := Option.map_eq_some_iff.1 h
    cases found with
    | none => cases hok
    | some found =>
      obtain ⟨found, k⟩ := found
      cases hok
      exact ⟨k, hattempts, rfl⟩

/-- A draw that is not refused can only run out of attempts. -/
theorem generate_error {fuel : Nat} {rules : Rules} {maxAttempts : UInt32} {s : σ}
    {drawn : Drawn σ GenerationError Pairing} {err : GenerationError}
    (h : generate fuel rules maxAttempts s = some drawn)
    (hrefusal : refusal? rules.participants maxAttempts = none)
    (herror : drawn.result = .error err) :
    err = .attemptsExhausted rules.participants.length maxAttempts := by
  rw [generate, hrefusal] at h
  obtain ⟨⟨found, s'⟩, -, rfl⟩ := Option.map_eq_some_iff.1 h
  cases found with
  | none =>
    cases herror
    rfl
  | some found => cases herror

/-- What is known of pairs that were drawn. -/
theorem generate_spec {fuel : Nat} {rules : Rules} {maxAttempts : UInt32} {s : σ}
    {drawn : Drawn σ GenerationError Pairing} {set : Pairing}
    (h : generate fuel rules maxAttempts s = some drawn) (hok : drawn.result = .ok set) :
    rules.participants.Nodup ∧ 2 ≤ rules.participants.length ∧ set.Indexed ∧
      set.pairs.map Pair.giver = rules.participants ∧
      set.Keeps rules.participants rules.conflicts rules.avoidReciprocal := by
  obtain ⟨hrefusal, k, hattempts, -⟩ := generate_ok h hok
  obtain ⟨-, hnodup, htwo⟩ := refusal?_eq_none_iff.1 hrefusal
  obtain ⟨order, hperm, hcandidate⟩ := attempts_spec hattempts
  obtain ⟨hindexed, hgivers, -, hkeeps⟩ := candidate_spec hnodup hperm.length_eq hcandidate
  exact ⟨hnodup, htwo, hindexed, hgivers, hkeeps⟩

/-- All that a draw with its fallback can come to: the strict draw has an answer, or it fails and
that is final, or the relaxed draw goes on from where the strict one stopped. -/
theorem generateWithFallback_cases {fuel : Nat} {ids : List Id} {conflicts : Conflicts}
    {maxAttempts : UInt32} {s : σ} {drawn : Drawn σ GenerationError Fallback}
    (h : generateWithFallback fuel ids conflicts maxAttempts s = some drawn) :
    ∃ strict, generate fuel ⟨ids, conflicts, true⟩ maxAttempts s = some strict ∧
      ((∃ set, strict.result = .ok set ∧
        drawn = ⟨.ok ⟨set, true⟩, strict.source, strict.events⟩) ∨
      (∃ err, strict.result = .error err ∧ ¬ (err.isUnsatisfiable = true ∧ ids ≠ []) ∧
        drawn = ⟨.error err, strict.source, strict.events⟩) ∨
      (∃ err relaxed, strict.result = .error err ∧ err.isUnsatisfiable = true ∧ ids ≠ [] ∧
        generate fuel ⟨ids, conflicts, false⟩ maxAttempts strict.source = some relaxed ∧
        drawn = ⟨relaxed.result.map (⟨·, false⟩), relaxed.source,
          strict.events ++ .assignmentsFallback ids.length :: relaxed.events⟩)) := by
  rw [generateWithFallback, Option.bind_eq_some_iff] at h
  obtain ⟨strict, hstrict, h⟩ := h
  refine ⟨strict, hstrict, ?_⟩
  cases hresult : strict.result with
  | ok set =>
    rw [hresult] at h
    cases h
    exact .inl ⟨set, rfl, rfl⟩
  | error err =>
    rw [hresult] at h
    dsimp only at h
    by_cases hagain : err.isUnsatisfiable = true ∧ ids ≠ []
    · rw [if_pos (by simpa using hagain)] at h
      obtain ⟨relaxed, hrelaxed, rfl⟩ := Option.map_eq_some_iff.1 h
      exact .inr (.inr ⟨err, relaxed, rfl, hagain.1, hagain.2, hrelaxed, rfl⟩)
    · rw [if_neg (by simpa using hagain)] at h
      cases h
      exact .inr (.inl ⟨err, rfl, hagain, rfl⟩)

/-- Pairs of a draw with its fallback were drawn for the rules that their flag says. -/
theorem generateWithFallback_ok {fuel : Nat} {ids : List Id} {conflicts : Conflicts}
    {maxAttempts : UInt32} {s : σ} {drawn : Drawn σ GenerationError Fallback} {found : Fallback}
    (h : generateWithFallback fuel ids conflicts maxAttempts s = some drawn)
    (hok : drawn.result = .ok found) :
    ∃ (source : σ) (once : Drawn σ GenerationError Pairing),
      generate fuel ⟨ids, conflicts, found.avoidedReciprocal⟩ maxAttempts source = some once ∧
        once.result = .ok found.pairing := by
  obtain ⟨strict, hstrict, ⟨set, hset, rfl⟩ | ⟨err, -, -, rfl⟩ |
    ⟨err, relaxed, -, -, -, hrelaxed, rfl⟩⟩ := generateWithFallback_cases h
  · cases hok
    exact ⟨s, strict, hstrict, hset⟩
  · cases hok
  · cases hresult : relaxed.result with
    | error err' =>
      rw [hresult] at hok
      cases hok
    | ok set =>
      rw [hresult] at hok
      cases hok
      exact ⟨strict.source, relaxed, hrelaxed, hresult⟩

/-- A draw with its fallback that is not refused can only run out of attempts, in the relaxed draw. -/
theorem generateWithFallback_error {fuel : Nat} {ids : List Id} {conflicts : Conflicts}
    {maxAttempts : UInt32} {s : σ} {drawn : Drawn σ GenerationError Fallback}
    {err : GenerationError}
    (h : generateWithFallback fuel ids conflicts maxAttempts s = some drawn)
    (hrefusal : refusal? ids maxAttempts = none) (herror : drawn.result = .error err) :
    err = .attemptsExhausted ids.length maxAttempts := by
  obtain ⟨strict, hstrict, ⟨set, -, rfl⟩ | ⟨first, hfirst, -, rfl⟩ |
    ⟨first, relaxed, -, -, -, hrelaxed, rfl⟩⟩ := generateWithFallback_cases h
  · cases herror
  · cases herror
    exact generate_error hstrict hrefusal hfirst
  · cases hresult : relaxed.result with
    | error last =>
      rw [hresult] at herror
      cases herror
      exact generate_error hrelaxed hrefusal hresult
    | ok set =>
      rw [hresult] at herror
      cases herror

/-- **Drawn pairs keep every rule.** Whatever the source hands out and however often the receivers
are shuffled, the group is not empty and repeats nobody, its members give in their order and
receive in some order, nobody gives to himself or to somebody forbidden, and, if that was asked
for, no two people give to each other. The lookups answer for these pairs. -/
theorem drawn_pairs_keep_rules {fuel : Nat} {rules : Rules} {maxAttempts : UInt32} {s : σ}
    {drawn : Drawn σ GenerationError Pairing} {set : Pairing}
    (h : generate fuel rules maxAttempts s = some drawn) (hok : drawn.result = .ok set) :
    rules.participants ≠ [] ∧ rules.participants.Nodup ∧
      set.pairs.map Pair.giver = rules.participants ∧
      (set.pairs.map Pair.receiver).Perm rules.participants ∧
      (∀ a b, set.receiverOf? a = some b ↔ set.Gives a b) ∧
      (∀ a, ¬ set.Gives a a) ∧
      (∀ a b, set.Gives a b → rules.conflicts.forbids a b = false) ∧
      (rules.avoidReciprocal = true → ∀ a b, ¬ (set.Gives a b ∧ set.Gives b a)) := by
  obtain ⟨hnodup, htwo, hindexed, hgivers, hkeeps⟩ := generate_spec h hok
  refine ⟨?_, hnodup, hgivers, hkeeps.receivers, fun a b => hindexed.receiverOf?_eq_some_iff,
    ?_, ?_, hkeeps.oneWay⟩
  · rintro hnil
    simp [hnil] at htwo
  · rintro a ⟨p, -, hgiver, hreceiver⟩
    exact p.distinct (hgiver.trans hreceiver.symm)
  · rintro a b ⟨p, hp, rfl, rfl⟩
    exact hkeeps.allowed p hp

/-- Four people, the first of whom must not give to the second, and nobody back to the giver. -/
def rulesOfFour : Rules where
  participants := [.ofNat 1, .ofNat 2, .ofNat 3, .ofNat 4]
  conflicts := Conflicts.empty.forbid (.ofNat 1) (.ofNat 2)
  avoidReciprocal := true

/-- Four people whose first two attempts break a rule. -/
theorem drawn_pairs_keep_rules_of_four :
    ∃ (drawn : Drawn Listed GenerationError Pairing) (set : Pairing),
      generate 30 rulesOfFour 5 (⟨[], 9⟩ : Listed) = some drawn ∧ drawn.result = .ok set ∧
      drawn.events = [.assignmentsGenerated 4 3 true] ∧
      set.pairs.map Pair.giver = rulesOfFour.participants ∧
      (set.pairs.map Pair.receiver).Perm rulesOfFour.participants ∧
      (∀ a b, set.Gives a b → rulesOfFour.conflicts.forbids a b = false) ∧
      (∀ a b, ¬ (set.Gives a b ∧ set.Gives b a)) := by
  have hrun : ((generate 30 rulesOfFour 5 (⟨[], 9⟩ : Listed)).map fun drawn =>
      (drawn.result.isOk, drawn.events)) = some (true, [.assignmentsGenerated 4 3 true]) := by
    decide
  obtain ⟨⟨result, source, events⟩, h, heq⟩ := Option.map_eq_some_iff.1 hrun
  cases result with
  | error e => cases heq
  | ok set =>
    obtain ⟨-, -, hgivers, hreceivers, -, -, hallowed, honeWay⟩ := drawn_pairs_keep_rules h rfl
    exact ⟨_, set, h, rfl, (Prod.mk.inj heq).2, hgivers, hreceivers, hallowed, honeWay rfl⟩

end Drawing

end Generation

end GiftExchange
