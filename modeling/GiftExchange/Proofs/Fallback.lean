import GiftExchange.Proofs.Effort
import GiftExchange.Proofs.Relaxation

set_option autoImplicit false

/-! # What a draw with its fallback answers

A draw finds nothing when it makes all its attempts and no order that it comes to gives pairs which
keep the rules (`FindsNone`). A draw with its fallback fails exactly when the strict draw finds
nothing and the relaxed draw, which goes on with the numbers that the strict one left, finds nothing
either. What it answers keeps the conflicts in both cases. The flag of an answer says which of the two
draws it came from, and so only in one direction whether people give to each other: the relaxed draw
may come to pairs in which nobody does. -/

namespace GiftExchange

theorem toOption_eq_some_iff {ε α : Type} {answer : Except ε α} {a : α} :
    answer.toOption = some a ↔ answer = .ok a := by
  cases answer <;> simp [Except.toOption]

namespace Generation

section Drawing

variable {σ : Type} [RandomSource σ] {fuel fuel' : Nat} {rules : Rules} {maxAttempts : UInt32}
  {receivers order : List Id} {made : List Shuffled} {s s' : σ}

/-! ## Draws that find nothing -/

/-- A draw makes all its attempts, from one source to another, and finds no pairs that keep the rules:
there are too few people to shuffle, or the last of its shuffles is the last that an attempt needs, and
each order that puts nobody at his own place gives pairs that break a rule. -/
inductive FindsNone (fuel : Nat) (rules : Rules) (maxAttempts : UInt32) (s : σ) : σ → Prop where
  | tooFew (few : rules.participants.length < 2) : FindsNone fuel rules maxAttempts s s
  | refused {made : List Shuffled} {order : List Id} {s' : σ}
      (enough : 2 ≤ rules.participants.length)
      (shuffles : Shuffles fuel rules.participants s made order s')
      (last : isDerangement rules.participants order = true)
      (all : (deranged rules.participants made).length = maxAttempts.toNat)
      (broken : ∀ o ∈ deranged rules.participants made, ∀ set : Pairing,
        set.pairs.map Pair.ids = rules.participants.zip o →
          ¬ set.Keeps rules.participants rules.conflicts rules.avoidReciprocal) :
      FindsNone fuel rules maxAttempts s s'

/-- There is no candidate for an order exactly when its pairs break a rule. -/
theorem candidate?_eq_none_iff (hnodup : rules.participants.Nodup)
    (hlen : order.length = rules.participants.length) :
    candidate? rules order = none ↔ ∀ set : Pairing,
      set.pairs.map Pair.ids = rules.participants.zip order →
        ¬ set.Keeps rules.participants rules.conflicts rules.avoidReciprocal := by
  constructor
  · intro hnone set hids hkeeps
    have hperm : order.Perm rules.participants := receivers_of_ids hlen hids ▸ hkeeps.receivers
    obtain ⟨found, hfound, hindexed, hsame⟩ :=
      exists_pairUp hnodup hperm (isDerangement_of_ids hids)
    -- a pair is known by its two identifiers, so the candidate has the pairs of `set`
    have hpairs : set.pairs = found.pairs :=
      List.map_injective_iff.2 pair_ids_injective (hids.trans hsame.symm)
    have hcandidate : candidate? rules order = some found :=
      candidate?_eq_some_iff.2 ⟨hfound, (hindexed.violation?_eq_none_iff hnodup).2
        (keeps_congr (List.Perm.of_eq hpairs) hkeeps)⟩
    rw [hnone] at hcandidate
    cases hcandidate
  · intro hbroken
    cases hcandidate : candidate? rules order with
    | none => rfl
    | some set =>
      obtain ⟨hpair, -⟩ := candidate?_eq_some_iff.1 hcandidate
      exact absurd (candidate_spec hnodup hlen hcandidate).2.2.2
        (hbroken set (Pairing.ofIds_eq_ok hpair).2)

/-- Every shuffle reorders the receivers. -/
theorem Shuffles.perm_of_mem (h : Shuffles fuel receivers s made order s') {o : List Id}
    (ho : o ∈ made.map Shuffled.order) : o.Perm receivers := by
  induction h with
  | none => cases ho
  | @next receivers order js later s s₁ s' first rest ih =>
    rw [List.map_cons, List.mem_cons] at ho
    rcases ho with rfl | ho
    · exact walk_perm js receivers
    · exact (ih ho).trans (walk_perm js receivers)

/-- The last of some shuffles leaves the order in which the receivers are left. -/
theorem Shuffles.mem_of_ne_nil (h : Shuffles fuel receivers s made order s') (hmade : made ≠ []) :
    order ∈ made.map Shuffled.order := by
  induction h with
  | none => exact absurd rfl hmade
  | @next receivers order js later s s₁ s' first rest ih =>
    rw [List.map_cons]
    cases later with
    | nil =>
      cases rest
      exact List.mem_cons_self
    | cons second others => exact List.mem_cons_of_mem _ (ih (List.cons_ne_nil _ _))

theorem Shuffles.length_of_mem_deranged (h : Shuffles fuel receivers s made order s')
    {givers o : List Id} (ho : o ∈ deranged givers made) : o.length = receivers.length :=
  (h.perm_of_mem (List.mem_filter.1 ho).1).length_eq

/-- Attempts whose candidates are all refused end with the last shuffle. -/
theorem attempts_of_refused {left number : Nat} (h : Shuffles fuel receivers s made order s')
    (hlast : made = [] ∨ isDerangement rules.participants order = true)
    (hall : (deranged rules.participants made).length = left)
    (hrefused : ∀ o ∈ deranged rules.participants made, candidate? rules o = none)
    (hfuel : made.length ≤ fuel) :
    attempts fuel rules left number receivers s = some (none, s') := by
  induction left generalizing number receivers s made with
  | zero =>
    -- a last shuffle would put nobody at his own place
    have hmade : made = [] := by
      by_contra hsome
      have hderanged := hlast.resolve_left hsome
      have hmem : order ∈ deranged rules.participants made :=
        List.mem_filter.2 ⟨h.mem_of_ne_nil hsome, hderanged⟩
      rw [List.length_eq_zero_iff.1 hall] at hmem
      cases hmem
    subst hmade
    cases h
    rfl
  | succ left ih =>
    have hsome : deranged rules.participants made ≠ [] := by
      rw [← List.length_pos_iff, hall]
      exact Nat.succ_pos left
    have hderanged : isDerangement rules.participants order = true := by
      refine hlast.resolve_left ?_
      rintro rfl
      exact hsome rfl
    obtain ⟨first, s₁, later, hderange, hlater, hlen, hcandidates⟩ := exists_derange h hsome hfuel
    rw [hcandidates] at hall hrefused
    obtain ⟨hfirst, hothers⟩ := List.forall_mem_cons.1 hrefused
    rw [attempts, hderange, Option.bind_some]
    dsimp only
    rw [hfirst]
    exact ih hlater (.inr hderanged) (Nat.succ.inj hall) hothers (Nat.le_trans hlen hfuel)

section Sound

variable (hmax : 1 ≤ maxAttempts) (hne : rules.participants ≠ [])
  (hnodup : rules.participants.Nodup)

include hmax hne hnodup

/-- Only a group of less than two is refused if there is an attempt and nobody is listed twice. -/
theorem refusal?_of_nodup :
    refusal? rules.participants maxAttempts =
      if rules.participants.length < 2 then
        some (.attemptsExhausted rules.participants.length maxAttempts)
      else none := by
  have hfirst : firstRepeated? [] rules.participants = none :=
    firstRepeated?_eq_none_iff.2 ⟨hnodup, by simp⟩
  have hempty : rules.participants.isEmpty = false := by simpa using hne
  rw [refusal?, if_neg (UInt32.not_lt.2 hmax), hempty, hfirst]
  rfl

/-- A draw that fails ran out of attempts, and found nothing. -/
theorem findsNone_of_generate {drawn : Drawn σ GenerationError Pairing} {err : GenerationError}
    (h : generate fuel rules maxAttempts s = some drawn) (herror : drawn.result = .error err) :
    FindsNone fuel rules maxAttempts s drawn.source ∧
      err = .attemptsExhausted rules.participants.length maxAttempts := by
  rw [generate, refusal?_of_nodup hmax hne hnodup] at h
  split_ifs at h with hfew
  · cases h
    cases herror
    exact ⟨.tooFew hfew, rfl⟩
  · obtain ⟨⟨found, s'⟩, hattempts, rfl⟩ := Option.map_eq_some_iff.1 h
    cases found with
    | some found => cases herror
    | none =>
      cases herror
      obtain ⟨made, order, hmade, hends, hlast⟩ := attempts_shuffles hattempts
      have hleft : 1 ≤ maxAttempts.toNat := one_le_toNat hmax
      cases hends with
      | exhausted all refused =>
        have hderanged : isDerangement rules.participants order = true := by
          refine hlast.resolve_left ?_
          rintro rfl
          rw [← all] at hleft
          cases hleft
        refine ⟨.refused (Nat.not_lt.1 hfew) hmade hderanged all fun o ho => ?_, rfl⟩
        exact (candidate?_eq_none_iff hnodup (hmade.length_of_mem_deranged ho)).1 (refused o ho)

/-- Where a draw finds nothing, it fails with enough fuel. -/
theorem exists_generate_of_findsNone (h : FindsNone fuel rules maxAttempts s s') :
    ∃ fuel', generate fuel' rules maxAttempts s =
      some ⟨.error (.attemptsExhausted rules.participants.length maxAttempts), s', []⟩ := by
  cases h with
  | tooFew few =>
    refine ⟨0, ?_⟩
    rw [generate, refusal?_of_nodup hmax hne hnodup, if_pos few]
  | @refused made order _ enough shuffles last all broken =>
    have hrefused : ∀ o ∈ deranged rules.participants made, candidate? rules o = none := fun o ho =>
      (candidate?_eq_none_iff hnodup (shuffles.length_of_mem_deranged ho)).2 (broken o ho)
    -- enough fuel for each shuffle, and for all of them in one attempt
    have hmore : Shuffles (max fuel made.length) rules.participants s made order s' :=
      shuffles.of_le (Nat.le_max_left _ _)
    refine ⟨max fuel made.length, ?_⟩
    rw [generate, refusal?_of_nodup hmax hne hnodup, if_neg (Nat.not_lt.2 enough),
      attempts_of_refused hmore (.inr last) all hrefused (Nat.le_max_right _ _)]
    rfl

end Sound

/-! ## Requests that are refused -/

/-- The first identifier that is equal to one before it stands behind a list without repetition. -/
theorem exists_split_of_firstRepeated? {seen l : List Id} {id : Id}
    (h : firstRepeated? seen l = some id) :
    ∃ before after, l = before ++ id :: after ∧ before.Nodup ∧ (∀ x ∈ before, x ∉ seen) ∧
      (id ∈ seen ∨ id ∈ before) := by
  induction l generalizing seen with
  | nil => cases h
  | cons first rest ih =>
    rw [firstRepeated?] at h
    split_ifs at h with hseen
    · cases h
      exact ⟨[], rest, rfl, List.nodup_nil, List.forall_mem_nil _, .inl hseen⟩
    · obtain ⟨before, after, rfl, hnodup, hnew, hid⟩ := ih h
      have hfirst : first ∉ before := fun hmem => hnew first hmem List.mem_cons_self
      refine ⟨first :: before, after, rfl, List.nodup_cons.2 ⟨hfirst, hnodup⟩,
        List.forall_mem_cons.2 ⟨hseen, fun x hx hmem => hnew x hx (List.mem_cons_of_mem _ hmem)⟩, ?_⟩
      simp only [List.mem_cons] at hid ⊢
      exact or_left_comm.1 (or_assoc.1 hid)

variable {ids : List Id} {conflicts : Conflicts}

/-- How many numbers a draw with its fallback takes from a source. -/
def numbersDrawnWithFallback (fuel : Nat) (ids : List Id) (conflicts : Conflicts)
    (maxAttempts : UInt32) (s : σ) : Option Nat :=
  (generateWithFallback fuel ids conflicts maxAttempts (Counted.fresh s)).map fun drawn =>
    drawn.source.drawn

/-- A draw with its fallback fails before a number is drawn or anything is logged. -/
def FailsAtOnce (fuel : Nat) (ids : List Id) (conflicts : Conflicts) (maxAttempts : UInt32) (s : σ)
    (err : GenerationError) : Prop :=
  generateWithFallback fuel ids conflicts maxAttempts s = some ⟨.error err, s, []⟩ ∧
    numbersDrawnWithFallback fuel ids conflicts maxAttempts s = some 0

/-- An error that fewer conflicts could not help against, or that an empty group causes, is final. -/
theorem failsAtOnce_of_refusal {err : GenerationError}
    (hrefusal : refusal? ids maxAttempts = some err)
    (hfinal : ¬ (err.isUnsatisfiable = true ∧ ids ≠ [])) (fuel : Nat) (conflicts : Conflicts)
    (s : σ) : FailsAtOnce fuel ids conflicts maxAttempts s err := by
  have hfails : ∀ {τ : Type} [RandomSource τ] (t : τ),
      generateWithFallback fuel ids conflicts maxAttempts t = some ⟨.error err, t, []⟩ := by
    intro τ _ t
    have hstrict : generate fuel ⟨ids, conflicts, true⟩ maxAttempts t =
        some ⟨.error err, t, []⟩ := by
      rw [generate, hrefusal]
    rw [generateWithFallback, hstrict, Option.bind_some]
    dsimp only
    rw [if_neg (by simpa using hfinal)]
  exact ⟨hfails s, by rw [numbersDrawnWithFallback, hfails, Option.map_some]; rfl⟩

theorem failsAtOnce_of_no_attempt (fuel : Nat) (ids : List Id) (conflicts : Conflicts) (s : σ) :
    FailsAtOnce fuel ids conflicts 0 s (.invalidMaxAttempts 0) :=
  failsAtOnce_of_refusal rfl (by simp [GenerationError.isUnsatisfiable, GenerationError.kind]) fuel
    conflicts s

theorem failsAtOnce_of_nobody (hmax : 1 ≤ maxAttempts) (fuel : Nat) (conflicts : Conflicts) (s : σ) :
    FailsAtOnce fuel [] conflicts maxAttempts s .noParticipants := by
  have hrefusal : refusal? [] maxAttempts = some .noParticipants := by
    rw [refusal?, if_neg (UInt32.not_lt.2 hmax)]
    rfl
  exact failsAtOnce_of_refusal hrefusal (by simp) fuel conflicts s

/-- The first identifier that was listed before is the one that is named. -/
theorem exists_failsAtOnce_of_repeated (hmax : 1 ≤ maxAttempts) (hrepeated : ¬ ids.Nodup)
    (fuel : Nat) (conflicts : Conflicts) (s : σ) :
    ∃ before id after, ids = before ++ id :: after ∧ before.Nodup ∧ id ∈ before ∧
      FailsAtOnce fuel ids conflicts maxAttempts s (.duplicateParticipant id) := by
  cases hfirst : firstRepeated? [] ids with
  | none => exact absurd (firstRepeated?_eq_none_iff.1 hfirst).1 hrepeated
  | some id =>
    obtain ⟨before, after, hids, hnodup, -, hid⟩ := exists_split_of_firstRepeated? hfirst
    have hempty : ids.isEmpty = false := by simp [hids]
    have hrefusal : refusal? ids maxAttempts = some (.duplicateParticipant id) := by
      rw [refusal?, if_neg (UInt32.not_lt.2 hmax), hempty, hfirst]
      rfl
    exact ⟨before, id, after, hids, hnodup, hid.resolve_left List.not_mem_nil,
      failsAtOnce_of_refusal hrefusal (by simp [GenerationError.isUnsatisfiable,
        GenerationError.kind]) fuel conflicts s⟩

/-! ## Both draws -/

/-- More fuel leaves the answer as it is. -/
theorem generateWithFallback_of_le {drawn : Drawn σ GenerationError Fallback} (hle : fuel ≤ fuel')
    (h : generateWithFallback fuel ids conflicts maxAttempts s = some drawn) :
    generateWithFallback fuel' ids conflicts maxAttempts s = some drawn := by
  rw [generateWithFallback, Option.bind_eq_some_iff] at h
  obtain ⟨strict, hstrict, h⟩ := h
  rw [generateWithFallback, generate_of_le hle hstrict, Option.bind_some]
  cases hresult : strict.result with
  | ok set =>
    rw [hresult] at h
    exact h
  | error err =>
    rw [hresult] at h
    dsimp only at h ⊢
    split_ifs at h ⊢ with hagain
    · obtain ⟨relaxed, hrelaxed, rfl⟩ := Option.map_eq_some_iff.1 h
      rw [generate_of_le hle hrelaxed, Option.map_some]
    · exact h

/-- Pairs that the strict draw finds are the answer. -/
theorem generateWithFallback_of_strict {strict : Drawn σ GenerationError Pairing} {set : Pairing}
    (h : generate fuel ⟨ids, conflicts, true⟩ maxAttempts s = some strict)
    (hok : strict.result = .ok set) :
    generateWithFallback fuel ids conflicts maxAttempts s =
      some ⟨.ok ⟨set, true⟩, strict.source, strict.events⟩ := by
  rw [generateWithFallback, h, Option.bind_some, hok]

theorem numbersDrawnWithFallback_of_strict {strict : Drawn σ GenerationError Pairing}
    {set : Pairing} (h : generate fuel ⟨ids, conflicts, true⟩ maxAttempts s = some strict)
    (hok : strict.result = .ok set) :
    numbersDrawnWithFallback fuel ids conflicts maxAttempts s =
      numbersDrawn fuel ⟨ids, conflicts, true⟩ maxAttempts s := by
  obtain ⟨counted, hcounted, rfl, hcount⟩ := exists_counted h
  rw [hcount, numbersDrawnWithFallback, generateWithFallback_of_strict hcounted hok,
    Option.map_some]

/-- The flag says whether the strict draw found the pairs. -/
theorem avoidedReciprocal_iff {drawn : Drawn σ GenerationError Fallback} {found : Fallback}
    (h : generateWithFallback fuel ids conflicts maxAttempts s = some drawn)
    (hok : drawn.result = .ok found) :
    found.avoidedReciprocal = true ↔
      ∃ strict set, generate fuel ⟨ids, conflicts, true⟩ maxAttempts s = some strict ∧
        strict.result = .ok set := by
  constructor
  · intro hflag
    obtain ⟨strict, hstrict, ⟨set, hset, -⟩ | ⟨err, -, -, rfl⟩ | ⟨err, relaxed, -, -, -, -, rfl⟩⟩ :=
      generateWithFallback_cases h
    · exact ⟨strict, set, hstrict, hset⟩
    · cases hok
    · -- what the relaxed draw answers has the other flag
      cases hresult : relaxed.result with
      | error err' => simp [hresult, Except.map] at hok
      | ok set =>
        rw [hresult] at hok
        cases hok
        cases hflag
  · rintro ⟨strict, set, hstrict, hset⟩
    rw [generateWithFallback_of_strict hstrict hset] at h
    cases h
    cases hok
    rfl

section Sound

variable (hmax : 1 ≤ maxAttempts) (hne : ids ≠ []) (hnodup : ids.Nodup)

include hmax hne hnodup

/-- A draw with its fallback that fails found nothing in either of its draws. -/
theorem findsNone_of_fallback {drawn : Drawn σ GenerationError Fallback} {err : GenerationError}
    (h : generateWithFallback fuel ids conflicts maxAttempts s = some drawn)
    (herror : drawn.result = .error err) :
    err = .attemptsExhausted ids.length maxAttempts ∧
      ∃ s₁, FindsNone fuel ⟨ids, conflicts, true⟩ maxAttempts s s₁ ∧
        FindsNone fuel ⟨ids, conflicts, false⟩ maxAttempts s₁ drawn.source := by
  obtain ⟨strict, hstrict, ⟨set, -, rfl⟩ | ⟨first, hfirst, hfinal, -⟩ |
    ⟨first, relaxed, hfirst, -, -, hrelaxed, rfl⟩⟩ := generateWithFallback_cases h
  · cases herror
  · -- running out of attempts is never final
    obtain ⟨-, rfl⟩ := findsNone_of_generate hmax hne hnodup hstrict hfirst
    exact absurd ⟨rfl, hne⟩ hfinal
  · cases hlast : relaxed.result with
    | ok set =>
      rw [hlast] at herror
      cases herror
    | error last =>
      rw [hlast] at herror
      cases herror
      obtain ⟨hnone, -⟩ := findsNone_of_generate hmax hne hnodup hstrict hfirst
      obtain ⟨hnone', hexhausted⟩ := findsNone_of_generate hmax hne hnodup hrelaxed hlast
      exact ⟨hexhausted, strict.source, hnone, hnone'⟩

/-- Where neither draw finds anything, the draw with its fallback fails with enough fuel. -/
theorem exists_fallback_of_findsNone {s₁ s₂ : σ}
    (h : FindsNone fuel ⟨ids, conflicts, true⟩ maxAttempts s s₁)
    (h' : FindsNone fuel ⟨ids, conflicts, false⟩ maxAttempts s₁ s₂) :
    ∃ fuel' drawn, generateWithFallback fuel' ids conflicts maxAttempts s = some drawn ∧
      drawn.result = .error (.attemptsExhausted ids.length maxAttempts) ∧ drawn.source = s₂ := by
  obtain ⟨fuel₁, hstrict⟩ := exists_generate_of_findsNone hmax hne hnodup h
  obtain ⟨fuel₂, hrelaxed⟩ := exists_generate_of_findsNone hmax hne hnodup h'
  have hempty : ids.isEmpty = false := by simpa using hne
  refine ⟨max fuel₁ fuel₂, ⟨.error (.attemptsExhausted ids.length maxAttempts), s₂,
    [.assignmentsFallback ids.length]⟩, ?_, rfl, rfl⟩
  rw [generateWithFallback, generate_of_le (Nat.le_max_left _ _) hstrict, Option.bind_some]
  dsimp only
  rw [hempty, generate_of_le (Nat.le_max_right _ _) hrelaxed]
  rfl

/-- A draw with its fallback fails exactly when neither of its draws finds anything. -/
theorem fallback_fails_iff {drawn : Drawn σ GenerationError Fallback}
    (h : generateWithFallback fuel ids conflicts maxAttempts s = some drawn) :
    (∃ err, drawn.result = .error err) ↔
      ∃ s₁, FindsNone fuel ⟨ids, conflicts, true⟩ maxAttempts s s₁ ∧
        FindsNone fuel ⟨ids, conflicts, false⟩ maxAttempts s₁ drawn.source := by
  constructor
  · rintro ⟨err, herror⟩
    exact (findsNone_of_fallback hmax hne hnodup h herror).2
  · -- some other fuel makes it fail, and the answer does not depend on the fuel
    rintro ⟨s₁, hstrict, hrelaxed⟩
    obtain ⟨fuel', failed, hfailed, herror, -⟩ :=
      exists_fallback_of_findsNone hmax hne hnodup hstrict hrelaxed
    have hsame := (generateWithFallback_of_le (Nat.le_max_left fuel fuel') h).symm.trans
      (generateWithFallback_of_le (Nat.le_max_right fuel fuel') hfailed)
    cases hsame
    exact ⟨_, herror⟩

end Sound

/-- **The fallback relaxes one rule, and only when the strict draw finds nothing.** Without an attempt,
without participants and with somebody listed twice a draw with its fallback fails at once, with these
errors in this order; the one who is named is the first who is listed before. Otherwise it can only run
out of attempts, and does so exactly when neither the strict draw nor the relaxed draw behind it finds
pairs that keep their rules. Pairs that it answers pass the check for the conflicts and the flag. The
flag is set exactly when the strict draw has an answer, and then the pairs and the numbers drawn are
those of the strict draw. -/
theorem fallback_relaxes_one_rule (fuel : Nat) (ids : List Id) (conflicts : Conflicts)
    (maxAttempts : UInt32) (s : σ) :
    (maxAttempts = 0 →
      FailsAtOnce fuel ids conflicts maxAttempts s (.invalidMaxAttempts 0)) ∧
    (1 ≤ maxAttempts → ids = [] → FailsAtOnce fuel ids conflicts maxAttempts s .noParticipants) ∧
    (1 ≤ maxAttempts → ¬ ids.Nodup → ∃ before id after, ids = before ++ id :: after ∧
      before.Nodup ∧ id ∈ before ∧
      FailsAtOnce fuel ids conflicts maxAttempts s (.duplicateParticipant id)) ∧
    (1 ≤ maxAttempts → ids ≠ [] → ids.Nodup →
      (∀ drawn, generateWithFallback fuel ids conflicts maxAttempts s = some drawn →
        ((∃ err, drawn.result = .error err) ↔
          ∃ s₁, FindsNone fuel ⟨ids, conflicts, true⟩ maxAttempts s s₁ ∧
            FindsNone fuel ⟨ids, conflicts, false⟩ maxAttempts s₁ drawn.source) ∧
        ∀ err, drawn.result = .error err → err = .attemptsExhausted ids.length maxAttempts) ∧
      ∀ s₁ s₂, FindsNone fuel ⟨ids, conflicts, true⟩ maxAttempts s s₁ →
        FindsNone fuel ⟨ids, conflicts, false⟩ maxAttempts s₁ s₂ →
        ∃ fuel' drawn, generateWithFallback fuel' ids conflicts maxAttempts s = some drawn ∧
          drawn.result = .error (.attemptsExhausted ids.length maxAttempts) ∧ drawn.source = s₂) ∧
    (∀ drawn found, generateWithFallback fuel ids conflicts maxAttempts s = some drawn →
      drawn.result = .ok found →
      found.pairing.violation? ids conflicts found.avoidedReciprocal = none ∧
      (found.avoidedReciprocal = true ↔
        ∃ strict set, generate fuel ⟨ids, conflicts, true⟩ maxAttempts s = some strict ∧
          strict.result = .ok set)) ∧
    ∀ strict set, generate fuel ⟨ids, conflicts, true⟩ maxAttempts s = some strict →
      strict.result = .ok set →
      generateWithFallback fuel ids conflicts maxAttempts s =
        some ⟨.ok ⟨set, true⟩, strict.source, strict.events⟩ ∧
      numbersDrawnWithFallback fuel ids conflicts maxAttempts s =
        numbersDrawn fuel ⟨ids, conflicts, true⟩ maxAttempts s := by
  refine ⟨?_, ?_, ?_, ?_, ?_, fun strict set hstrict hset =>
    ⟨generateWithFallback_of_strict hstrict hset, numbersDrawnWithFallback_of_strict hstrict hset⟩⟩
  · rintro rfl
    exact failsAtOnce_of_no_attempt fuel ids conflicts s
  · rintro hmax rfl
    exact failsAtOnce_of_nobody hmax fuel conflicts s
  · intro hmax hrepeated
    exact exists_failsAtOnce_of_repeated hmax hrepeated fuel conflicts s
  · intro hmax hne hnodup
    refine ⟨fun drawn h => ⟨fallback_fails_iff hmax hne hnodup h, fun err herror => ?_⟩, ?_⟩
    · exact (findsNone_of_fallback hmax hne hnodup h herror).1
    · intro s₁ s₂ hstrict hrelaxed
      exact exists_fallback_of_findsNone hmax hne hnodup hstrict hrelaxed
  · intro drawn found h hok
    obtain ⟨source, once, honce, hset⟩ := generateWithFallback_ok h hok
    obtain ⟨hnodup, -, hindexed, -, hkeeps⟩ := generate_spec honce hset
    exact ⟨(hindexed.violation?_eq_none_iff hnodup).2 hkeeps, avoidedReciprocal_iff h hok⟩

/-- Three people, the first of whom must not give to the second: one of their two derangements is
forbidden. -/
def triangle : List Id := [.ofNat 1, .ofNat 2, .ofNat 3]

def triangleConflicts : Conflicts := Conflicts.empty.forbid (.ofNat 1) (.ofNat 2)

/-- Numbers of two shuffles that come to the forbidden derangement. -/
def forbiddenTwice : Listed := ⟨[0, 0, 0, 0], 0⟩

/-- Numbers of a shuffle that comes to the forbidden derangement and of one that comes to the other. -/
def forbiddenOnce : Listed := ⟨[0, 0, 1431655766, 0], 0⟩

/-- One attempt for three people: both draws come to the forbidden derangement, or only the first one
does, or nothing is drawn because somebody is listed twice. -/
theorem fallback_relaxes_one_rule_of_triangle :
    triangle ≠ [] ∧ triangle.Nodup ∧ (1 : UInt32) ≤ 1 ∧ ¬ (Id.ofNat 4 :: triangle ++ triangle).Nodup ∧
      (∃ drawn s₁, generateWithFallback 5 triangle triangleConflicts 1 forbiddenTwice = some drawn ∧
        drawn.result = .error (.attemptsExhausted 3 1) ∧
        FindsNone 5 ⟨triangle, triangleConflicts, true⟩ 1 forbiddenTwice s₁ ∧
        FindsNone 5 ⟨triangle, triangleConflicts, false⟩ 1 s₁ drawn.source) ∧
      (∃ drawn found, generateWithFallback 5 triangle triangleConflicts 1 forbiddenOnce = some drawn ∧
        drawn.result = .ok found ∧ found.avoidedReciprocal = false ∧
        found.pairing.violation? triangle triangleConflicts false = none) ∧
      ∃ before id after, Id.ofNat 4 :: triangle ++ triangle = before ++ id :: after ∧
        before.Nodup ∧ id ∈ before ∧
        FailsAtOnce 5 (Id.ofNat 4 :: triangle ++ triangle) triangleConflicts 1 forbiddenOnce
          (.duplicateParticipant id) := by
  have hne : triangle ≠ [] := by decide
  have hnodup : triangle.Nodup := by decide
  have hrepeats : ¬ (Id.ofNat 4 :: triangle ++ triangle).Nodup := by decide
  refine ⟨hne, hnodup, by decide, hrepeats, ?_, ?_, ?_⟩
  · have hrun : ((generateWithFallback 5 triangle triangleConflicts 1 forbiddenTwice).map fun drawn =>
        drawn.result.isOk) = some false := by
      decide
    obtain ⟨drawn, h, hisOk⟩ := Option.map_eq_some_iff.1 hrun
    obtain ⟨-, -, -, hsound, -, -⟩ :=
      fallback_relaxes_one_rule 5 triangle triangleConflicts 1 forbiddenTwice
    obtain ⟨hfails, honly⟩ := (hsound (by decide) hne hnodup).1 drawn h
    cases hresult : drawn.result with
    | ok found =>
      rw [hresult] at hisOk
      cases hisOk
    | error err =>
      obtain ⟨s₁, hstrict, hrelaxed⟩ := hfails.1 ⟨err, hresult⟩
      exact ⟨drawn, s₁, h, by rw [hresult, honly err hresult]; rfl, hstrict, hrelaxed⟩
  · have hrun : ((generateWithFallback 5 triangle triangleConflicts 1 forbiddenOnce).map fun drawn =>
        drawn.result.toOption.map Fallback.avoidedReciprocal) = some (some false) := by
      decide
    obtain ⟨drawn, h, hflag⟩ := Option.map_eq_some_iff.1 hrun
    obtain ⟨found, hfound, hunset⟩ := Option.map_eq_some_iff.1 hflag
    have hresult := toOption_eq_some_iff.1 hfound
    obtain ⟨-, -, -, -, hanswer, -⟩ :=
      fallback_relaxes_one_rule 5 triangle triangleConflicts 1 forbiddenOnce
    have hkept := (hanswer drawn found h hresult).1
    rw [hunset] at hkept
    exact ⟨drawn, found, h, hresult, hunset, hkept⟩
  · exact (fallback_relaxes_one_rule 5 (Id.ofNat 4 :: triangle ++ triangle) triangleConflicts 1
      forbiddenOnce).2.2.1 (by decide) hrepeats

/-- **The flag says which draw answered.** Where it is set, no two people give to each other. Where it
is not, the strict draw found nothing, which says nothing about the pairs that the relaxed draw came to
later: two people give to each other among them exactly when the check with that rule refuses them. -/
theorem flag_tells_which_draw {drawn : Drawn σ GenerationError Fallback} {found : Fallback}
    (h : generateWithFallback fuel ids conflicts maxAttempts s = some drawn)
    (hok : drawn.result = .ok found) :
    (found.avoidedReciprocal = true →
      ∀ a b, ¬ (found.pairing.Gives a b ∧ found.pairing.Gives b a)) ∧
    (found.avoidedReciprocal = false →
      ∃ s₁, FindsNone fuel ⟨ids, conflicts, true⟩ maxAttempts s s₁) ∧
    ((∃ a b, found.pairing.Gives a b ∧ found.pairing.Gives b a) ↔
      found.pairing.violation? ids conflicts true ≠ none) := by
  obtain ⟨source, once, honce, hset⟩ := generateWithFallback_ok h hok
  obtain ⟨(hnodup : ids.Nodup), htwo, hindexed, -, hkeeps⟩ := generate_spec honce hset
  obtain ⟨hmax, -, -⟩ := refusal?_eq_none_iff.1 (generate_ok honce hset).1
  have hne : ids ≠ [] := List.length_pos_iff.1 (Nat.lt_of_lt_of_le Nat.zero_lt_two htwo)
  refine ⟨hkeeps.oneWay, fun hflag => ?_, ?_⟩
  · obtain ⟨strict, hstrict, ⟨set, -, rfl⟩ | ⟨err, -, -, rfl⟩ | ⟨err, -, hfails, -⟩⟩ :=
      generateWithFallback_cases h
    · cases hok
      cases hflag
    · cases hok
    · exact ⟨strict.source, (findsNone_of_generate hmax hne hnodup hstrict hfails).1⟩
  · rw [Ne, hindexed.violation?_eq_none_iff hnodup]
    constructor
    · rintro ⟨a, b, hmutual⟩ hstrict
      exact hstrict.oneWay rfl a b hmutual
    · intro hbroken
      by_contra hnobody
      refine hbroken ⟨hkeeps.givers, hkeeps.receivers, hkeeps.allowed, fun _ a b hmutual => ?_⟩
      exact hnobody ⟨a, b, hmutual⟩

/-- The flag is not set for three people who give in a ring, because the strict draw had come to the
forbidden ring before. -/
theorem flag_unset_for_ring_of_three :
    ∃ drawn found, generateWithFallback 5 triangle triangleConflicts 1 forbiddenOnce = some drawn ∧
      drawn.result = .ok found ∧ found.avoidedReciprocal = false ∧
      found.pairing.pairs.map Pair.ids =
        [(.ofNat 1, .ofNat 3), (.ofNat 2, .ofNat 1), (.ofNat 3, .ofNat 2)] ∧
      (∃ s₁, FindsNone 5 ⟨triangle, triangleConflicts, true⟩ 1 forbiddenOnce s₁) ∧
      ¬ ∃ a b, found.pairing.Gives a b ∧ found.pairing.Gives b a := by
  have hrun : ((generateWithFallback 5 triangle triangleConflicts 1 forbiddenOnce).map fun drawn =>
      drawn.result.toOption.map fun found => (found.avoidedReciprocal,
        found.pairing.pairs.map Pair.ids, found.pairing.violation? triangle triangleConflicts true)) =
      some (some (false, [(.ofNat 1, .ofNat 3), (.ofNat 2, .ofNat 1), (.ofNat 3, .ofNat 2)],
        none)) := by
    decide
  obtain ⟨drawn, h, hseen⟩ := Option.map_eq_some_iff.1 hrun
  obtain ⟨found, hfound, hseen⟩ := Option.map_eq_some_iff.1 hseen
  simp only [Prod.mk.injEq] at hseen
  obtain ⟨hunset, hpairs, hpasses⟩ := hseen
  have hresult := toOption_eq_some_iff.1 hfound
  obtain ⟨-, hnone, hmutual⟩ := flag_tells_which_draw h hresult
  exact ⟨drawn, found, h, hresult, hunset, hpairs, hnone hunset,
    fun hsome => hmutual.1 hsome hpasses⟩

end Drawing

end Generation

end GiftExchange
