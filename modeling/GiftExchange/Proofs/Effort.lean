import GiftExchange.Proofs.Fairness

set_option autoImplicit false

/-! # What a draw does until it answers

The number of attempts bounds the shuffles that put nobody at his own place, not the others: an
attempt shuffles until nobody stands at his own place, and only then is there a candidate to check.
`Shuffles` lists the shuffles that lead from one order and source to others. What a draw does is
such a list, and its answer can be read off it (`Ends`): the candidates are the orders that put
nobody at his own place, the first one that keeps the rules is taken, and without one the draw gives
up at the last that it may have. Nothing bounds the length of the list, and with a source that
always leaves somebody in place it has no end. -/

namespace GiftExchange

/-- One shuffle: the places that it drew and the order that it left. -/
structure Shuffled where
  places : List Nat
  order : List Id

namespace Generation

/-- Shuffles one after the other, from an order of the receivers and a source to others. -/
inductive Shuffles {σ : Type} [RandomSource σ] (fuel : Nat) :
    List Id → σ → List Shuffled → List Id → σ → Prop where
  | none {receivers : List Id} {s : σ} : Shuffles fuel receivers s [] receivers s
  | next {receivers order : List Id} {js : List Nat} {later : List Shuffled} {s s₁ s' : σ}
      (first : drawPlaces fuel (receivers.length - 1) s = some (js, s₁))
      (rest : Shuffles fuel (walk js receivers) s₁ later order s') :
      Shuffles fuel receivers s (⟨js, walk js receivers⟩ :: later) order s'

/-- The orders that put nobody at his own place. -/
def deranged (givers : List Id) (made : List Shuffled) : List (List Id) :=
  (made.map Shuffled.order).filter fun order => isDerangement givers order

/-- The orders that leave somebody at his own place. -/
def missed (givers : List Id) (made : List Shuffled) : List (List Id) :=
  (made.map Shuffled.order).filter fun order => !isDerangement givers order

/-- How many places some shuffles draw. -/
def placesDrawn (made : List Shuffled) : Nat :=
  (made.map fun shuffled => shuffled.places.length).sum

theorem deranged_append (givers : List Id) (made later : List Shuffled) :
    deranged givers (made ++ later) = deranged givers made ++ deranged givers later := by
  simp only [deranged, List.map_append, List.filter_append]

theorem length_eq_deranged_add_missed (givers : List Id) (made : List Shuffled) :
    made.length = (deranged givers made).length + (missed givers made).length := by
  rw [deranged, missed, ← List.length_eq_length_filter_add, List.length_map]

section Drawing

variable {σ : Type} [RandomSource σ] {fuel fuel' drawFuel : Nat} {givers receivers : List Id}
  {order order' : List Id} {made later : List Shuffled} {s s₁ s' : σ}

/-! ## Lists of shuffles -/

theorem Shuffles.append (h : Shuffles fuel receivers s made order s₁)
    (h' : Shuffles fuel order s₁ later order' s') :
    Shuffles fuel receivers s (made ++ later) order' s' := by
  induction h with
  | none => exact h'
  | next first _ ih => exact .next first (ih h')

/-- Every shuffle draws a place for each receiver but one. -/
theorem Shuffles.placesDrawn_eq (h : Shuffles fuel receivers s made order s') :
    placesDrawn made = made.length * (receivers.length - 1) := by
  induction h with
  | none => simp [placesDrawn]
  | @next receivers order js later s s₁ s' first _ ih =>
    have hone : js.length = receivers.length - 1 := (drawPlaces_places first).length_eq
    rw [(walk_perm js receivers).length_eq] at ih
    simp only [placesDrawn, List.map_cons, List.sum_cons, List.length_cons] at ih ⊢
    rw [ih, hone, Nat.succ_mul, Nat.add_comm]

theorem drawBelow_of_le {bound j : Nat} (hle : fuel ≤ fuel')
    (h : drawBelow bound fuel s = some (j, s')) : drawBelow bound fuel' s = some (j, s') := by
  induction fuel generalizing fuel' s with
  | zero => cases h
  | succ fuel ih =>
    cases fuel' with
    | zero => exact absurd hle (Nat.not_succ_le_zero fuel)
    | succ fuel' =>
      rw [drawBelow_succ] at h ⊢
      split_ifs at h ⊢ with haccepted
      · exact h
      · exact ih (Nat.le_of_succ_le_succ hle) h

theorem drawPlaces_of_le {last : Nat} {js : List Nat} (hle : fuel ≤ fuel')
    (h : drawPlaces fuel last s = some (js, s')) : drawPlaces fuel' last s = some (js, s') := by
  induction last generalizing s js with
  | zero => exact h
  | succ last ih =>
    rw [drawPlaces, Option.bind_eq_some_iff] at h
    obtain ⟨⟨j, s₁⟩, hj, hrest⟩ := h
    obtain ⟨⟨js', s₂⟩, hjs, heq⟩ := Option.map_eq_some_iff.1 hrest
    cases heq
    simp only [drawPlaces, drawBelow_of_le hle hj, Option.bind_some, ih hjs, Option.map_some]

/-- More fuel leaves the shuffles as they are. -/
theorem Shuffles.of_le (hle : fuel ≤ fuel') (h : Shuffles fuel receivers s made order s') :
    Shuffles fuel' receivers s made order s' := by
  induction h with
  | none => exact .none
  | next first _ ih => exact .next (drawPlaces_of_le hle first) ih

/-- Every shuffle of at least two receivers draws a number. -/
theorem Shuffles.drawn_le {c c' : Counted σ} (h : Shuffles fuel receivers c made order c')
    (htwo : 2 ≤ receivers.length) : c.drawn + made.length ≤ c'.drawn := by
  induction h with
  | none => exact Nat.le_refl _
  | @next receivers order js later c c₁ c' first _ ih =>
    have hone := drawPlaces_drawn first
    have hothers := ih (by rwa [(walk_perm js receivers).length_eq])
    rw [List.length_cons]
    omega

/-- The shuffles between two counts of a source are determined. -/
theorem Shuffles.unique {c c' : Counted σ} (h : Shuffles fuel receivers c made order c')
    (htwo : 2 ≤ receivers.length) (h' : Shuffles fuel receivers c later order' c') :
    later = made := by
  induction h generalizing later with
  | none =>
    have hnone := h'.drawn_le htwo
    exact List.length_eq_zero_iff.1 (by omega)
  | @next receivers order js rest c c₁ c' first hrest ih =>
    have hlen : 2 ≤ (walk js receivers).length := by rwa [(walk_perm js receivers).length_eq]
    cases h' with
    | none =>
      have hmore := (Shuffles.next first hrest).drawn_le htwo
      rw [List.length_cons] at hmore
      omega
    | next first' hrest' =>
      rw [first] at first'
      cases first'
      rw [ih hlen hrest']

/-! ## From a draw to its shuffles -/

/-- An attempt shuffles up to the first order that puts nobody at his own place. -/
theorem derange_shuffles (h : derange givers drawFuel fuel receivers s = some (order, s')) :
    ∃ made, Shuffles drawFuel receivers s made order s' ∧ deranged givers made = [order] := by
  induction fuel generalizing receivers s with
  | zero => cases h
  | succ fuel ih =>
    rw [derange, Option.bind_eq_some_iff] at h
    obtain ⟨⟨shuffled, s₁⟩, hshuffle, h⟩ := h
    obtain ⟨js, hjs, rfl⟩ := shuffle_eq_some_iff.1 hshuffle
    dsimp only at h
    split_ifs at h with hderanged
    · cases h
      exact ⟨_, .next hjs .none, by simp [deranged, hderanged]⟩
    · obtain ⟨made, hmade, hone⟩ := ih h
      refine ⟨_, .next hjs hmade, ?_⟩
      rw [← hone]
      simp [deranged, hderanged]

/-- How some attempts end that made these shuffles, the last of which left `order`: with the first
candidate that keeps the rules, or with none of as many as were left. -/
inductive Ends (rules : Rules) (left number : Nat) (made : List Shuffled) (order : List Id) :
    Option (Pairing × Nat) → Prop where
  | found {earlier : List (List Id)} {set : Pairing}
      (candidates : deranged rules.participants made = earlier ++ [order])
      (inTime : earlier.length < left) (refused : ∀ o ∈ earlier, candidate? rules o = none)
      (accepted : candidate? rules order = some set) :
      Ends rules left number made order (some (set, number + earlier.length))
  | exhausted (all : (deranged rules.participants made).length = left)
      (refused : ∀ o ∈ deranged rules.participants made, candidate? rules o = none) :
      Ends rules left number made order none

variable {rules : Rules} {left number : Nat} {found : Option (Pairing × Nat)}

/-- An attempt whose candidate is refused goes before the others. -/
theorem Ends.cons {before : List Shuffled} (h : Ends rules left (number + 1) made order found)
    (hbefore : deranged rules.participants before = [order'])
    (hrefused : candidate? rules order' = none) :
    Ends rules (left + 1) number (before ++ made) order found := by
  have hcandidates : deranged rules.participants (before ++ made) =
      order' :: deranged rules.participants made := by
    rw [deranged_append, hbefore, List.singleton_append]
  cases h with
  | @found earlier set candidates inTime refused accepted =>
    have hnumber : number + 1 + earlier.length = number + (order' :: earlier).length := by
      rw [List.length_cons]
      omega
    rw [hnumber]
    refine .found ?_ (Nat.succ_lt_succ inTime) (List.forall_mem_cons.2 ⟨hrefused, refused⟩) accepted
    rw [hcandidates, candidates, List.cons_append]
  | exhausted all refused =>
    refine .exhausted ?_ ?_
    · rw [hcandidates, List.length_cons, all]
    · rw [hcandidates]
      exact List.forall_mem_cons.2 ⟨hrefused, refused⟩

theorem Ends.length_deranged_le (h : Ends rules left number made order found) :
    (deranged rules.participants made).length ≤ left := by
  cases h with
  | found candidates inTime refused accepted =>
    rw [candidates, List.length_append, List.length_singleton]
    exact inTime
  | exhausted all refused => exact Nat.le_of_eq all

theorem Ends.deranged_ne_nil (h : Ends rules left number made order found) (hleft : 1 ≤ left) :
    deranged rules.participants made ≠ [] := by
  intro hnone
  cases h with
  | found candidates inTime refused accepted => simp [hnone] at candidates
  | exhausted all refused =>
    rw [← all, hnone] at hleft
    cases hleft

theorem attempts_shuffles (h : attempts fuel rules left number receivers s = some (found, s')) :
    ∃ made order, Shuffles fuel receivers s made order s' ∧
      Ends rules left number made order found ∧
      (made = [] ∨ isDerangement rules.participants order = true) := by
  induction left generalizing number receivers s with
  | zero =>
    cases h
    exact ⟨[], receivers, .none, .exhausted rfl (List.forall_mem_nil _), .inl rfl⟩
  | succ left ih =>
    rw [attempts, Option.bind_eq_some_iff] at h
    obtain ⟨⟨first, s₁⟩, hderange, h⟩ := h
    obtain ⟨before, hbefore, hone⟩ := derange_shuffles hderange
    have hderanged : isDerangement rules.participants first = true := (derange_spec hderange).2
    dsimp only at h
    cases hcandidate : candidate? rules first with
    | some set =>
      rw [hcandidate] at h
      cases h
      have hends : Ends rules (left + 1) number before first
          (some (set, number + ([] : List (List Id)).length)) :=
        .found hone (Nat.succ_pos left) (List.forall_mem_nil _) hcandidate
      exact ⟨before, first, hbefore, hends, .inr hderanged⟩
    | none =>
      rw [hcandidate] at h
      obtain ⟨made, order, hmade, hends, hlast⟩ := ih h
      refine ⟨before ++ made, order, hbefore.append hmade, hends.cons hone hcandidate, .inr ?_⟩
      rcases hlast with rfl | hlast
      · cases hmade
        exact hderanged
      · exact hlast

/-! ## More fuel -/

theorem shuffle_of_le {xs ys : List Id} (hle : fuel ≤ fuel')
    (h : shuffle fuel xs s = some (ys, s')) : shuffle fuel' xs s = some (ys, s') := by
  rw [shuffle_eq_some_iff] at h ⊢
  obtain ⟨js, hjs, hwalk⟩ := h
  exact ⟨js, drawPlaces_of_le hle hjs, hwalk⟩

theorem derange_of_le {drawFuel' : Nat} (hdraw : drawFuel ≤ drawFuel') (hle : fuel ≤ fuel')
    (h : derange givers drawFuel fuel receivers s = some (order, s')) :
    derange givers drawFuel' fuel' receivers s = some (order, s') := by
  induction fuel generalizing fuel' receivers s with
  | zero => cases h
  | succ fuel ih =>
    cases fuel' with
    | zero => exact absurd hle (Nat.not_succ_le_zero fuel)
    | succ fuel' =>
      rw [derange, Option.bind_eq_some_iff] at h
      obtain ⟨⟨shuffled, s₁⟩, hshuffle, h⟩ := h
      rw [derange, shuffle_of_le hdraw hshuffle, Option.bind_some]
      dsimp only at h ⊢
      split_ifs at h ⊢ with hderanged
      · exact h
      · exact ih (Nat.le_of_succ_le_succ hle) h

theorem attempts_of_le (hle : fuel ≤ fuel')
    (h : attempts fuel rules left number receivers s = some (found, s')) :
    attempts fuel' rules left number receivers s = some (found, s') := by
  induction left generalizing number receivers s with
  | zero => exact h
  | succ left ih =>
    rw [attempts, Option.bind_eq_some_iff] at h
    obtain ⟨⟨first, s₁⟩, hderange, h⟩ := h
    rw [attempts, derange_of_le hle hle hderange, Option.bind_some]
    dsimp only at h ⊢
    cases hcandidate : candidate? rules first with
    | some set =>
      rw [hcandidate] at h
      exact h
    | none =>
      rw [hcandidate] at h
      exact ih h

/-- More fuel leaves the answer of a draw as it is. -/
theorem generate_of_le {maxAttempts : UInt32} {drawn : Drawn σ GenerationError Pairing}
    (hle : fuel ≤ fuel') (h : generate fuel rules maxAttempts s = some drawn) :
    generate fuel' rules maxAttempts s = some drawn := by
  rw [generate] at h ⊢
  cases hrefusal : refusal? rules.participants maxAttempts with
  | some err =>
    rw [hrefusal] at h
    exact h
  | none =>
    rw [hrefusal] at h
    obtain ⟨⟨found, s'⟩, hattempts, rfl⟩ := Option.map_eq_some_iff.1 h
    dsimp only
    rw [attempts_of_le hle hattempts, Option.map_some]

/-! ## From shuffles to the end of a draw -/

/-- An attempt that can go on until nobody stands at his own place does, and leaves the shuffles
behind that one to the next attempt. -/
theorem exists_derange (h : Shuffles drawFuel receivers s made order s')
    (hsome : deranged givers made ≠ []) (hfuel : made.length ≤ fuel) :
    ∃ first s₁ later, derange givers drawFuel fuel receivers s = some (first, s₁) ∧
      Shuffles drawFuel first s₁ later order s' ∧ later.length ≤ made.length ∧
      deranged givers made = first :: deranged givers later := by
  induction h generalizing fuel with
  | none => exact absurd rfl hsome
  | @next receivers order js later s s₁ s' first rest ih =>
    cases fuel with
    | zero => exact absurd hfuel (Nat.not_succ_le_zero _)
    | succ fuel =>
      have hshuffle : shuffle drawFuel receivers s = some (walk js receivers, s₁) :=
        shuffle_eq_some_iff.2 ⟨js, first, rfl⟩
      rw [derange, hshuffle, Option.bind_some]
      by_cases hderanged : isDerangement givers (walk js receivers) = true
      · refine ⟨walk js receivers, s₁, later, by simp [hderanged], rest, Nat.le_succ _, ?_⟩
        simp [deranged, hderanged]
      · have hskip :
            deranged givers (⟨js, walk js receivers⟩ :: later) = deranged givers later := by
          simp [deranged, hderanged]
        rw [hskip] at hsome ⊢
        obtain ⟨found, s₂, others, hderange, hothers, hlen, hcandidates⟩ :=
          ih hsome (Nat.le_of_succ_le_succ hfuel)
        exact ⟨found, s₂, others, by simpa [hderanged] using hderange, hothers,
          Nat.le_succ_of_le hlen, hcandidates⟩

/-- Attempts end at the latest when there were as many candidates as attempts. -/
theorem exists_attempts (h : Shuffles fuel receivers s made order s')
    (hmany : left ≤ (deranged rules.participants made).length) (hfuel : made.length ≤ fuel) :
    ∃ found s₁, attempts fuel rules left number receivers s = some (found, s₁) := by
  induction left generalizing number receivers s made with
  | zero => exact ⟨none, s, rfl⟩
  | succ left ih =>
    have hsome : deranged rules.participants made ≠ [] := by
      rw [← List.length_pos_iff]
      exact Nat.lt_of_lt_of_le (Nat.succ_pos left) hmany
    obtain ⟨first, s₁, later, hderange, hlater, hlen, hcandidates⟩ := exists_derange h hsome hfuel
    rw [hcandidates, List.length_cons] at hmany
    rw [attempts, hderange, Option.bind_some]
    dsimp only
    cases candidate? rules first with
    | some set => exact ⟨_, _, rfl⟩
    | none => exact ih hlater (Nat.le_of_succ_le_succ hmany) (Nat.le_trans hlen hfuel)

/-- A draw ends where its source comes to as many candidates as there are attempts. -/
theorem exists_generate {maxAttempts : UInt32}
    (hrefusal : refusal? rules.participants maxAttempts = none)
    (h : Shuffles fuel rules.participants s made order s')
    (hmany : maxAttempts.toNat ≤ (deranged rules.participants made).length) :
    ∃ fuel' drawn, generate fuel' rules maxAttempts s = some drawn := by
  -- enough fuel for each shuffle, and for all of them in one attempt
  have hmore : Shuffles (max fuel made.length) rules.participants s made order s' :=
    h.of_le (Nat.le_max_left _ _)
  obtain ⟨found, s₁, hattempts⟩ := exists_attempts hmore hmany (Nat.le_max_right _ _)
  refine ⟨max fuel made.length, ?_⟩
  rw [generate, hrefusal, hattempts]
  exact ⟨_, rfl⟩

/-- **Each attempt ends at a derangement, and there are no more attempts than allowed.** A draw for
a group of at least two that repeats nobody makes shuffles of one place for each member but one. At
most `maxAttempts` of them put nobody at his own place, and the last one does; every other one
leaves somebody at his own place and is followed by the next shuffle of the same attempt. The answer
is the first candidate that keeps the rules, and the number that is logged is the number of
candidates; without an answer there were exactly `maxAttempts` of them. And a draw does return where
its source comes to `maxAttempts` shuffles that put nobody at his own place. Where the numbers of a
source are counted, no other shuffles lead to what is left of it. -/
theorem attempts_bound_derangements {maxAttempts : UInt32}
    (hmax : 1 ≤ maxAttempts) (hnodup : rules.participants.Nodup)
    (htwo : 2 ≤ rules.participants.length) :
    (∀ drawn, generate fuel rules maxAttempts s = some drawn →
      ∃ made order, Shuffles fuel rules.participants s made order drawn.source ∧
        (deranged rules.participants made).length ≤ maxAttempts.toNat ∧
        isDerangement rules.participants order = true ∧
        made.length =
          (deranged rules.participants made).length + (missed rules.participants made).length ∧
        placesDrawn made = made.length * (rules.participants.length - 1) ∧
        ((∃ set earlier, drawn.result = .ok set ∧
          deranged rules.participants made = earlier ++ [order] ∧
          (∀ o ∈ earlier, candidate? rules o = none) ∧ candidate? rules order = some set ∧
          drawn.events = [.assignmentsGenerated rules.participants.length
            (deranged rules.participants made).length rules.avoidReciprocal]) ∨
        (drawn.result = .error (.attemptsExhausted rules.participants.length maxAttempts) ∧
          (deranged rules.participants made).length = maxAttempts.toNat ∧
          ∀ o ∈ deranged rules.participants made, candidate? rules o = none))) ∧
    (∀ made order s', Shuffles fuel rules.participants s made order s' →
      maxAttempts.toNat ≤ (deranged rules.participants made).length →
      ∃ fuel' drawn, generate fuel' rules maxAttempts s = some drawn) ∧
    ∀ {τ : Type} [RandomSource τ] (c c' : Counted τ) (made made' : List Shuffled)
      (order order' : List Id), Shuffles fuel rules.participants c made order c' →
      Shuffles fuel rules.participants c made' order' c' → made' = made := by
  have hrefusal : refusal? rules.participants maxAttempts = none :=
    refusal?_eq_none_iff.2 ⟨hmax, hnodup, htwo⟩
  refine ⟨?_, fun made order s' hmade hmany => exists_generate hrefusal hmade hmany,
    fun c c' made made' order order' h h' => h.unique htwo h'⟩
  intro drawn h
  rw [generate, hrefusal] at h
  obtain ⟨⟨found, s'⟩, hattempts, rfl⟩ := Option.map_eq_some_iff.1 h
  obtain ⟨made, order, hmade, hends, hlast⟩ := attempts_shuffles hattempts
  have hleft : 1 ≤ maxAttempts.toNat := one_le_toNat hmax
  have hderanged : isDerangement rules.participants order = true := by
    rcases hlast with rfl | hlast
    · exact absurd rfl (hends.deranged_ne_nil hleft)
    · exact hlast
  have hbound : (deranged rules.participants made).length ≤ maxAttempts.toNat :=
    hends.length_deranged_le
  have hlength := length_eq_deranged_add_missed rules.participants made
  cases hends with
  | @found earlier set candidates inTime refused accepted =>
    have hcount : (deranged rules.participants made).length = 1 + earlier.length := by
      rw [candidates, List.length_append, List.length_singleton, Nat.add_comm]
    refine ⟨made, order, hmade, hbound, hderanged, hlength, hmade.placesDrawn_eq, .inl ?_⟩
    exact ⟨set, earlier, rfl, candidates, refused, accepted, by rw [hcount]⟩
  | exhausted all refused =>
    exact ⟨made, order, hmade, hbound, hderanged, hlength, hmade.placesDrawn_eq,
      .inr ⟨rfl, all, refused⟩⟩

/-- Four people whose third candidate keeps the rules, found by the fifth shuffle. -/
theorem attempts_bound_derangements_of_four :
    (1 : UInt32) ≤ 5 ∧ rulesOfFour.participants.Nodup ∧ 2 ≤ rulesOfFour.participants.length ∧
      ∃ drawn made order, generate 30 rulesOfFour 5 (⟨[], 9⟩ : Listed) = some drawn ∧
        drawn.events = [.assignmentsGenerated 4 3 true] ∧
        Shuffles 30 rulesOfFour.participants (⟨[], 9⟩ : Listed) made order drawn.source ∧
        (deranged rulesOfFour.participants made).length = 3 ∧
        placesDrawn made = made.length * 3 := by
  have hmax : (1 : UInt32) ≤ 5 := by decide
  have hnodup : rulesOfFour.participants.Nodup := by decide
  have htwo : 2 ≤ rulesOfFour.participants.length := by decide
  have hrun : ((generate 30 rulesOfFour 5 (⟨[], 9⟩ : Listed)).map fun drawn =>
      (drawn.result.isOk, drawn.events)) = some (true, [.assignmentsGenerated 4 3 true]) := by
    decide
  obtain ⟨drawn, h, heq⟩ := Option.map_eq_some_iff.1 hrun
  obtain ⟨hisOk, hevents⟩ := Prod.mk.inj heq
  obtain ⟨made, order, hmade, -, -, -, hplaces, hanswer⟩ :=
    (attempts_bound_derangements hmax hnodup htwo).1 drawn h
  refine ⟨hmax, hnodup, htwo, drawn, made, order, h, hevents, hmade, ?_, hplaces⟩
  rcases hanswer with ⟨set, earlier, -, -, -, -, hlogged⟩ | ⟨hfailed, -, -⟩
  · simp only [hevents, List.cons.injEq, Event.assignmentsGenerated.injEq] at hlogged
    exact hlogged.1.2.1.symm
  · rw [hfailed] at hisOk
    cases hisOk

/-- A source that hands out the same number again and again. -/
structure Constant where
  number : UInt32

instance : RandomSource Constant where
  next s := (s.number, s)

/-- Two people and no rule. -/
def rulesOfTwo : Rules := ⟨[.ofNat 1, .ofNat 2], .empty, false⟩

/-- Numbers of a shuffle that leaves two people in their places, and of one that exchanges them. -/
def secondTry : Listed := ⟨[2147483648, 0], 0⟩

theorem derange_of_constant (drawFuel fuel : Nat) :
    derange rulesOfTwo.participants drawFuel fuel rulesOfTwo.participants
      (⟨2147483648⟩ : Constant) = none := by
  induction fuel with
  | zero => rfl
  | succ fuel ih =>
    cases drawFuel with
    | zero => rfl
    | succ drawFuel =>
      -- both stay in their places, and the source is as it was
      have hsame : shuffle (drawFuel + 1) rulesOfTwo.participants (⟨2147483648⟩ : Constant) =
          some (rulesOfTwo.participants, ⟨2147483648⟩) := rfl
      rw [derange, hsame, Option.bind_some]
      exact ih

/-- One attempt for two people makes two shuffles, of one place each, with a source whose first
shuffle leaves them in their places; and with a source that always does so it never returns. -/
theorem one_attempt_shuffles_again :
    rulesOfTwo.participants.Nodup ∧ rulesOfTwo.participants.length = 2 ∧
      (∃ drawn, generate 2 rulesOfTwo 1 (Counted.fresh secondTry) = some drawn ∧
        (∃ made order, Shuffles 2 rulesOfTwo.participants (Counted.fresh secondTry) made order
          drawn.source) ∧
        ∀ made order, Shuffles 2 rulesOfTwo.participants (Counted.fresh secondTry) made order
          drawn.source → made.length = 2 ∧ ¬ made.length ≤ (1 : UInt32).toNat ∧
            ¬ placesDrawn made ≤ (1 : UInt32).toNat * (rulesOfTwo.participants.length - 1)) ∧
      ∀ fuel, generate fuel rulesOfTwo 1 (⟨2147483648⟩ : Constant) = none := by
  have hrun : (generate 2 rulesOfTwo 1 (Counted.fresh secondTry)).map Drawn.source =
      some ⟨⟨[], 0⟩, 2⟩ := rfl
  obtain ⟨drawn, hdrawn, hsource⟩ := Option.map_eq_some_iff.1 hrun
  have hmade : Shuffles 2 rulesOfTwo.participants (Counted.fresh secondTry)
      [⟨[1], rulesOfTwo.participants⟩, ⟨[0], [.ofNat 2, .ofNat 1]⟩] [.ofNat 2, .ofNat 1]
      drawn.source := by
    rw [hsource]
    exact .next rfl (.next rfl .none)
  refine ⟨by decide, rfl, ⟨drawn, hdrawn, ⟨_, _, hmade⟩, fun made order h => ?_⟩, fun fuel => ?_⟩
  · rw [hmade.unique (by decide) h]
    decide
  · have hrefusal : refusal? rulesOfTwo.participants 1 = none := by decide
    rw [generate, hrefusal]
    simp only [show (1 : UInt32).toNat = 1 from rfl, attempts, derange_of_constant,
      Option.bind_none, Option.map_none]

end Drawing

end Generation

end GiftExchange
