import GiftExchange.Proofs.Generation
import Mathlib.Data.Set.Card

set_option autoImplicit false

/-! # Every allowed outcome has one vector of draws

A shuffle is the walk of the places that it draws (`Places`, `walk`), so what a draw answers on its
first shuffle is a function of that one vector: `accepted?` for the order of the receivers and
`firstPairing?` for the pairs. Each derangement of the group, and each pairing that keeps the
rules, is the value at exactly one vector. Bounded draws being even, no outcome is favoured.

That these functions speak of the real draws is said with a source that counts its numbers: what is
answered with nothing drawn behind the first shuffle is what they say. -/

namespace GiftExchange

namespace Generation

/-- The order that is accepted on a shuffle which draws the places `js`. -/
def accepted? (givers receivers : List Id) (js : List Nat) : Option (List Id) :=
  if isDerangement givers (walk js receivers) then some (walk js receivers) else none

/-- The pairs that are answered on the first shuffle if that draws the places `js`. -/
def firstPairing? (rules : Rules) (js : List Nat) : Option Pairing :=
  (accepted? rules.participants rules.participants js).bind (candidate? rules)

/-- The vectors of draws for which the first shuffle gives the pairs of `set`. -/
def drawsFor (rules : Rules) (set : Pairing) : Set (List Nat) :=
  { js | Places (rules.participants.length - 1) js ∧
    ∃ found, firstPairing? rules js = some found ∧ found.pairs.Perm set.pairs }

theorem accepted?_eq_some_iff {givers receivers order : List Id} {js : List Nat} :
    accepted? givers receivers js = some order ↔
      walk js receivers = order ∧ isDerangement givers order = true := by
  rw [accepted?]
  constructor
  · intro h
    split at h
    · rename_i hderanged
      cases h
      exact ⟨rfl, hderanged⟩
    · cases h
  · rintro ⟨rfl, hderanged⟩
    rw [if_pos hderanged]

/-! ## The one order behind a pairing -/

/-- Who gives to whom does not depend on the order of the pairs. -/
theorem gives_congr {s t : Pairing} (h : s.pairs.Perm t.pairs) (a b : Id) :
    s.Gives a b ↔ t.Gives a b := by
  simp only [Pairing.Gives, h.mem_iff]

theorem keeps_congr {s t : Pairing} {ids : List Id} {conflicts : Conflicts} {avoid : Bool}
    (h : s.pairs.Perm t.pairs) (hs : s.Keeps ids conflicts avoid) :
    t.Keeps ids conflicts avoid where
  givers := (h.map Pair.giver).symm.trans hs.givers
  receivers := (h.map Pair.receiver).symm.trans hs.receivers
  allowed p hp := hs.allowed p (h.mem_iff.2 hp)
  oneWay havoid a b := by
    rw [← gives_congr h, ← gives_congr h]
    exact hs.oneWay havoid a b

/-- The pairs of a group can be listed in the order of the group. -/
theorem exists_pairs_in_order {pairs : List Pair} {ids : List Id}
    (h : (pairs.map Pair.giver).Perm ids) :
    ∃ sorted : List Pair, sorted.Perm pairs ∧ sorted.map Pair.giver = ids := by
  have hpairs : List.Forall₂ (fun id p => id = Pair.giver p) (pairs.map Pair.giver) pairs :=
    List.forall₂_map_left_iff.2 (List.forall₂_same.2 fun _ _ => rfl)
  obtain ⟨sorted, hsorted, hperm⟩ := List.perm_comp_forall₂ h.symm hpairs
  have heq : List.Forall₂ Eq ids (sorted.map Pair.giver) := List.forall₂_map_right_iff.2 hsorted
  rw [List.forall₂_eq_eq_eq] at heq
  exact ⟨sorted, hperm, heq.symm⟩

theorem pair_ids_injective : Function.Injective Pair.ids := by
  rintro ⟨a, b, _⟩ ⟨c, d, _⟩ h
  cases h
  rfl

/-- Behind every pairing that keeps the rules stands an order of the receivers that is a derangement
and whose candidate has the same pairs. -/
theorem exists_order_of_keeps {rules : Rules} {set : Pairing} (hnodup : rules.participants.Nodup)
    (hset : set.Keeps rules.participants rules.conflicts rules.avoidReciprocal) :
    ∃ order found, order.Perm rules.participants ∧
      isDerangement rules.participants order = true ∧ candidate? rules order = some found ∧
      found.pairs.Perm set.pairs := by
  obtain ⟨sorted, hperm, hgivers⟩ := exists_pairs_in_order hset.givers
  have hreceivers : (sorted.map Pair.receiver).Perm rules.participants :=
    (hperm.map Pair.receiver).trans hset.receivers
  have hzip : rules.participants.zip (sorted.map Pair.receiver) = sorted.map Pair.ids := by
    rw [← hgivers]
    exact List.zip_map'
  have hderanged : isDerangement rules.participants (sorted.map Pair.receiver) = true :=
    isDerangement_of_ids hzip.symm
  obtain ⟨found, hfound, hindexed, hids⟩ := exists_pairUp hnodup hreceivers hderanged
  -- a pair is known by its two identifiers, so the candidate has the sorted pairs
  have hsame : found.pairs = sorted :=
    List.map_injective_iff.2 pair_ids_injective (hids.trans hzip)
  have hpairs : found.pairs.Perm set.pairs := hsame ▸ hperm
  exact ⟨sorted.map Pair.receiver, found, hreceivers, hderanged, candidate?_eq_some_iff.2
    ⟨hfound, (hindexed.violation?_eq_none_iff hnodup).2 (keeps_congr hpairs.symm hset)⟩, hpairs⟩

/-- The order of the receivers can be read off the candidate. -/
theorem map_receiverOf?_of_candidate {rules : Rules} {order : List Id} {set : Pairing}
    (hnodup : rules.participants.Nodup) (hlen : order.length = rules.participants.length)
    (h : candidate? rules order = some set) :
    rules.participants.map set.receiverOf? = order.map some := by
  obtain ⟨hindexed, hgivers, hreceivers, -⟩ := candidate_spec hnodup hlen h
  rw [← hreceivers, ← hgivers, List.map_map, List.map_map]
  refine List.map_congr_left fun p hp => ?_
  exact hindexed.receiverOf?_eq_some_iff.2 ⟨p, hp, rfl, rfl⟩

theorem order_unique {rules : Rules} {order₁ order₂ : List Id} {set₁ set₂ : Pairing}
    (hnodup : rules.participants.Nodup) (hlen₁ : order₁.length = rules.participants.length)
    (hlen₂ : order₂.length = rules.participants.length)
    (h₁ : candidate? rules order₁ = some set₁) (h₂ : candidate? rules order₂ = some set₂)
    (hpairs : set₁.pairs.Perm set₂.pairs) : order₁ = order₂ := by
  have hindexed₁ := (candidate_spec hnodup hlen₁ h₁).1
  have hindexed₂ := (candidate_spec hnodup hlen₂ h₂).1
  -- equal pairs give equal lookups, and the lookups spell out the order
  have hlookup : set₁.receiverOf? = set₂.receiverOf? := by
    funext id
    refine Option.ext fun r => ?_
    rw [hindexed₁.receiverOf?_eq_some_iff, hindexed₂.receiverOf?_eq_some_iff]
    exact gives_congr hpairs id r
  have hsome : order₁.map some = order₂.map some := by
    rw [← map_receiverOf?_of_candidate hnodup hlen₁ h₁,
      ← map_receiverOf?_of_candidate hnodup hlen₂ h₂, hlookup]
  exact List.map_injective_iff.2 (Option.some_injective Id) hsome

/-! ## One vector for each outcome -/

/-- Every derangement is accepted for exactly one vector, whatever order the receivers start in. -/
theorem existsUnique_accepted {participants receivers d : List Id} (hnodup : participants.Nodup)
    (htwo : 2 ≤ participants.length) (hreceivers : receivers.Perm participants)
    (hd : d.Perm participants) (hderanged : isDerangement participants d = true) :
    ∃! js, Places (participants.length - 1) js ∧ accepted? participants receivers js = some d := by
  have hne : receivers ≠ [] := by
    rintro rfl
    rw [← hreceivers.length_eq] at htwo
    simp at htwo
  have hwalk := existsUnique_walk hne (hreceivers.nodup_iff.2 hnodup) (hd.trans hreceivers.symm)
  rw [hreceivers.length_eq] at hwalk
  simpa only [accepted?_eq_some_iff, hderanged, and_true] using hwalk

theorem firstPairing?_eq_some_iff {rules : Rules} {js : List Nat} {set : Pairing} :
    firstPairing? rules js = some set ↔
      ∃ order, accepted? rules.participants rules.participants js = some order ∧
        candidate? rules order = some set := by
  rw [firstPairing?, Option.bind_eq_some_iff]

/-- Every pairing that keeps the rules is answered for exactly one vector. -/
theorem existsUnique_drawsFor {rules : Rules} {set : Pairing}
    (hnodup : rules.participants.Nodup) (htwo : 2 ≤ rules.participants.length)
    (hset : set.Keeps rules.participants rules.conflicts rules.avoidReciprocal) :
    ∃! js, js ∈ drawsFor rules set := by
  obtain ⟨order, found, hperm, hderanged, hfound, hpairs⟩ := exists_order_of_keeps hnodup hset
  obtain ⟨js, ⟨hplaces, haccepted⟩, huniq⟩ :=
    existsUnique_accepted hnodup htwo (List.Perm.refl _) hperm hderanged
  refine ⟨js, ⟨hplaces, found, firstPairing?_eq_some_iff.2 ⟨order, haccepted, hfound⟩, hpairs⟩, ?_⟩
  rintro js' ⟨hplaces', found', hfirst', hpairs'⟩
  obtain ⟨order', haccepted', hfound'⟩ := firstPairing?_eq_some_iff.1 hfirst'
  have hperm' : order'.Perm rules.participants := by
    rw [← (accepted?_eq_some_iff.1 haccepted').1]
    exact walk_perm js' _
  have hsame : order' = order := order_unique hnodup hperm'.length_eq hperm.length_eq hfound'
    hfound (hpairs'.trans hpairs.symm)
  exact huniq js' ⟨hplaces', hsame ▸ haccepted'⟩

/-! ## The first shuffle of a source -/

section Drawing

variable {σ : Type} [RandomSource σ]

/-- One shuffle: its order is accepted, or the next one goes on from it. -/
theorem derange_of_places {givers receivers : List Id} {drawFuel fuel : Nat} {js : List Nat}
    {s s' : σ} (h : drawPlaces drawFuel (receivers.length - 1) s = some (js, s')) :
    derange givers drawFuel (fuel + 1) receivers s =
      match accepted? givers receivers js with
      | some order => some (order, s')
      | none => derange givers drawFuel fuel (walk js receivers) s' := by
  have hshuffle : shuffle drawFuel receivers s = some (walk js receivers, s') :=
    shuffle_eq_some_iff.2 ⟨js, h, rfl⟩
  rw [derange, hshuffle, accepted?]
  by_cases hderanged : isDerangement givers (walk js receivers) = true
  · simp [hderanged]
  · simp [hderanged]

theorem derange_drawn {givers receivers order : List Id} {drawFuel fuel : Nat} {c c' : Counted σ}
    (htwo : 2 ≤ receivers.length)
    (h : derange givers drawFuel fuel receivers c = some (order, c')) : c.drawn < c'.drawn := by
  induction fuel generalizing receivers c with
  | zero => cases h
  | succ fuel ih =>
    cases hplaces : drawPlaces drawFuel (receivers.length - 1) c with
    | none =>
      rw [derange, shuffle, hplaces] at h
      cases h
    | some first =>
      obtain ⟨js, c₁⟩ := first
      have hfirst := drawPlaces_drawn hplaces
      rw [derange_of_places hplaces] at h
      split at h
      · cases h
        omega
      · have hlen : 2 ≤ (walk js receivers).length := by rwa [(walk_perm js receivers).length_eq]
        have hrest := ih hlen h
        omega

theorem attempts_drawn {fuel left number : Nat} {rules : Rules} {receivers : List Id}
    {c c' : Counted σ} {found : Pairing × Nat} (htwo : 2 ≤ receivers.length)
    (h : attempts fuel rules left number receivers c = some (some found, c')) :
    c.drawn < c'.drawn := by
  induction left generalizing number receivers c with
  | zero => cases h
  | succ left ih =>
    rw [attempts, Option.bind_eq_some_iff] at h
    obtain ⟨⟨order, c₁⟩, hderange, h⟩ := h
    have hone : c.drawn < c₁.drawn := derange_drawn htwo hderange
    dsimp only at h
    split at h
    · cases h
      exact hone
    · have hlen : 2 ≤ order.length := by rwa [(derange_spec hderange).1.length_eq]
      exact Nat.lt_trans hone (ih hlen h)

/-- A derangement is answered with nothing drawn behind the first shuffle exactly when that shuffle
is accepted. -/
theorem derange_first_iff {givers receivers d : List Id} {drawFuel fuel : Nat} {js : List Nat}
    {c c' : Counted σ} (htwo : 2 ≤ receivers.length)
    (h : drawPlaces drawFuel (receivers.length - 1) c = some (js, c')) :
    derange givers drawFuel (fuel + 1) receivers c = some (d, c') ↔
      accepted? givers receivers js = some d := by
  rw [derange_of_places h]
  cases accepted? givers receivers js with
  | some order => simp
  | none =>
    simp only [reduceCtorEq, iff_false]
    intro hlater
    have hlen : 2 ≤ (walk js receivers).length := by rwa [(walk_perm js receivers).length_eq]
    exact Nat.lt_irrefl _ (derange_drawn hlen hlater)

theorem attempts_first_iff {fuel left number : Nat} {rules : Rules} {js : List Nat}
    {c c' : Counted σ} {set : Pairing} (htwo : 2 ≤ rules.participants.length)
    (h : drawPlaces (fuel + 1) (rules.participants.length - 1) c = some (js, c')) :
    (∃ k, attempts (fuel + 1) rules (left + 1) number rules.participants c =
        some (some (set, k), c')) ↔
      firstPairing? rules js = some set := by
  rw [attempts, derange_of_places h, firstPairing?]
  cases haccepted : accepted? rules.participants rules.participants js with
  | some order =>
    have hlen : 2 ≤ order.length := by
      rwa [← (accepted?_eq_some_iff.1 haccepted).1, (walk_perm js _).length_eq]
    simp only [Option.bind_some]
    cases candidate? rules order with
    | some found => simp
    | none =>
      simp only [reduceCtorEq, iff_false, not_exists]
      exact fun k hlater => Nat.lt_irrefl _ (attempts_drawn hlen hlater)
  | none =>
    -- a second shuffle draws, so the source cannot be left where the first one left it
    simp only [Option.bind_none, reduceCtorEq, iff_false, not_exists]
    intro k hlater
    obtain ⟨⟨order, c₁⟩, hderange, hrest⟩ := Option.bind_eq_some_iff.1 hlater
    have hlen : 2 ≤ (walk js rules.participants).length := by rwa [(walk_perm js _).length_eq]
    have hmore : c'.drawn < c₁.drawn := derange_drawn hlen hderange
    dsimp only at hrest
    split at hrest
    · cases hrest
      exact Nat.lt_irrefl _ hmore
    · have hlen' : 2 ≤ order.length := by rwa [(derange_spec hderange).1.length_eq]
      exact Nat.lt_asymm hmore (attempts_drawn hlen' hrest)

/-- Pairs are answered with nothing drawn behind the first shuffle exactly when that shuffle gives
them. -/
theorem generate_first_iff {fuel : Nat} {rules : Rules} {maxAttempts : UInt32} {js : List Nat}
    {c c' : Counted σ} {set : Pairing} (hmax : 1 ≤ maxAttempts)
    (hnodup : rules.participants.Nodup) (htwo : 2 ≤ rules.participants.length)
    (h : drawPlaces fuel (rules.participants.length - 1) c = some (js, c')) :
    (∃ events, generate fuel rules maxAttempts c = some ⟨.ok set, c', events⟩) ↔
      firstPairing? rules js = some set := by
  have hrefusal : refusal? rules.participants maxAttempts = none :=
    refusal?_eq_none_iff.2 ⟨hmax, hnodup, htwo⟩
  obtain ⟨left, hleft⟩ := exists_left hrefusal
  obtain ⟨last, hlast⟩ : ∃ last, rules.participants.length - 1 = last + 1 :=
    ⟨rules.participants.length - 2, by omega⟩
  cases fuel with
  | zero =>
    rw [hlast] at h
    cases h
  | succ fuel =>
    have hfirst : (∃ k, attempts (fuel + 1) rules (left + 1) 1 rules.participants c =
        some (some (set, k), c')) ↔ firstPairing? rules js = some set :=
      attempts_first_iff htwo h
    rw [← hfirst]
    constructor
    · rintro ⟨events, hgenerate⟩
      obtain ⟨-, k, hattempts, -⟩ := generate_ok hgenerate rfl
      rw [hleft] at hattempts
      exact ⟨k, hattempts⟩
    · rintro ⟨k, hattempts⟩
      refine ⟨[.assignmentsGenerated rules.participants.length k rules.avoidReciprocal], ?_⟩
      rw [generate, hrefusal, hleft]
      simp only [hattempts, Option.map_some]

end Drawing

/-- **No allowed outcome is out of reach, and none is favoured.** For a group of at least two that
repeats nobody and for any order that earlier shuffles left the receivers in, each derangement of
the group is accepted for exactly one vector of draws. For any conflicts, with or without people
who may give to each other, each pairing that keeps the rules is the answer of the first shuffle
for exactly one vector, so any two of them have equally many. This is what happens with every
source: it draws such a vector, and with no number drawn behind its shuffle `derange` answers with
what is accepted for the vector and `generate` with the pairs for the vector. And every vector is
drawn by some source, as long as a draw can tell the places apart. -/
theorem one_vector_for_each_outcome {participants receivers : List Id}
    (hnodup : participants.Nodup) (htwo : 2 ≤ participants.length)
    (hreceivers : receivers.Perm participants) :
    (∀ d, d.Perm participants → isDerangement participants d = true →
      ∃! js, Places (participants.length - 1) js ∧
        accepted? participants receivers js = some d) ∧
    (∀ (conflicts : Conflicts) (avoid : Bool) (set : Pairing),
      set.Keeps participants conflicts avoid →
      ∃! js, js ∈ drawsFor ⟨participants, conflicts, avoid⟩ set) ∧
    (∀ (conflicts : Conflicts) (avoid : Bool) (set other : Pairing),
      set.Keeps participants conflicts avoid → other.Keeps participants conflicts avoid →
      (drawsFor ⟨participants, conflicts, avoid⟩ set).ncard =
        (drawsFor ⟨participants, conflicts, avoid⟩ other).ncard) ∧
    (∀ {σ : Type} [RandomSource σ] (c c' : Counted σ) (drawFuel : Nat) (js : List Nat),
      drawPlaces drawFuel (participants.length - 1) c = some (js, c') →
      Places (participants.length - 1) js ∧
      (∀ fuel d, derange participants drawFuel (fuel + 1) receivers c = some (d, c') ↔
        accepted? participants receivers js = some d) ∧
      (∀ (conflicts : Conflicts) (avoid : Bool) (maxAttempts : UInt32) (set : Pairing),
        1 ≤ maxAttempts →
        ((∃ events, generate drawFuel ⟨participants, conflicts, avoid⟩ maxAttempts c =
            some ⟨.ok set, c', events⟩) ↔
          firstPairing? ⟨participants, conflicts, avoid⟩ js = some set))) ∧
    (participants.length ≤ UInt32.size → ∀ js, Places (participants.length - 1) js →
      ∃ c c' : Counted Listed,
        drawPlaces 1 (participants.length - 1) c = some (js, c')) := by
  have hone : ∀ (conflicts : Conflicts) (avoid : Bool) (set : Pairing),
      set.Keeps participants conflicts avoid →
      ∃! js, js ∈ drawsFor ⟨participants, conflicts, avoid⟩ set :=
    fun conflicts avoid set hset => existsUnique_drawsFor hnodup htwo hset
  refine ⟨fun d hd => existsUnique_accepted hnodup htwo hreceivers hd, hone, ?_, ?_, ?_⟩
  · intro conflicts avoid set other hset hother
    have hcard : ∀ t : Pairing, t.Keeps participants conflicts avoid →
        (drawsFor ⟨participants, conflicts, avoid⟩ t).ncard = 1 := by
      intro t ht
      obtain ⟨js, hjs, huniq⟩ := hone conflicts avoid t ht
      exact Set.ncard_eq_one.2 ⟨js, Set.eq_singleton_iff_unique_mem.2 ⟨hjs, huniq⟩⟩
    rw [hcard set hset, hcard other hother]
  · intro σ _ c c' drawFuel js hplaces
    have hplaces' : drawPlaces drawFuel (receivers.length - 1) c = some (js, c') := by
      rw [hreceivers.length_eq]
      exact hplaces
    refine ⟨drawPlaces_places hplaces, fun fuel d => ?_, ?_⟩
    · exact derange_first_iff (by rwa [hreceivers.length_eq]) hplaces'
    · exact fun conflicts avoid maxAttempts set hmax =>
        generate_first_iff hmax hnodup htwo hplaces
  · intro hsize js hjs
    obtain ⟨numbers, hnumbers⟩ := exists_numbers_of_places hjs (by omega)
    exact ⟨_, _, hnumbers 0 0⟩

/-- Four people whose receivers were left in some order: the only vector of draws that leads from
there to the given derangement. -/
theorem one_vector_for_an_outcome_of_four :
    rulesOfFour.participants.Nodup ∧ 2 ≤ rulesOfFour.participants.length ∧
      [Id.ofNat 4, .ofNat 2, .ofNat 1, .ofNat 3].Perm rulesOfFour.participants ∧
      ∃! js, Places (rulesOfFour.participants.length - 1) js ∧
        accepted? rulesOfFour.participants [.ofNat 4, .ofNat 2, .ofNat 1, .ofNat 3] js =
          some [.ofNat 3, .ofNat 1, .ofNat 4, .ofNat 2] := by
  have hnodup : rulesOfFour.participants.Nodup := by decide
  have htwo : 2 ≤ rulesOfFour.participants.length := by decide
  have hperm : [Id.ofNat 4, .ofNat 2, .ofNat 1, .ofNat 3].Perm rulesOfFour.participants := by
    decide
  refine ⟨hnodup, htwo, hperm, ?_⟩
  exact (one_vector_for_each_outcome hnodup htwo hperm).1 _ (by decide) (by decide)

end Generation

end GiftExchange
