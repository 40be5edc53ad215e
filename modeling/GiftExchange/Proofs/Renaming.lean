import GiftExchange.Proofs.Conflicts
import GiftExchange.Proofs.Relaxation

set_option autoImplicit false

/-! # Draws depend on places, not on identifiers

Give everybody another identifier, with conflicts to match (`Rules.RenamedBy`). A shuffle exchanges
places, nobody stands at his own place under the new identifiers who did not before, and the lookups of
a pairing that is made of the new identifiers find what they found. So each candidate is accepted or
refused as before, and a draw answers with the renamed pairs or the renamed error, after the same
numbers (`Generation.generate_rename`). The order of identifiers, by which conflicts and indexes are
kept, has no part in it. -/

namespace GiftExchange

variable {f : Id → Id}

/-! ## Renamed values -/

/-- The same people under other identifiers, in the same order and with the same conflicts. -/
structure Rules.RenamedBy (f : Id → Id) (rules renamed : Rules) : Prop where
  participants : renamed.participants = rules.participants.map f
  conflicts : ∀ giver receiver,
    renamed.conflicts.forbids (f giver) (f receiver) = rules.conflicts.forbids giver receiver
  avoidReciprocal : renamed.avoidReciprocal = rules.avoidReciprocal

/-- The rules for everybody under another identifier. -/
def Rules.rename (f : Id → Id) (rules : Rules) : Rules :=
  ⟨rules.participants.map f, rules.conflicts.rename f, rules.avoidReciprocal⟩

theorem Rules.renamedBy_rename (hf : Function.Injective f) (rules : Rules) :
    rules.RenamedBy f (rules.rename f) :=
  ⟨rfl, Conflicts.forbids_rename hf rules.conflicts, rfl⟩

/-- The pairs of the renamed givers and receivers, put together again in their order. -/
def Pairing.rename (f : Id → Id) (s : Pairing) : Pairing :=
  (Pairing.ofIds ((s.pairs.map Pair.ids).map (Prod.map f f))).toOption.getD .empty

def Violation.rename (f : Id → Id) : Violation → Violation
  | .sizeMismatch expected actual => .sizeMismatch expected actual
  | .missingGiver id => .missingGiver (f id)
  | .missingReceiver id => .missingReceiver (f id)
  | .conflict giver receiver => .conflict (f giver) (f receiver)
  | .reciprocalPair first second => .reciprocalPair (f first) (f second)

def GenerationError.rename (f : Id → Id) : GenerationError → GenerationError
  | .duplicateParticipant id => .duplicateParticipant (f id)
  | .invalidMaxAttempts value => .invalidMaxAttempts value
  | .noParticipants => .noParticipants
  | .attemptsExhausted participants attempts => .attemptsExhausted participants attempts

/-- What a draw leaves behind, with its error or its answer renamed. -/
def Drawn.rename {σ α : Type} (f : Id → Id) (renameAnswer : α → α)
    (d : Drawn σ GenerationError α) : Drawn σ GenerationError α where
  result := (d.result.mapError (GenerationError.rename f)).map renameAnswer
  source := d.source
  events := d.events

/-! ## Shuffles -/

section Shuffling

variable {α β : Type} {σ : Type} [RandomSource σ]

theorem swapPlaces_map (g : α → β) (xs : List α) (i j : Nat) :
    swapPlaces (xs.map g) i j = (swapPlaces xs i j).map g := by
  rw [swapPlaces, swapPlaces, List.getElem?_map, List.getElem?_map]
  cases xs[i]? with
  | none => rfl
  | some a =>
    cases xs[j]? with
    | none => rfl
    | some b => simp only [Option.map_some, List.map_set]

theorem walk_map (g : α → β) (js : List Nat) (xs : List α) :
    walk js (xs.map g) = (walk js xs).map g := by
  induction js generalizing xs with
  | nil => rfl
  | cons j js ih => rw [walk, walk, swapPlaces_map, ih]

/-- A shuffle draws places, whatever stands there. -/
theorem shuffle_map (g : α → β) (fuel : Nat) (xs : List α) (s : σ) :
    shuffle fuel (xs.map g) s = (shuffle fuel xs s).map (Prod.map (List.map g) id) := by
  rw [shuffle, shuffle, List.length_map, Option.map_map]
  refine congrFun (congrArg Option.map (funext fun drawn => ?_)) _
  exact Prod.ext (walk_map g drawn.1 xs) rfl

end Shuffling

/-! ## Pairings -/

namespace Pair

/-- Two people who are told apart are told apart under other identifiers. -/
def rename (hf : Function.Injective f) (p : Pair) : Pair :=
  ⟨f p.giver, f p.receiver, fun h => p.distinct (hf h)⟩

end Pair

namespace Pairing

variable {s : Pairing} {ids : List Id} {conflicts renamed : Conflicts} {avoidReciprocal : Bool}

/-- Listed identifiers can be paired up exactly when nobody is paired with himself and nobody stands
twice on one side. -/
theorem exists_ofIds_iff {l : List (Id × Id)} :
    (∃ t, ofIds l = .ok t) ↔
      (∀ p ∈ l, p.1 ≠ p.2) ∧ (l.map Prod.fst).Nodup ∧ (l.map Prod.snd).Nodup := by
  constructor
  · rintro ⟨t, ht⟩
    obtain ⟨hindexed, rfl⟩ := ofIds_eq_ok ht
    refine ⟨List.forall_mem_map.2 fun p _ => p.distinct, ?_, ?_⟩
    · rw [List.map_map]
      exact hindexed.byGiver.nodup
    · rw [List.map_map]
      exact hindexed.byReceiver.nodup
  · rintro ⟨hdistinct, hgivers, hreceivers⟩
    exact exists_ofIds hdistinct hgivers hreceivers

theorem findSome?_map_of_comm {α β γ δ : Type} {g : α → β} {p : α → Option γ} {q : β → Option δ}
    {r : γ → δ} (h : ∀ a, q (g a) = (p a).map r) (l : List α) :
    (l.map g).findSome? q = (l.findSome? p).map r := by
  rw [List.findSome?_map, List.map_findSome?]
  exact congrArg (l.findSome? ·) (funext h)

section Renamed

variable (hf : Function.Injective f)

include hf

/-- Other identifiers can be paired up where the old ones can. -/
theorem exists_ofIds_map_iff {l : List (Id × Id)} :
    (∃ t, ofIds (l.map (Prod.map f f)) = .ok t) ↔ ∃ t, ofIds l = .ok t := by
  have hfst : (l.map (Prod.map f f)).map Prod.fst = (l.map Prod.fst).map f := by
    rw [List.map_map, List.map_map]
    rfl
  have hsnd : (l.map (Prod.map f f)).map Prod.snd = (l.map Prod.snd).map f := by
    rw [List.map_map, List.map_map]
    rfl
  rw [exists_ofIds_iff, exists_ofIds_iff, hfst, hsnd, List.nodup_map_iff hf, List.nodup_map_iff hf,
    List.forall_mem_map]
  simp only [Prod.map_fst, Prod.map_snd, hf.ne_iff]

theorem Indexed.ofIds_rename (h : s.Indexed) :
    ofIds ((s.pairs.map Pair.ids).map (Prod.map f f)) = .ok (s.rename f) := by
  have hold : ∃ t, ofIds (s.pairs.map Pair.ids) = .ok t := by
    rw [ofIds_map_ids]
    exact h.exists_ofList
  obtain ⟨t, ht⟩ := (exists_ofIds_map_iff hf).2 hold
  rw [rename, ht]
  rfl

theorem Indexed.rename (h : s.Indexed) : (s.rename f).Indexed :=
  (ofIds_eq_ok (h.ofIds_rename hf)).1

/-- The pairs keep their order. -/
theorem Indexed.pairs_rename (h : s.Indexed) :
    (s.rename f).pairs = s.pairs.map (Pair.rename hf) := by
  refine List.map_injective_iff.2 Generation.pair_ids_injective ?_
  rw [(ofIds_eq_ok (h.ofIds_rename hf)).2, List.map_map, List.map_map]
  rfl

/-- Identifiers are found on a side of the renamed pairing where they were found before. -/
theorem Indexed.hasGiver_rename (h : s.Indexed) (id : Id) :
    (s.rename f).hasGiver (f id) = s.hasGiver id := by
  have hside : (s.rename f).pairs.map Pair.giver = (s.pairs.map Pair.giver).map f := by
    rw [h.pairs_rename hf, List.map_map, List.map_map]
    rfl
  rw [Bool.eq_iff_iff, (h.rename hf).hasGiver_iff, h.hasGiver_iff, hside,
    List.mem_map_of_injective hf]

theorem Indexed.hasReceiver_rename (h : s.Indexed) (id : Id) :
    (s.rename f).hasReceiver (f id) = s.hasReceiver id := by
  have hside : (s.rename f).pairs.map Pair.receiver = (s.pairs.map Pair.receiver).map f := by
    rw [h.pairs_rename hf, List.map_map, List.map_map]
    rfl
  rw [Bool.eq_iff_iff, (h.rename hf).hasReceiver_iff, h.hasReceiver_iff, hside,
    List.mem_map_of_injective hf]

theorem Indexed.gives_rename (h : s.Indexed) {a b : Id} :
    (s.rename f).Gives (f a) (f b) ↔ s.Gives a b := by
  simp only [Gives, h.pairs_rename hf, List.mem_map, exists_exists_and_eq_and, Pair.rename,
    hf.eq_iff]

/-- The check says of the renamed pairing what it says of the pairing. -/
theorem Indexed.violation?_rename (h : s.Indexed)
    (hconflicts : ∀ giver receiver,
      renamed.forbids (f giver) (f receiver) = conflicts.forbids giver receiver) :
    (s.rename f).violation? (ids.map f) renamed avoidReciprocal =
      (s.violation? ids conflicts avoidReciprocal).map (Violation.rename f) := by
  have hmember : ∀ id, (s.rename f).memberViolation? (f id) =
      (s.memberViolation? id).map (Violation.rename f) := by
    intro id
    rw [memberViolation?, memberViolation?, h.hasGiver_rename hf, h.hasReceiver_rename hf]
    split_ifs <;> rfl
  have hback : ∀ a b, ((s.rename f).receiverOf? (f a) == some (f b)) =
      (s.receiverOf? a == some b) := by
    intro a b
    rw [Bool.eq_iff_iff, beq_iff_eq, beq_iff_eq, (h.rename hf).receiverOf?_eq_some_iff,
      h.receiverOf?_eq_some_iff, h.gives_rename hf]
  have hpair : ∀ p : Pair, (s.rename f).pairViolation? renamed avoidReciprocal (p.rename hf) =
      (s.pairViolation? conflicts avoidReciprocal p).map (Violation.rename f) := by
    intro p
    simp only [pairViolation?, Pair.rename, hconflicts, hback]
    split_ifs <;> rfl
  have hsize : (s.rename f).size = s.size := by
    rw [size, size, h.pairs_rename hf, List.length_map]
  rw [violation?, violation?, hsize, List.length_map, findSome?_map_of_comm hmember,
    h.pairs_rename hf, findSome?_map_of_comm hpair]
  split_ifs with hlength
  · rfl
  · rw [Option.map_or]

end Renamed

end Pairing

/-! ## Draws -/

namespace Generation

/-- The pairing of an answer, renamed; the flag is about no identifier. -/
def Fallback.rename (f : Id → Id) (found : Fallback) : Fallback :=
  ⟨found.pairing.rename f, found.avoidedReciprocal⟩

section Renamed

variable {rules renamed : Rules} (hf : Function.Injective f)

include hf

theorem firstRepeated?_map (seen l : List Id) :
    firstRepeated? (seen.map f) (l.map f) = (firstRepeated? seen l).map f := by
  induction l generalizing seen with
  | nil => rfl
  | cons id rest ih =>
    rw [List.map_cons, firstRepeated?, firstRepeated?, ← List.map_cons, ih]
    simp only [List.mem_map_of_injective hf]
    split_ifs <;> rfl

theorem refusal?_map (participants : List Id) (maxAttempts : UInt32) :
    refusal? (participants.map f) maxAttempts =
      (refusal? participants maxAttempts).map (GenerationError.rename f) := by
  have hfirst : firstRepeated? [] (participants.map f) = (firstRepeated? [] participants).map f :=
    firstRepeated?_map hf [] participants
  rw [refusal?, refusal?, List.isEmpty_map, List.length_map, hfirst]
  split_ifs
  · rfl
  · rfl
  · cases firstRepeated? [] participants <;> rfl
  · cases firstRepeated? [] participants <;> rfl

theorem isDerangement_map (givers receivers : List Id) :
    isDerangement (givers.map f) (receivers.map f) = isDerangement givers receivers := by
  rw [Bool.eq_iff_iff, isDerangement_iff, isDerangement_iff, List.zip_map, List.forall_mem_map]
  simp only [Prod.map_fst, Prod.map_snd, hf.ne_iff]

/-- A candidate is accepted under other identifiers if it was accepted. -/
theorem candidate?_rename (h : rules.RenamedBy f renamed) (order : List Id) :
    candidate? renamed (order.map f) = (candidate? rules order).map (Pairing.rename f) := by
  have hzip : renamed.participants.zip (order.map f) =
      (rules.participants.zip order).map (Prod.map f f) := by
    rw [h.participants, List.zip_map]
  rw [candidate?, candidate?, pairUp, pairUp, hzip]
  cases hpair : Pairing.ofIds (rules.participants.zip order) with
  | error err =>
    have hnone : ¬ ∃ t,
        Pairing.ofIds ((rules.participants.zip order).map (Prod.map f f)) = .ok t := by
      rw [Pairing.exists_ofIds_map_iff hf, hpair]
      simp
    cases hagain : Pairing.ofIds ((rules.participants.zip order).map (Prod.map f f)) with
    | error err' => rfl
    | ok t => exact absurd ⟨t, hagain⟩ hnone
  | ok set =>
    obtain ⟨hindexed, hids⟩ := Pairing.ofIds_eq_ok hpair
    have hagain := hindexed.ofIds_rename hf
    rw [hids] at hagain
    rw [hagain]
    dsimp only
    rw [h.participants, h.avoidReciprocal, hindexed.violation?_rename hf h.conflicts]
    cases set.violation? rules.participants rules.conflicts rules.avoidReciprocal <;> rfl

section Drawing

variable {σ : Type} [RandomSource σ]

theorem derange_map (givers receivers : List Id) (drawFuel fuel : Nat) (s : σ) :
    derange (givers.map f) drawFuel fuel (receivers.map f) s =
      (derange givers drawFuel fuel receivers s).map (Prod.map (List.map f) id) := by
  induction fuel generalizing receivers s with
  | zero => rfl
  | succ fuel ih =>
    rw [derange, derange, shuffle_map]
    cases shuffle drawFuel receivers s with
    | none => rfl
    | some first =>
      simp only [Option.map_some, Option.bind_some, Prod.map_fst, Prod.map_snd, id_eq,
        isDerangement_map hf]
      split_ifs with hderanged
      · rfl
      · exact ih first.1 first.2

/-- Attempts go from order to order, so they go on alike under other identifiers. -/
theorem attempts_rename (h : rules.RenamedBy f renamed) (fuel left number : Nat)
    (receivers : List Id) (s : σ) :
    attempts fuel renamed left number (receivers.map f) s =
      (attempts fuel rules left number receivers s).map
        (Prod.map (Option.map (Prod.map (Pairing.rename f) id)) id) := by
  induction left generalizing number receivers s with
  | zero => rfl
  | succ left ih =>
    rw [attempts, attempts, h.participants, derange_map hf]
    cases derange rules.participants fuel fuel receivers s with
    | none => rfl
    | some first =>
      simp only [Option.map_some, Option.bind_some, Prod.map_fst, Prod.map_snd, id_eq,
        candidate?_rename hf h]
      cases candidate? rules first.1 with
      | none => exact ih (number + 1) first.1 first.2
      | some set => rfl

/-- A draw under other identifiers answers the renamed pairs or the renamed error, and leaves the
source and the log as the draw does. -/
theorem generate_rename (h : rules.RenamedBy f renamed) (fuel : Nat) (maxAttempts : UInt32) (s : σ) :
    generate fuel renamed maxAttempts s =
      (generate fuel rules maxAttempts s).map (Drawn.rename f (Pairing.rename f)) := by
  rw [generate, generate, h.participants, refusal?_map hf]
  cases refusal? rules.participants maxAttempts with
  | some err => rfl
  | none =>
    simp only [Option.map_none, attempts_rename hf h, List.length_map, h.avoidReciprocal]
    rcases attempts fuel rules maxAttempts.toNat 1 rules.participants s with
      - | ⟨- | ⟨set, number⟩, after⟩ <;> rfl

omit hf in
theorem isUnsatisfiable_rename (err : GenerationError) :
    (err.rename f).isUnsatisfiable = err.isUnsatisfiable := by
  cases err <;> rfl

/-- Both draws of a draw with its fallback go on alike, so it answers alike. -/
theorem generateWithFallback_rename {conflicts conflicts' : Conflicts}
    (hconflicts : ∀ giver receiver,
      conflicts'.forbids (f giver) (f receiver) = conflicts.forbids giver receiver)
    (fuel : Nat) (ids : List Id) (maxAttempts : UInt32) (s : σ) :
    generateWithFallback fuel (ids.map f) conflicts' maxAttempts s =
      (generateWithFallback fuel ids conflicts maxAttempts s).map
        (Drawn.rename f (Fallback.rename f)) := by
  have hgenerate : ∀ (avoid : Bool) (t : σ),
      generate fuel ⟨ids.map f, conflicts', avoid⟩ maxAttempts t =
        (generate fuel ⟨ids, conflicts, avoid⟩ maxAttempts t).map
          (Drawn.rename f (Pairing.rename f)) := by
    intro avoid t
    have hrules : Rules.RenamedBy f ⟨ids, conflicts, avoid⟩ ⟨ids.map f, conflicts', avoid⟩ :=
      ⟨rfl, hconflicts, rfl⟩
    exact generate_rename hf hrules fuel maxAttempts t
  rw [generateWithFallback, generateWithFallback, hgenerate]
  cases generate fuel ⟨ids, conflicts, true⟩ maxAttempts s with
  | none => rfl
  | some strict =>
    obtain ⟨result, after, events⟩ := strict
    rw [Option.map_some, Option.bind_some, Option.bind_some]
    cases result with
    | ok set => rfl
    | error err =>
      simp only [Drawn.rename, Except.mapError, Except.map, isUnsatisfiable_rename,
        List.isEmpty_map, List.length_map, hgenerate]
      split_ifs with hagain
      · -- the relaxed draw starts from the same source, with the same log before it
        cases generate fuel ⟨ids, conflicts, false⟩ maxAttempts after with
        | none => rfl
        | some relaxed =>
          obtain ⟨result', after', events'⟩ := relaxed
          cases result' <;> rfl
      · rfl

end Drawing

end Renamed

end Generation

end GiftExchange
