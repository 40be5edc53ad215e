import GiftExchange.Proofs.Shuffle
import GiftExchange.Generation

set_option autoImplicit false

/-! # Counting what is drawn

Nothing that draws looks at a source but for its next number. So everything answers alike from a source
and from the source in it, if both hand out the same numbers (`SameNumbers`, `generate_inner`). A
counted source does so with the source in it, and the count says how many numbers a draw takes
(`numbersDrawn`). -/

namespace GiftExchange

variable {σ τ : Type} [RandomSource σ] [RandomSource τ]

/-- A source hands out the numbers of the source in it, and has behind each of them what the source in
it has. -/
def SameNumbers (inner : τ → σ) : Prop :=
  ∀ t, RandomSource.next (inner t) = Prod.map id inner (RandomSource.next t)

theorem Counted.sameNumbers : SameNumbers (Counted.source : Counted σ → σ) :=
  fun _ => rfl

/-- What a draw leaves behind, with the source in the source. -/
def Drawn.inner {ε α : Type} (inner : τ → σ) (d : Drawn τ ε α) : Drawn σ ε α :=
  ⟨d.result, inner d.source, d.events⟩

/-- What a draw leaves behind, without the count. -/
def Drawn.forget {ε α : Type} (d : Drawn (Counted σ) ε α) : Drawn σ ε α :=
  ⟨d.result, d.source.source, d.events⟩

section Inner

variable {inner : τ → σ} (hinner : SameNumbers inner)

include hinner

theorem drawBelow_inner (bound fuel : Nat) (t : τ) :
    drawBelow bound fuel (inner t) = (drawBelow bound fuel t).map (Prod.map id inner) := by
  induction fuel generalizing t with
  | zero => rfl
  | succ fuel ih =>
    rw [drawBelow_succ, drawBelow_succ, hinner t]
    simp only [Prod.map_fst, Prod.map_snd, id_eq]
    split_ifs with haccepted
    · rfl
    · exact ih _

theorem drawPlaces_inner (fuel last : Nat) (t : τ) :
    drawPlaces fuel last (inner t) = (drawPlaces fuel last t).map (Prod.map id inner) := by
  induction last generalizing t with
  | zero => rfl
  | succ last ih =>
    rw [drawPlaces, drawPlaces, drawBelow_inner hinner]
    cases drawBelow (last + 2) fuel t with
    | none => rfl
    | some first =>
      simp only [Option.map_some, Option.bind_some, Prod.map_fst, Prod.map_snd, id_eq, ih]
      cases drawPlaces fuel last first.2 <;> rfl

theorem shuffle_inner {α : Type} (fuel : Nat) (xs : List α) (t : τ) :
    shuffle fuel xs (inner t) = (shuffle fuel xs t).map (Prod.map id inner) := by
  rw [shuffle, shuffle, drawPlaces_inner hinner]
  cases drawPlaces fuel (xs.length - 1) t <;> rfl

end Inner

namespace Generation

section Inner

variable {inner : τ → σ} (hinner : SameNumbers inner)

include hinner

theorem derange_inner (givers receivers : List Id) (drawFuel fuel : Nat) (t : τ) :
    derange givers drawFuel fuel receivers (inner t) =
      (derange givers drawFuel fuel receivers t).map (Prod.map id inner) := by
  induction fuel generalizing receivers t with
  | zero => rfl
  | succ fuel ih =>
    rw [derange, derange, shuffle_inner hinner]
    cases shuffle drawFuel receivers t with
    | none => rfl
    | some first =>
      simp only [Option.map_some, Option.bind_some, Prod.map_fst, Prod.map_snd, id_eq]
      split_ifs with hderanged
      · rfl
      · exact ih first.1 first.2

theorem attempts_inner (fuel left number : Nat) (rules : Rules) (receivers : List Id) (t : τ) :
    attempts fuel rules left number receivers (inner t) =
      (attempts fuel rules left number receivers t).map (Prod.map id inner) := by
  induction left generalizing number receivers t with
  | zero => rfl
  | succ left ih =>
    rw [attempts, attempts, derange_inner hinner]
    cases derange rules.participants fuel fuel receivers t with
    | none => rfl
    | some first =>
      simp only [Option.map_some, Option.bind_some, Prod.map_fst, Prod.map_snd, id_eq]
      cases candidate? rules first.1 with
      | none => exact ih (number + 1) first.1 first.2
      | some set => rfl

/-- A draw answers alike from a source and from the source in it. -/
theorem generate_inner (fuel : Nat) (rules : Rules) (maxAttempts : UInt32) (t : τ) :
    generate fuel rules maxAttempts (inner t) =
      (generate fuel rules maxAttempts t).map (Drawn.inner inner) := by
  rw [generate, generate]
  cases refusal? rules.participants maxAttempts with
  | some e => rfl
  | none =>
    simp only [attempts_inner hinner]
    rcases attempts fuel rules maxAttempts.toNat 1 rules.participants t with
      - | ⟨- | ⟨set, number⟩, after⟩ <;> rfl

theorem generateWithFallback_inner (fuel : Nat) (ids : List Id) (conflicts : Conflicts)
    (maxAttempts : UInt32) (t : τ) :
    generateWithFallback fuel ids conflicts maxAttempts (inner t) =
      (generateWithFallback fuel ids conflicts maxAttempts t).map (Drawn.inner inner) := by
  rw [generateWithFallback, generateWithFallback, generate_inner hinner]
  cases generate fuel ⟨ids, conflicts, true⟩ maxAttempts t with
  | none => rfl
  | some strict =>
    simp only [Option.map_some, Option.bind_some, Drawn.inner, generate_inner hinner]
    cases strict.result with
    | ok set => rfl
    | error err =>
      dsimp only
      split_ifs
      · rw [Option.map_map, Option.map_map]
        rfl
      · rfl

end Inner

/-- A draw answers alike with and without a count of its numbers. -/
theorem generate_source (fuel : Nat) (rules : Rules) (maxAttempts : UInt32) (c : Counted σ) :
    generate fuel rules maxAttempts c.source =
      (generate fuel rules maxAttempts c).map Drawn.forget :=
  generate_inner Counted.sameNumbers fuel rules maxAttempts c

/-- How many numbers a draw takes from a source. -/
def numbersDrawn (fuel : Nat) (rules : Rules) (maxAttempts : UInt32) (s : σ) : Option Nat :=
  (generate fuel rules maxAttempts (Counted.fresh s)).map fun drawn => drawn.source.drawn

/-- A draw that returns does so with a count, which is the number of what it has drawn. -/
theorem exists_counted {fuel : Nat} {rules : Rules} {maxAttempts : UInt32} {s : σ}
    {drawn : Drawn σ GenerationError Pairing} (h : generate fuel rules maxAttempts s = some drawn) :
    ∃ counted, generate fuel rules maxAttempts (Counted.fresh s) = some counted ∧
      counted.forget = drawn ∧
      numbersDrawn fuel rules maxAttempts s = some counted.source.drawn := by
  have hcounted := generate_source fuel rules maxAttempts (Counted.fresh s)
  rw [show (Counted.fresh s).source = s from rfl, h] at hcounted
  obtain ⟨counted, hrun, hforget⟩ := Option.map_eq_some_iff.1 hcounted.symm
  exact ⟨counted, hrun, hforget, by rw [numbersDrawn, hrun, Option.map_some]⟩

end Generation

end GiftExchange
