set_option autoImplicit false

/-! # Sources of random numbers

A source hands out 32-bit numbers one after the other. Everything that draws takes the source as a
value and gives it back advanced, so a draw can be repeated from the same source, and what is said
of a draw is said of every source. -/

namespace GiftExchange

/-- States from which 32-bit numbers are drawn. -/
class RandomSource (σ : Type) where
  /-- The next number and the source behind it. -/
  next : σ → UInt32 × σ

/-- A source together with the count of the numbers drawn from it. -/
structure Counted (σ : Type) where
  source : σ
  drawn : Nat

/-- The source with nothing drawn yet. -/
def Counted.fresh {σ : Type} (source : σ) : Counted σ := ⟨source, 0⟩

instance {σ : Type} [RandomSource σ] : RandomSource (Counted σ) where
  next c :=
    let (v, source) := RandomSource.next c.source
    (v, ⟨source, c.drawn + 1⟩)

/-- A source of one kind or of another. -/
instance {σ τ : Type} [RandomSource σ] [RandomSource τ] : RandomSource (σ ⊕ τ) where
  next
    | .inl s => let (v, s) := RandomSource.next s; (v, .inl s)
    | .inr t => let (v, t) := RandomSource.next t; (v, .inr t)

end GiftExchange
