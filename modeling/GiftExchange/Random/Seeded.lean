import GiftExchange.Random.ChaCha
import GiftExchange.Random.Source

set_option autoImplicit false

/-! # Sources that are reproducible

A seeded source is the ChaCha stream of a key that a 64-bit seed is expanded to. A listed source
hands out given numbers first and then those of a linear congruential generator. -/

namespace GiftExchange

/-- A position in the stream of a key. -/
structure Seeded where
  key : Vector UInt32 8
  position : Nat

namespace Seeded

/-- One step of the generator that expands a seed. -/
def step (state : UInt64) : UInt64 :=
  state * 6364136223846793005 + 11634580027462260723

/-- The key word read off a state: folded to 32 bits and rotated to the right by its top bits. -/
def keyWord (state : UInt64) : UInt32 :=
  let folded := (((state >>> 18) ^^^ state) >>> 27).toUInt32
  let turn := (state >>> 59).toUInt32
  (folded >>> turn) ||| (folded <<< ((32 - turn) % 32))

/-- The state after a number of steps. -/
def stepped (seed : UInt64) : Nat → UInt64
  | 0 => seed
  | n + 1 => step (stepped seed n)

/-- The start of the stream of a seed. -/
def ofSeed (seed : UInt64) : Seeded where
  key := Vector.ofFn fun i => keyWord (stepped seed (i.val + 1))
  position := 0

instance : RandomSource Seeded where
  next s := (ChaCha.word s.key s.position, { s with position := s.position + 1 })

end Seeded

/-- Numbers to hand out first, and the state of the generator behind them. -/
structure Listed where
  numbers : List UInt32
  state : UInt32

namespace Listed

def step (state : UInt32) : UInt32 :=
  state * 1664525 + 1013904223

instance : RandomSource Listed where
  next s :=
    match s.numbers with
    | v :: rest => (v, { s with numbers := rest })
    | [] => (step s.state, { s with state := step s.state })

end Listed

end GiftExchange
