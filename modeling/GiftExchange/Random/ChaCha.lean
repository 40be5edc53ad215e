set_option autoImplicit false

/-! # The ChaCha block function with twelve rounds

A block is 16 words: four constants, eight words of key, a 64-bit block number with its low word
first, and two words of zero. Six double rounds mix them, and the words that went in are added to
the words that came out. -/

namespace GiftExchange.ChaCha

/-- The state that the rounds work on. -/
abbrev Block := Vector UInt32 16

def rotateLeft (x : UInt32) (n : UInt32) : UInt32 :=
  (x <<< n) ||| (x >>> (32 - n))

/-- Mixes four words of a block. -/
def quarterRound (b : Block) (i j k l : Fin 16) : Block :=
  let b := b.set i (b[i] + b[j])
  let b := b.set l (rotateLeft (b[l] ^^^ b[i]) 16)
  let b := b.set k (b[k] + b[l])
  let b := b.set j (rotateLeft (b[j] ^^^ b[k]) 12)
  let b := b.set i (b[i] + b[j])
  let b := b.set l (rotateLeft (b[l] ^^^ b[i]) 8)
  let b := b.set k (b[k] + b[l])
  b.set j (rotateLeft (b[j] ^^^ b[k]) 7)

/-- Mixes the columns, then the diagonals. -/
def doubleRound (b : Block) : Block :=
  let b := quarterRound b 0 4 8 12
  let b := quarterRound b 1 5 9 13
  let b := quarterRound b 2 6 10 14
  let b := quarterRound b 3 7 11 15
  let b := quarterRound b 0 5 10 15
  let b := quarterRound b 1 6 11 12
  let b := quarterRound b 2 7 8 13
  quarterRound b 3 4 9 14

/-- The words that go into block `number`. -/
def start (key : Vector UInt32 8) (number : UInt64) : Block :=
  #v[0x61707865, 0x3320646e, 0x79622d32, 0x6b206574,
     key[0], key[1], key[2], key[3], key[4], key[5], key[6], key[7],
     number.toUInt32, (number >>> 32).toUInt32, 0, 0]

/-- Block `number` of the stream of a key. -/
def block (key : Vector UInt32 8) (number : UInt64) : Block :=
  let before := start key number
  let after := doubleRound (doubleRound (doubleRound (doubleRound (doubleRound
    (doubleRound before)))))
  Vector.zipWith (· + ·) after before

/-- The word at a position of the stream of a key. -/
def word (key : Vector UInt32 8) (position : Nat) : UInt32 :=
  (block key (UInt64.ofNat (position / 16))).get ⟨position % 16, Nat.mod_lt _ (by decide)⟩

end GiftExchange.ChaCha
