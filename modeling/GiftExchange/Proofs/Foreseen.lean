import GiftExchange.Proofs.Counting
import GiftExchange.Random.Seeded

set_option autoImplicit false

/-! # Sources whose next numbers are known

A source may carry a list of its next numbers, with the proof that they are (`Ahead`). It hands out
the numbers of the source in it (`Foreseen.sameNumbers`), so a draw may be computed from the list
alone. The numbers of a seeded source are those of its blocks, one block after the other. -/

namespace GiftExchange

section Sources

variable {σ : Type} [RandomSource σ]

/-- The numbers that come next are the listed ones. -/
def Ahead : σ → List UInt32 → Prop
  | _, [] => True
  | s, v :: rest => (RandomSource.next s).1 = v ∧ Ahead (RandomSource.next s).2 rest

/-- A source, and numbers that come next. -/
structure Foreseen (σ : Type) [RandomSource σ] where
  source : σ
  numbers : List UInt32
  ahead : Ahead source numbers

namespace Foreseen

/-- Listed numbers are read off the list. -/
instance : RandomSource (Foreseen σ) where
  next
    | ⟨s, v :: rest, h⟩ => (v, ⟨(RandomSource.next s).2, rest, h.2⟩)
    | ⟨s, [], _⟩ => ((RandomSource.next s).1, ⟨(RandomSource.next s).2, [], trivial⟩)

theorem sameNumbers : SameNumbers (source : Foreseen σ → σ) := by
  rintro ⟨s, numbers, hahead⟩
  cases numbers with
  | nil => rfl
  | cons v rest => exact Prod.ext hahead.1 rfl

end Foreseen

end Sources

namespace Seeded

variable {key : Vector UInt32 8}

theorem ahead_append {position : Nat} {numbers later : List UInt32}
    (hnumbers : ∀ i (h : i < numbers.length), ChaCha.word key (position + i) = numbers[i])
    (hlater : Ahead (⟨key, position + numbers.length⟩ : Seeded) later) :
    Ahead (⟨key, position⟩ : Seeded) (numbers ++ later) := by
  induction numbers generalizing position with
  | nil => exact hlater
  | cons v rest ih =>
    refine ⟨hnumbers 0 (Nat.zero_lt_succ _), ih (fun i hi => ?_) ?_⟩
    · have hword := hnumbers (i + 1) (Nat.succ_lt_succ hi)
      rwa [Nat.add_left_comm, Nat.add_comm i] at hword
    · rwa [List.length_cons, Nat.add_left_comm, Nat.add_comm rest.length] at hlater

/-- The words of a block stand at sixteen positions of the stream. -/
theorem word_of_block (number i : Nat) (hi : i < 16) :
    ChaCha.word key (16 * number + i) = (ChaCha.block key (UInt64.ofNat number))[i] := by
  have hdiv : (16 * number + i) / 16 = number := by omega
  have hmod : (16 * number + i) % 16 = i := by omega
  simp only [ChaCha.word, hdiv, hmod]
  rfl

/-- What comes next at the start of a block are the words of some blocks. -/
theorem ahead_blocks (key : Vector UInt32 8) (first count : Nat) :
    Ahead (⟨key, 16 * first⟩ : Seeded)
      ((List.range' first count).flatMap fun n => (ChaCha.block key (UInt64.ofNat n)).toList) := by
  induction count generalizing first with
  | zero => trivial
  | succ count ih =>
    rw [List.range'_succ, List.flatMap_cons]
    refine ahead_append (fun i hi => ?_) ?_
    · rw [Vector.length_toList] at hi
      rw [word_of_block first i hi, Vector.getElem_toList]
    · rw [Vector.length_toList]
      exact ih (first + 1)

end Seeded

end GiftExchange
