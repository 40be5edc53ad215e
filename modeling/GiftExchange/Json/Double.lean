set_option autoImplicit false

/-! # Natural numbers in double precision

A double keeps the 53 leading bits of a number. A product of two doubles is a double again unless
it rounds beyond the greatest one. -/

namespace GiftExchange.Double

/-- The number nearest to `n` among those with at most `bits` significant bits; of two that are
equally near, the one whose last significant bit is zero. -/
def roundTo (bits n : Nat) : Nat :=
  let shift := Nat.log2 n + 1 - bits
  let unit := 1 <<< shift
  let kept := n / unit
  let rest := n % unit
  if 2 * rest > unit ∨ (2 * rest = unit ∧ kept % 2 = 1) then (kept + 1) * unit else kept * unit

/-- The double nearest to a natural number, if the number is not beyond all doubles. -/
def round (n : Nat) : Nat := roundTo 53 n

/-- The least number that rounds beyond the greatest double. -/
def tooLarge : Nat := (1 <<< 1024) - (1 <<< 970)

/-- The powers of ten that are doubles go up to this exponent. -/
def maxTen : Nat := 308

/-- Whether a number times a power of ten is within the doubles when it is computed in them: both
are rounded first, and so is their product. -/
def holdsScaled (n exponent : Nat) : Bool :=
  exponent ≤ maxTen && round n * round (Nat.pow 10 exponent) < tooLarge

end GiftExchange.Double
