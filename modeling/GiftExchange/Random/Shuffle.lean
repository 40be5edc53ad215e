import GiftExchange.Random.Source

set_option autoImplicit false

/-! # Drawing an index and shuffling a list

A number below a bound is the high half of a 32-bit number times the bound; numbers whose low half
would favour some results are drawn again. A shuffle walks from the last place of a list to the
second one and swaps each with a place drawn at or before it: the walk is a function of the places
drawn. Drawing again has no bound of its own, so it takes fuel, and `none` means that the fuel ran
out before an answer was found. -/

namespace GiftExchange

variable {σ : Type} [RandomSource σ]

/-- The greatest low half that is accepted for a bound: the bound shifted up to 32 bits, less
one. -/
def acceptedLow (bound : Nat) : Nat :=
  (bound <<< (31 - Nat.log2 bound)) - 1

/-- Draws a number below `bound`. -/
def drawBelow (bound : Nat) : Nat → σ → Option (Nat × σ)
  | 0, _ => none
  | fuel + 1, s =>
    let (v, s) := RandomSource.next s
    let product := v.toNat * bound
    if product % UInt32.size ≤ acceptedLow bound then some (product / UInt32.size, s)
    else drawBelow bound fuel s

/-- Draws the places of a walk from place `last` down to place 1: for each place one at or
before it. -/
def drawPlaces (fuel : Nat) : (last : Nat) → σ → Option (List Nat × σ)
  | 0, s => some ([], s)
  | last + 1, s =>
    (drawBelow (last + 2) fuel s).bind fun (j, s) =>
      (drawPlaces fuel last s).map fun (js, s) => (j :: js, s)

/-- The list with two places exchanged. -/
def swapPlaces {α : Type} (xs : List α) (i j : Nat) : List α :=
  match xs[i]?, xs[j]? with
  | some a, some b => (xs.set i b).set j a
  | _, _ => xs

/-- The walk: the places drawn are for the places counted down to 1, so the number of places still
to come says which place is exchanged. -/
def walk {α : Type} : List Nat → List α → List α
  | [], xs => xs
  | j :: js, xs => walk js (swapPlaces xs (js.length + 1) j)

def shuffle {α : Type} (fuel : Nat) (xs : List α) (s : σ) : Option (List α × σ) :=
  (drawPlaces fuel (xs.length - 1) s).map fun (js, s) => (walk js xs, s)

end GiftExchange
