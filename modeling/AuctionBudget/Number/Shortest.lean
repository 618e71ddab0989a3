import AuctionBudget.Number.Rounding

/-! # The shortest decimal of a binary64 number

Of the decimals that read back as a given positive number, the one with the fewest digits, and of
those the nearest. The numbers `n · 10 ^ i` for one `i` form a grid. The search goes from coarse
grids to fine ones and takes the first grid with a point that reads back; such a point is one of
the two neighbours of the number on that grid. The search ends at a grid on which the number itself
is a point.
-/

namespace AuctionBudget.Number

/-- The decimal `digits · 10 ^ exponent`. -/
structure Decimal where
  digits : Nat
  exponent : Int
  deriving DecidableEq

/-- One quarter of the last binary place of `mantissa · 2 ^ exponent`, measured in steps of the
    grid of tens `grid`, as numerator and denominator. -/
def quarterSteps (exponent grid : Int) : Nat × Nat :=
  (Nat.pow 2 (exponent - 2).toNat * Nat.pow 10 (-grid).toNat,
    Nat.pow 2 (2 - exponent).toNat * Nat.pow 10 grid.toNat)

/-- How far the numbers that read back as `mantissa · 2 ^ exponent` reach down, in quarters of its
    last binary place: half a place, but a quarter where the places below are half as wide. -/
def reachBelow (mantissa : Nat) (exponent : Int) : Nat :=
  if mantissa = Nat.pow 2 52 ∧ -1074 < exponent then 1 else 2

/-- Whether a point of a grid reads back as `mantissa · 2 ^ exponent`. Numbers exactly between two
    floats read back as the even one. -/
def readsBack (mantissa : Nat) (exponent grid : Int) (point : Nat) : Bool :=
  let (num, den) := quarterSteps exponent grid
  let low := (4 * mantissa - reachBelow mantissa exponent) * num
  let high := (4 * mantissa + 2) * num
  if mantissa % 2 = 0 then low ≤ point * den && point * den ≤ high
  else low < point * den && point * den < high

/-- The point of a grid nearest to `mantissa · 2 ^ exponent` that reads back as it; of two equally
    near points the larger. -/
def nearestOnGrid? (mantissa : Nat) (exponent grid : Int) : Option Nat :=
  let (num, den) := quarterSteps exponent grid
  let below := 4 * mantissa * num / den
  let near := roundDiv .up (4 * mantissa * num) den
  let far := if near = below then below + 1 else below
  if readsBack mantissa exponent grid near then some near
  else if readsBack mantissa exponent grid far then some far
  else none

/-- The first grid with a point that reads back, going down at most `steps` grids from `grid`, and
    the number's own digits after that. -/
def searchGrids (mantissa : Nat) (exponent : Int) : Nat → Int → Decimal
  | 0, _ =>
      if 0 ≤ exponent then ⟨mantissa * Nat.pow 2 exponent.toNat, 0⟩
      else ⟨mantissa * Nat.pow 5 (-exponent).toNat, exponent⟩
  | steps + 1, grid =>
      match nearestOnGrid? mantissa exponent grid with
      | some digits => ⟨digits, grid⟩
      | none => searchGrids mantissa exponent steps (grid - 1)

/-- The shortest decimal that reads back as `mantissa · 2 ^ exponent`. -/
def shortest (mantissa : Nat) (exponent : Int) : Decimal :=
  let start := max 0 (mantissa.log2 + 1 + exponent)
  searchGrids mantissa exponent (start - min 0 exponent).toNat start

end AuctionBudget.Number
