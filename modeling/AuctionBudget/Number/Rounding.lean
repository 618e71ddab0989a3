/-! # Rounding a quotient to a whole number

The nearest whole number is at most half a unit away; only a quotient exactly between two whole
numbers leaves a choice, which the `Tie` makes.
-/

namespace AuctionBudget.Number

/-- Which neighbour a value exactly between two whole numbers takes. -/
inductive Tie where
  /-- The larger one. -/
  | up
  /-- The even one. -/
  | even
  deriving DecidableEq

/-- The whole number nearest to `num / den`. -/
def roundDiv (tie : Tie) (num den : Nat) : Nat :=
  let below := num / den
  let twice := 2 * (num % den)
  if twice < den then below
  else if den < twice then below + 1
  else match tie with
    | .up => below + 1
    | .even => below + below % 2

end AuctionBudget.Number
