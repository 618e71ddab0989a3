import AuctionBudget.Rule.Comparison

/-! # Allowances

What may still be spent under a rule: the threshold less the current total, rounded once to two
decimals and never negative. A strict comparison keeps one cent of distance from its threshold.
-/

namespace AuctionBudget.Rule

/-- The distance that a strict comparison keeps. -/
def strictStep : Float := 0.01

/-- The largest total that an operator allows under a threshold. -/
def adjustedThreshold (threshold : Float) : Operator → Float
  | .less => threshold - strictStep
  | .greater => threshold + strictStep
  | .atMost | .atLeast | .equal => threshold

/-- A value with two decimals, halves going up. The value is moved up by a relative hair first, so
    that a half which binary64 stores a little too low still counts as one. -/
def roundHalfUp (value : Float) : Float :=
  let scaled := value * 100.0
  let moved := scaled + scaled.abs * 1e-12
  Number.floor (moved + 0.5) / 100.0

def remaining (threshold : Float) (operator : Operator) (total : Float) : Float :=
  let left := roundHalfUp (adjustedThreshold threshold operator - total)
  if 0.0 < left then left else 0.0

end AuctionBudget.Rule
