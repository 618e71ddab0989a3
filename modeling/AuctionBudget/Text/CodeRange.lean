/-! # Ranges of code points

A character class given as data is a list of closed ranges of code points in ascending order.
Looking a code point up stops at the first range that ends behind it.
-/

namespace AuctionBudget.Text

/-- The code points from the first to the second, both included. -/
abbrev CodeRange := Nat × Nat

/-- Whether a code point lies in one of the ranges, which ascend. -/
def inRanges : List CodeRange → Nat → Bool
  | [], _ => false
  | (first, last) :: rest, n =>
      if n < first then false
      else if n ≤ last then true
      else inRanges rest n

end AuctionBudget.Text
