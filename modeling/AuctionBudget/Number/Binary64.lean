import AuctionBudget.Number.Rounding

/-! # Whole numbers and decimals as binary64 numbers

Amounts inside rules are binary64 numbers (`Float`). This module goes back and forth between them
and exact numbers: the nearest float of a whole number and of a decimal, the floor, and the nearest
whole number within bounds. Each looks at the number taken apart into sign, mantissa and exponent,
so nothing is rounded twice.
-/

namespace AuctionBudget.Number

/-- The float nearest to a whole number. -/
def ofInt (n : Int) : Float :=
  .ofModel (.ofInt n)

/-- The float nearest to `digits / 10 ^ places`. -/
def ofDecimal (digits places : Nat) : Float :=
  .ofModel (.ofScientific digits (-places))

/-- The float nearest to a decimal given by the digits before and behind its point. -/
def ofDigits (whole fraction : List Char) : Float :=
  ofDecimal (Nat.ofDigitChars 10 (whole ++ fraction) 0) fraction.length

/-- Numerator and denominator of `mantissa · 2 ^ exponent`. -/
def asQuotient (mantissa : Nat) (exponent : Int) : Nat × Nat :=
  (mantissa * Nat.pow 2 exponent.toNat, Nat.pow 2 (-exponent).toNat)

/-- The largest whole number that is not above `x`; infinities and what is no number stay. -/
def floor (x : Float) : Float :=
  match x.toModel.unpack with
  | .finite sign mantissa exponent _ =>
      if 0 ≤ exponent then x
      else ofInt ((sign.apply mantissa).fdiv (Nat.pow 2 (-exponent).toNat))
  | _ => x

/-- The whole number nearest to `x`, halves going away from zero, and the nearer bound where that
    lies outside the bounds. What is no number counts as zero. -/
def toIntWithin (low high : Int) (x : Float) : Int :=
  match x.toModel.unpack with
  | .notANumber => 0
  | .zero _ => 0
  | .infinity .negative => low
  | .infinity .positive => high
  | .finite sign mantissa exponent _ =>
      let (num, den) := asQuotient mantissa exponent
      max low (min high (sign.apply (roundDiv .up num den)))

end AuctionBudget.Number
