import AuctionBudget.Proofs.Number.Monotone
import AuctionBudget.Proofs.Rule.Allowance

/-! # Amounts in units and back

Rules see amounts in units, as binary64 numbers, and what they yield becomes cents again. Going there
and back keeps the order of amounts. Below `2 ^ 45` units it keeps each amount; from there on the
error of the division can make a cent.
-/

namespace AuctionBudget.Money

open Number Rule

variable {amount : Money} {x y : Float} {p q : ℚ}

/-- What becomes of an amount on the way to units and back. -/
def carried (amount : Money) : Money :=
  .ofUnits amount.units

/-- Every amount has a value in units, not far from the exact one. -/
theorem near_units (amount : Money) : Near amount.units (amount.cents / 100) (2 ^ 11) := by
  obtain ⟨low, high⟩ := inRange_cents amount
  rw [smallestCents] at low
  rw [largestCents] at high
  have bound : |(amount.cents : ℚ)| ≤ 2 ^ 63 := by
    have cents : |amount.cents| ≤ 2 ^ 63 := abs_le.2 ⟨by omega, by omega⟩
    exact_mod_cast cents
  have whole : Near (ofInt amount.cents) amount.cents (0 + 2 ^ (64 - 54 : ℤ)) :=
    near_of_rounded value?_ofInt_of_finite (by simp) bound (by norm_num) (by norm_num) (by norm_num)
  have size : |(amount.cents / 100 : ℚ)| ≤ 2 ^ 57 := by
    rw [abs_div, abs_of_pos (by norm_num : (0 : ℚ) < 100)]
    linarith
  refine (whole.div value?_hundred (k := 58) (by norm_num) size ?_ ?_ ?_).mono ?_ <;> norm_num

theorem exists_value?_units (amount : Money) :
    ∃ u, value? amount.units = some u ∧ |u| < 2 ^ 60 := by
  obtain ⟨u, value, close⟩ := near_units amount
  obtain ⟨low, high⟩ := inRange_cents amount
  rw [smallestCents] at low
  rw [largestCents] at high
  have low : (-2 ^ 63 : ℚ) ≤ amount.cents := by exact_mod_cast low
  have high : (amount.cents : ℚ) ≤ 2 ^ 63 := by exact_mod_cast high.trans (by norm_num)
  refine ⟨u, value, ?_⟩
  rw [abs_le] at close
  rw [abs_lt]
  constructor <;> linarith

/-- The cents of a value in units. -/
theorem cents_ofUnits_eq (value : value? x = some p) (small : |p| < 2 ^ 60) :
    (ofUnits x).cents = max smallestCents (min largestCents (awayFromZero (rounded (p * 100)))) := by
  have size : |p * 100| < 2 ^ 200 := by
    rw [abs_mul, abs_of_pos (by norm_num : (0 : ℚ) < 100)]
    linarith
  have scaled := value?_mul value value?_hundred (abs_rounded_lt size)
  have within : toIntWithin smallestCents largestCents (x * 100.0) =
      max smallestCents (min largestCents (awayFromZero (rounded (p * 100)))) :=
    toIntWithin_eq scaled (by decide) (by decide)
  have inRange : InRange (max smallestCents (min largestCents (awayFromZero (rounded (p * 100))))) :=
    ⟨le_max_left _ _, max_le (by decide) (min_le_left _ _)⟩
  rw [ofUnits, within, cents_ofCents inRange]

/-- More units are no fewer cents. -/
theorem ofUnits_mono (left : value? x = some p) (right : value? y = some q)
    (smallLeft : |p| < 2 ^ 60) (smallRight : |q| < 2 ^ 60) (le : p ≤ q) :
    (ofUnits x).cents ≤ (ofUnits y).cents := by
  rw [cents_ofUnits_eq left smallLeft, cents_ofUnits_eq right smallRight]
  have scaled : p * 100 ≤ q * 100 := by linarith
  have nearest := awayFromZero_mono (rounded_mono scaled)
  exact max_le_max_left _ (min_le_min_left _ nearest)

/-- Below `2 ^ 45` units no amount changes on the way. -/
theorem carried_eq (small : |amount.cents| < 100 * 2 ^ 45) : amount.carried = amount := by
  have bound : |(amount.cents : ℚ)| ≤ 100 * 2 ^ 45 - 1 := by
    exact_mod_cast Int.le_sub_one_of_lt small
  have whole : Near (ofInt amount.cents) amount.cents 0 := near_ofInt (by linarith)
  have size : |(amount.cents / 100 : ℚ)| ≤ 2 ^ 45 - 1 / 100 := by
    rw [abs_div, abs_of_pos (by norm_num : (0 : ℚ) < 100)]
    linarith
  -- Half the distance of the grid is 2⁻⁹ for the quotient, and 1/4 for the product.
  have units := whole.div value?_hundred (k := 45) (by norm_num) size (by norm_num) (by norm_num)
    (by norm_num)
  have product : (amount.cents / 100 * 100 : ℚ) = amount.cents := div_mul_cancel₀ _ (by norm_num)
  have scaled := units.mul (near_of_value? value?_hundred) (k := 52) (product ▸ bound)
    (by norm_num) (by norm_num) (by norm_num)
  rw [product] at scaled
  rw [abs_lt] at small
  ext
  refine cents_ofUnits_of_near scaled (by norm_num) ?_ ?_
  · rw [smallestCents]
    omega
  · rw [largestCents]
    omega

end AuctionBudget.Money
