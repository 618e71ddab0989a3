import AuctionBudget.Money
import AuctionBudget.Proofs.Number.Near
import AuctionBudget.Proofs.Number.Whole
import AuctionBudget.Rule.Allowance

/-! # Allowances in cents

An allowance is calculated in units, and the hair that it is moved up by grows with it. Up to 4.8
billion units it is exact to the cent. From 5.2 billion units on the hair is more than half a cent,
and the allowance is always too large.
-/

namespace AuctionBudget.Rule

open Number

variable {threshold total : Money} {operator : Operator} {x : Float} {q : ℚ}

/-- The cents that an operator adds to its threshold. -/
def Operator.cents : Operator → ℤ
  | .less => -1
  | .greater => 1
  | .atMost => 0
  | .atLeast => 0
  | .equal => 0

/-- What exact arithmetic leaves under a threshold, in cents. -/
def centsLeft (threshold : Money) (operator : Operator) (total : Money) : ℤ :=
  threshold.cents - total.cents + operator.cents

/-- The cents of a value as they are before the floor is taken: moved up by a relative hair, and
    then by a half. -/
def lifted (value : Float) : Float :=
  value * 100.0 + (value * 100.0).abs * 1e-12 + 0.5

theorem roundHalfUp_eq (value : Float) : roundHalfUp value = Number.floor (lifted value) / 100.0 :=
  rfl

theorem value?_hundred : value? 100.0 = some 100 := by
  have taken : (100.0 : Float).toModel.unpack =
      .finite .positive 7036874417766400 (-46) (by decide) := rfl
  rw [value?, taken, meant?]
  norm_num

theorem value?_half : value? 0.5 = some (1 / 2) := by
  have taken : (0.5 : Float).toModel.unpack =
      .finite .positive 4503599627370496 (-53) (by decide) := rfl
  rw [value?, taken, meant?]
  norm_num

theorem near_strictStep : Near strictStep (1 / 100) (1 / 10 ^ 15) := by
  have taken : strictStep.toModel.unpack =
      .finite .positive 5764607523034235 (-59) (by decide) := rfl
  refine ⟨5764607523034235 * 2 ^ (-59 : ℤ), ?_, ?_⟩
  · rw [value?, taken, meant?]
    norm_num
  · norm_num [abs_le]

theorem value?_hair : value? 1e-12 = some (4951760157141521 * 2 ^ (-92 : ℤ)) := by
  have taken : (1e-12 : Float).toModel.unpack =
      .finite .positive 4951760157141521 (-92) (by decide) := rfl
  rw [value?, taken, meant?]
  norm_num

theorem near_hair : Near 1e-12 (1 / 10 ^ 12) (1 / 10 ^ 27) :=
  ⟨_, value?_hair, by norm_num [abs_le]⟩

theorem near_units {amount : Money} (small : |amount.cents| ≤ 10 ^ 13) :
    Near amount.units (amount.cents / 100) (1 / 2 ^ 17) := by
  have exact : Near (ofInt amount.cents) amount.cents 0 := near_ofInt (small.trans (by norm_num))
  have bound : |(amount.cents : ℚ)| ≤ 10 ^ 13 := by exact_mod_cast small
  have size : |(amount.cents / 100 : ℚ)| ≤ 10 ^ 11 := by
    rw [abs_div, abs_of_pos (by norm_num : (0 : ℚ) < 100)]
    linarith
  refine (exact.div value?_hundred (k := 37) (by norm_num) size ?_ ?_ ?_).mono ?_ <;> norm_num

theorem near_adjusted (small : |threshold.cents| ≤ 10 ^ 13) (operator : Operator) :
    Near (adjustedThreshold threshold.units operator)
      ((threshold.cents + operator.cents) / 100) (1 / 65000) := by
  have units := near_units small
  obtain ⟨low, high⟩ := abs_le.1 small
  have low : (-10 ^ 13 : ℚ) ≤ threshold.cents := by exact_mod_cast low
  have high : (threshold.cents : ℚ) ≤ 10 ^ 13 := by exact_mod_cast high
  cases operator with
  | less =>
      have size : |(threshold.cents / 100 - 1 / 100 : ℚ)| ≤ 10 ^ 11 + 1 := by
        rw [abs_le]
        constructor <;> linarith
      have result := units.sub near_strictStep (k := 37) size (by norm_num) (by norm_num)
        (by norm_num)
      have same : (threshold.cents / 100 - 1 / 100 : ℚ) =
          (threshold.cents + (Operator.less.cents : ℤ)) / 100 := by
        rw [Operator.cents]
        push_cast
        ring
      rw [← same]
      exact result.mono (by norm_num)
  | greater =>
      have size : |(threshold.cents / 100 + 1 / 100 : ℚ)| ≤ 10 ^ 11 + 1 := by
        rw [abs_le]
        constructor <;> linarith
      have result := units.add near_strictStep (k := 37) size (by norm_num) (by norm_num)
        (by norm_num)
      have same : (threshold.cents / 100 + 1 / 100 : ℚ) =
          (threshold.cents + (Operator.greater.cents : ℤ)) / 100 := by
        rw [Operator.cents]
        push_cast
        ring
      rw [← same]
      exact result.mono (by norm_num)
  | atMost | atLeast | equal =>
      rw [Operator.cents, Int.cast_zero, add_zero]
      exact units.mono (by norm_num)

theorem abs_centsLeft_le (smallThreshold : |threshold.cents| ≤ 10 ^ 13)
    (smallTotal : |total.cents| ≤ 10 ^ 13) (operator : Operator) :
    |centsLeft threshold operator total| ≤ 2 * 10 ^ 13 + 1 := by
  have step : |operator.cents| ≤ 1 := by cases operator <;> decide
  rw [centsLeft]
  rw [abs_le] at *
  omega

/-- The difference that is rounded, in units. -/
theorem near_difference (smallThreshold : |threshold.cents| ≤ 10 ^ 13)
    (smallTotal : |total.cents| ≤ 10 ^ 13) (operator : Operator) :
    Near (adjustedThreshold threshold.units operator - total.units)
      (centsLeft threshold operator total / 100) (1 / 26000) := by
  have bound : |(centsLeft threshold operator total : ℚ)| ≤ 2 * 10 ^ 13 + 1 := by
    exact_mod_cast abs_centsLeft_le smallThreshold smallTotal operator
  have same : ((threshold.cents + operator.cents) / 100 - total.cents / 100 : ℚ) =
      centsLeft threshold operator total / 100 := by
    rw [centsLeft]
    push_cast
    ring
  have size : |((threshold.cents + operator.cents) / 100 - total.cents / 100 : ℚ)| ≤
      2 * 10 ^ 11 + 1 := by
    rw [same, abs_div, abs_of_pos (by norm_num : (0 : ℚ) < 100)]
    linarith
  have result := (near_adjusted smallThreshold operator).sub (near_units smallTotal) (k := 38) size
    (by norm_num) (by norm_num) (by norm_num)
  rw [same] at result
  exact result.mono (by norm_num)

/-- The value of which the floor is taken: the cents that are left, the hair and a half. -/
theorem near_lifted {left : ℤ} (near : Near x (left / 100) (1 / 26000))
    (small : |left| ≤ 2 * 10 ^ 13 + 1) :
    Near (lifted x) (left + |(left : ℚ)| / 10 ^ 12 + 1 / 2) (1 / 100) := by
  have bound : |(left : ℚ)| ≤ 2 * 10 ^ 13 + 1 := by exact_mod_cast small
  have positive := abs_nonneg (left : ℚ)
  obtain ⟨low, high⟩ := abs_le.1 bound
  have scaled : Near (x * 100.0) left (6 / 1000) := by
    have product : (left / 100 * 100 : ℚ) = left := div_mul_cancel₀ _ (by norm_num)
    have size : |(left / 100 * 100 : ℚ)| ≤ 2 * 10 ^ 13 + 1 := by rwa [product]
    have result := near.mul (near_of_value? value?_hundred) (k := 45) size (by norm_num)
      (by norm_num) (by norm_num)
    rw [product] at result
    exact result.mono (by norm_num)
  have hair : Near ((x * 100.0).abs * 1e-12) (|(left : ℚ)| * (1 / 10 ^ 12)) (1 / 10 ^ 12) := by
    have size : |(|(left : ℚ)| * (1 / 10 ^ 12))| ≤ 21 := by
      rw [abs_of_nonneg (by positivity)]
      linarith
    refine (scaled.abs.mul near_hair (k := 5) size ?_ (by norm_num) (by norm_num)).mono ?_
    · rw [abs_abs]
      norm_num
      linarith
    · rw [abs_abs]
      norm_num
      linarith
  have moved : Near (x * 100.0 + (x * 100.0).abs * 1e-12) (left + |(left : ℚ)| * (1 / 10 ^ 12))
      (8 / 1000) := by
    have size : |(left : ℚ) + |(left : ℚ)| * (1 / 10 ^ 12)| ≤ 2 * 10 ^ 13 + 100 := by
      rw [abs_le]
      constructor <;> linarith
    exact (scaled.add hair (k := 45) size (by norm_num) (by norm_num) (by norm_num)).mono
      (by norm_num)
  have size : |(left : ℚ) + |(left : ℚ)| * (1 / 10 ^ 12) + 1 / 2| ≤ 2 * 10 ^ 13 + 101 := by
    rw [abs_le]
    constructor <;> linarith
  rw [div_eq_mul_one_div |(left : ℚ)|]
  exact (moved.add (near_of_value? value?_half) (k := 45) size (by norm_num) (by norm_num)
    (by norm_num)).mono (by norm_num)

/-- The bound on the cents that are handled. -/
theorem abs_floor_le {l : ℚ} (small : |l| ≤ 21 * 10 ^ 12) : |(⌊l⌋ : ℚ)| ≤ 22 * 10 ^ 12 := by
  obtain ⟨low, high⟩ := abs_le.1 small
  have below := Int.floor_le l
  have above := Int.lt_floor_add_one l
  rw [abs_le]
  constructor <;> linarith

theorem near_roundHalfUp {l : ℚ} (value : value? (lifted x) = some l)
    (small : |l| ≤ 21 * 10 ^ 12) : Near (roundHalfUp x) (⌊l⌋ / 100) (1 / 2 ^ 16) := by
  have bound := abs_floor_le small
  have size : |(⌊l⌋ / 100 : ℚ)| ≤ 22 * 10 ^ 10 := by
    rw [abs_div, abs_of_pos (by norm_num : (0 : ℚ) < 100)]
    linarith
  have floor : Near (Number.floor (lifted x)) ⌊l⌋ 0 := near_of_value? (value?_floor value)
  rw [roundHalfUp_eq]
  exact (floor.div value?_hundred (k := 38) (by norm_num) size (by norm_num) (by norm_num)
    (by norm_num)).mono (by norm_num)

/-- What is close to a storable number of cents becomes it. -/
theorem cents_ofUnits_of_near {n : ℤ} {ε : ℚ} (near : Near (x * 100.0) n ε) (close : ε < 1 / 2)
    (low : Money.smallestCents ≤ n) (high : n ≤ Money.largestCents) : (Money.ofUnits x).cents = n := by
  obtain ⟨v, value, error⟩ := near
  have nearest : awayFromZero v = n := awayFromZero_eq (error.trans_lt close)
  rw [Money.ofUnits, toIntWithin_eq value (by decide) (by decide), nearest, min_eq_right high,
    max_eq_right low]
  exact Money.cents_ofCents ⟨low, high⟩

/-- A number of units that is close enough to whole cents becomes them. -/
theorem cents_ofUnits {n : ℤ} (near : Near x (n / 100) (1 / 2 ^ 16))
    (small : |(n : ℚ)| ≤ 22 * 10 ^ 12) : (Money.ofUnits x).cents = n := by
  have product : (n / 100 * 100 : ℚ) = n := div_mul_cancel₀ _ (by norm_num)
  have size : |(n / 100 * 100 : ℚ)| ≤ 22 * 10 ^ 12 := by rwa [product]
  have scaled := near.mul (near_of_value? value?_hundred) (k := 45) size (by norm_num)
    (by norm_num) (by norm_num)
  rw [product] at scaled
  have bound : |n| ≤ 22 * 10 ^ 12 := by exact_mod_cast small
  rw [abs_le] at bound
  refine cents_ofUnits_of_near scaled (by norm_num) ?_ ?_
  · rw [Money.smallestCents]
    omega
  · rw [Money.largestCents]
    omega

/-- The allowance is the floor, or nothing. -/
theorem cents_allowed {l : ℚ} (value : value? (lifted x) = some l) (small : |l| ≤ 21 * 10 ^ 12) :
    (Money.ofUnits (if 0.0 < roundHalfUp x then roundHalfUp x else 0.0)).cents = max 0 ⌊l⌋ := by
  have near := near_roundHalfUp value small
  have ⟨v, valueRounded, close⟩ := near
  have order : 0.0 < roundHalfUp x ↔ 0 < v := lt_iff value?_zero valueRounded
  norm_num [abs_le] at close
  by_cases positive : 0 < v
  · have notNegative : 0 ≤ ⌊l⌋ := by
      by_contra negative
      have cent : (⌊l⌋ : ℚ) ≤ -1 := by exact_mod_cast Int.le_sub_one_of_lt (Int.not_le.1 negative)
      linarith
    rw [if_pos (order.2 positive), cents_ofUnits near (abs_floor_le small)]
    omega
  · have notPositive : ⌊l⌋ ≤ 0 := by
      by_contra some
      have cent : (1 : ℚ) ≤ ⌊l⌋ := by exact_mod_cast Int.not_le.1 some
      linarith
    have nothing : Near 0.0 ((0 : ℤ) / 100) (1 / 2 ^ 16) := by
      rw [Int.cast_zero, zero_div]
      exact (near_of_value? value?_zero).mono (by norm_num)
    rw [if_neg fun more => positive (order.1 more), cents_ofUnits nothing (by norm_num)]
    omega

/-- What exact arithmetic leaves is what an allowance is unless the hair makes a cent of it. -/
theorem cents_remaining (smallThreshold : |threshold.cents| ≤ 10 ^ 13)
    (smallTotal : |total.cents| ≤ 10 ^ 13) (operator : Operator) :
    ∃ l, value? (lifted (adjustedThreshold threshold.units operator - total.units)) = some l ∧
      |l - (centsLeft threshold operator total +
        |(centsLeft threshold operator total : ℚ)| / 10 ^ 12 + 1 / 2)| ≤ 1 / 100 ∧
      (Money.ofUnits (remaining threshold.units operator total.units)).cents = max 0 ⌊l⌋ := by
  have small := abs_centsLeft_le smallThreshold smallTotal operator
  obtain ⟨l, value, close⟩ :=
    near_lifted (near_difference smallThreshold smallTotal operator) small
  have bound : |(centsLeft threshold operator total : ℚ)| ≤ 2 * 10 ^ 13 + 1 := by
    exact_mod_cast small
  have positive := abs_nonneg (centsLeft threshold operator total : ℚ)
  refine ⟨l, value, close, cents_allowed value ?_⟩
  obtain ⟨low, high⟩ := abs_le.1 bound
  rw [abs_le] at close ⊢
  norm_num at close ⊢
  constructor <;> linarith

theorem floor_le_zero {left : ℤ} {l : ℚ} (notPositive : left ≤ 0)
    (close : |l - (left + |(left : ℚ)| / 10 ^ 12 + 1 / 2)| ≤ 1 / 100) : ⌊l⌋ ≤ 0 := by
  have sign : (left : ℚ) ≤ 0 := by exact_mod_cast notPositive
  rw [abs_of_nonpos sign, abs_le] at close
  norm_num at close
  refine Int.lt_add_one_iff.1 (Int.floor_lt.2 ?_)
  push_cast
  linarith

theorem le_floor {left : ℤ} {l : ℚ} (positive : 0 < left)
    (close : |l - (left + |(left : ℚ)| / 10 ^ 12 + 1 / 2)| ≤ 1 / 100) : left ≤ ⌊l⌋ := by
  have sign : (0 : ℚ) < left := by exact_mod_cast positive
  rw [abs_of_pos sign, abs_le] at close
  norm_num at close
  refine Int.le_floor.2 ?_
  linarith

theorem floor_le_of_le {left : ℤ} {l : ℚ} (positive : 0 < left) (few : left ≤ 480 * 10 ^ 9)
    (close : |l - (left + |(left : ℚ)| / 10 ^ 12 + 1 / 2)| ≤ 1 / 100) : ⌊l⌋ ≤ left := by
  have sign : (0 : ℚ) < left := by exact_mod_cast positive
  have few : (left : ℚ) ≤ 480 * 10 ^ 9 := by exact_mod_cast few
  rw [abs_of_pos sign, abs_le] at close
  norm_num at close
  refine Int.lt_add_one_iff.1 (Int.floor_lt.2 ?_)
  push_cast
  linarith

theorem lt_floor_of_le {left : ℤ} {l : ℚ} (many : 520 * 10 ^ 9 ≤ left)
    (close : |l - (left + |(left : ℚ)| / 10 ^ 12 + 1 / 2)| ≤ 1 / 100) : left < ⌊l⌋ := by
  have many : (520 * 10 ^ 9 : ℚ) ≤ left := by exact_mod_cast many
  have sign : (0 : ℚ) ≤ left := by linarith
  rw [abs_of_nonneg sign, abs_le] at close
  norm_num at close
  refine Int.add_one_le_iff.1 (Int.le_floor.2 ?_)
  push_cast
  linarith

/-- How an allowance relates to what exact arithmetic leaves under a threshold: it is never too
    small, and too large just when the hair lifts it to the next cent. -/
theorem remaining_exact_iff (smallThreshold : |threshold.cents| ≤ 10 ^ 13)
    (smallTotal : |total.cents| ≤ 10 ^ 13) (operator : Operator) :
    let left := centsLeft threshold operator total
    let allowed := (Money.ofUnits (remaining threshold.units operator total.units)).cents
    max 0 left ≤ allowed ∧
      (allowed = max 0 left ↔ left ≤ 0 ∨
        lifted (adjustedThreshold threshold.units operator - total.units) < ofInt (left + 1)) ∧
      (left ≤ 480 * 10 ^ 9 → allowed = max 0 left) ∧
      (520 * 10 ^ 9 ≤ left → left < allowed) ∧
      (operator = .atMost → total.cents ≤ threshold.cents →
        (total.cents + allowed ≤ threshold.cents ↔ allowed = max 0 left)) := by
  obtain ⟨l, value, close, cents⟩ := cents_remaining smallThreshold smallTotal operator
  have small := abs_centsLeft_le smallThreshold smallTotal operator
  intro left allowed
  have floor : allowed = max 0 ⌊l⌋ := cents
  have order : lifted (adjustedThreshold threshold.units operator - total.units) <
      ofInt (left + 1) ↔ ⌊l⌋ < left + 1 := by
    rw [lt_iff value (value?_ofInt (by rw [abs_le] at *; omega)), Int.floor_lt]
  rw [order]
  have whole : operator = .atMost → left = threshold.cents - total.cents := by
    rintro rfl
    exact add_zero _
  by_cases positive : 0 < left
  · have atLeast : left ≤ ⌊l⌋ := le_floor positive close
    have exact (few : left ≤ 480 * 10 ^ 9) : ⌊l⌋ ≤ left := floor_le_of_le positive few close
    have more (many : 520 * 10 ^ 9 ≤ left) : left < ⌊l⌋ := lt_floor_of_le many close
    refine ⟨by omega, by omega, ?_, ?_, ?_⟩
    · intro few
      have := exact few
      omega
    · intro many
      have := more many
      omega
    · intro atMost within
      have := whole atMost
      omega
  · have nothing : ⌊l⌋ ≤ 0 := floor_le_zero (Int.not_lt.1 positive) close
    refine ⟨by omega, by omega, by omega, by omega, ?_⟩
    intro atMost within
    have := whole atMost
    omega

/-- Five billion units leave a cent too much. -/
theorem remaining_five_billion :
    |(⟨500000000000⟩ : Money).cents| ≤ 10 ^ 13 ∧ |(0 : Money).cents| ≤ 10 ^ 13 ∧
      (Money.ofUnits (remaining (⟨500000000000⟩ : Money).units .atMost (0 : Money).units)).cents =
        500000000001 ∧
      (Money.ofUnits (remaining (⟨500000000000⟩ : Money).units .atMost (0 : Money).units)).cents ≠
        max 0 (centsLeft ⟨500000000000⟩ .atMost 0) := by
  decide +kernel

/-- A threshold of a hundred units less one cent, exactly. -/
theorem remaining_hundred : |(⟨10000⟩ : Money).cents| ≤ 10 ^ 13 ∧
    |(⟨2999⟩ : Money).cents| ≤ 10 ^ 13 ∧
    (Money.ofUnits (remaining (⟨10000⟩ : Money).units .less (⟨2999⟩ : Money).units)).cents =
      max 0 (centsLeft ⟨10000⟩ .less ⟨2999⟩) := by
  have smallThreshold : |(⟨10000⟩ : Money).cents| ≤ 10 ^ 13 := by decide
  have smallTotal : |(⟨2999⟩ : Money).cents| ≤ 10 ^ 13 := by decide
  exact ⟨smallThreshold, smallTotal,
    (remaining_exact_iff smallThreshold smallTotal .less).2.2.1 (by decide)⟩

end AuctionBudget.Rule
