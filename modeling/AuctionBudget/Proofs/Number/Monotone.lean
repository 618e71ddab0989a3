import AuctionBudget.Proofs.Number.Whole

/-! # Rounding keeps the order

Within one grid the nearest points come in the order of what they are nearest to. Between two grids
lies a power of two, which is a point of both: rounding never crosses it.
-/

namespace AuctionBudget.Number

variable {x y : ℚ}

theorem nearestEven_mono (le : x ≤ y) : nearestEven x ≤ nearestEven y := by
  by_contra crossed
  obtain ⟨lower, -, -⟩ := isNearest_nearestEven x
  obtain ⟨-, upper, -⟩ := isNearest_nearestEven y
  have next : (nearestEven y : ℚ) + 1 ≤ nearestEven x := by exact_mod_cast Int.not_le.1 crossed
  have same : x = y := by linarith
  exact crossed (by rw [same])

theorem nearestEven_two_pow (n : ℕ) : nearestEven (2 ^ n) = 2 ^ n := by
  have whole := nearestEven_intCast (2 ^ n)
  rwa [Int.cast_pow, Int.cast_ofNat] at whole

theorem gridExponent_mono (positive : 0 < x) (le : x ≤ y) : gridExponent x ≤ gridExponent y := by
  rw [gridExponent, gridExponent, abs_of_pos positive, abs_of_pos (positive.trans_le le)]
  exact max_le_max_right _ (Int.sub_le_sub_right (Int.log_mono_right positive le) _)

/-- A number is not rounded above the end of its grid. -/
theorem rounded_le_end (positive : 0 < x) : rounded x ≤ 2 ^ (gridExponent x + 53) := by
  have unit : (0 : ℚ) < 2 ^ gridExponent x := by positivity
  have inside : nearestEven (x / 2 ^ gridExponent x) ≤ 2 ^ 53 := by
    have mono := nearestEven_mono (scaled_bounds positive).1.le
    rwa [nearestEven_two_pow] at mono
  rw [rounded, zpow_add₀ two_ne_zero, mul_comm]
  exact mul_le_mul_of_nonneg_left (by exact_mod_cast inside) unit.le

/-- A number is not rounded below the start of its grid. -/
theorem start_le_rounded (positive : 0 < x) (normal : -1074 < gridExponent x) :
    2 ^ (gridExponent x + 52) ≤ rounded x := by
  have unit : (0 : ℚ) < 2 ^ gridExponent x := by positivity
  have inside : 2 ^ 52 ≤ nearestEven (x / 2 ^ gridExponent x) := by
    have mono := nearestEven_mono ((scaled_bounds positive).2.resolve_left normal.ne')
    rwa [nearestEven_two_pow] at mono
  rw [rounded, zpow_add₀ two_ne_zero, mul_comm]
  exact mul_le_mul_of_nonneg_right (by exact_mod_cast inside) unit.le

theorem rounded_mono_of_pos (positive : 0 < x) (le : x ≤ y) : rounded x ≤ rounded y := by
  rcases (gridExponent_mono positive le).lt_or_eq with apart | same
  · calc rounded x ≤ 2 ^ (gridExponent x + 53) := rounded_le_end positive
      _ ≤ 2 ^ (gridExponent y + 52) := zpow_le_zpow_right₀ (by norm_num) (by omega)
      _ ≤ rounded y :=
          start_le_rounded (positive.trans_le le) ((le_gridExponent x).trans_lt apart)
  · rw [rounded, rounded, same]
    have unit : (0 : ℚ) < 2 ^ gridExponent y := by positivity
    refine mul_le_mul_of_nonneg_right ?_ unit.le
    exact_mod_cast nearestEven_mono (div_le_div_of_nonneg_right le unit.le)

theorem rounded_nonneg (nonneg : 0 ≤ x) : 0 ≤ rounded x := by
  have mono : 0 ≤ nearestEven (x / 2 ^ gridExponent x) := by
    have whole := nearestEven_intCast 0
    push_cast at whole
    rw [← whole]
    exact nearestEven_mono (by positivity)
  have scaled : (0 : ℚ) ≤ nearestEven (x / 2 ^ gridExponent x) := by exact_mod_cast mono
  exact mul_nonneg scaled (by positivity)

/-- Rounding keeps the order. -/
theorem rounded_mono (le : x ≤ y) : rounded x ≤ rounded y := by
  rcases lt_or_ge 0 x with positive | notPositive
  · exact rounded_mono_of_pos positive le
  · rcases le_or_gt 0 y with nonneg | negative
    · have below := rounded_nonneg (neg_nonneg.2 notPositive)
      rw [rounded_neg] at below
      linarith [rounded_nonneg nonneg]
    · have opposite := rounded_mono_of_pos (neg_pos.2 negative) (neg_le_neg le)
      rw [rounded_neg, rounded_neg] at opposite
      linarith

theorem round_mono (le : x ≤ y) : round x ≤ round y := by
  rw [round_eq, round_eq]
  exact Int.floor_mono (by linarith)

/-- The nearest whole numbers come in the order of what they are nearest to. -/
theorem awayFromZero_mono (le : x ≤ y) : awayFromZero x ≤ awayFromZero y := by
  unfold awayFromZero
  split
  · next nonneg =>
      rw [if_pos (nonneg.trans le)]
      exact round_mono le
  · next negative =>
      have below : 0 ≤ round (-x) := by
        have mono := round_mono (by linarith : (0 : ℚ) ≤ -x)
        rwa [round_zero] at mono
      split
      · next nonneg =>
          have above := round_mono nonneg
          rw [round_zero] at above
          omega
      · exact neg_le_neg (round_mono (neg_le_neg le))

end AuctionBudget.Number
