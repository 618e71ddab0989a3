import Mathlib.Algebra.Order.Round
import Mathlib.Algebra.Order.Field.Power
import Mathlib.Algebra.Order.Field.Rat
import Mathlib.Data.Int.Log
import Mathlib.Data.Rat.Floor
import Mathlib.Tactic.FieldSimp
import Mathlib.Tactic.Linarith
import Mathlib.Tactic.NormNum
import Mathlib.Tactic.Positivity

/-! # The binary64 number nearest to a rational number

Binary64 numbers lie on grids: from one power of two to the next they are equally far apart, and
never closer than `2 ^ -1074`. Rounding to the nearest point of the grid moves a number by at most
half the distance, and leaves whole numbers up to `2 ^ 53` in place.
-/

namespace AuctionBudget.Number

/-- The whole number nearest to `x`, and the even one of two that are. -/
def nearestEven (x : ℚ) : ℤ :=
  if Int.fract x = 1 / 2 ∧ Even ⌊x⌋ then ⌊x⌋ else round x

/-- A nearest whole number, which is even where there are two. -/
structure IsNearest (x : ℚ) (n : ℤ) : Prop where
  lower : (n : ℚ) ≤ x + 1 / 2
  upper : x - 1 / 2 ≤ n
  even : |x - n| = 1 / 2 → Even n

theorem isNearest_nearestEven (x : ℚ) : IsNearest x (nearestEven x) := by
  have parts := Int.floor_add_fract x
  have small := Int.fract_lt_one x
  have large := Int.fract_nonneg x
  unfold nearestEven
  split
  · next tie =>
      obtain ⟨half, even⟩ := tie
      exact ⟨by linarith, by linarith, fun _ => even⟩
  · next other =>
      refine ⟨round_le_add_half x, (sub_half_lt_round x).le, fun far => ?_⟩
      rw [abs_sub_round_eq_min] at far
      have half : Int.fract x = 1 / 2 := by
        rcases min_choice (Int.fract x) (1 - Int.fract x) with h | h
        · linarith
        · linarith
      have above : round x = ⌊x⌋ + 1 := by
        rw [round_eq_iff, Set.mem_Ico]
        push_cast
        constructor
        · linarith
        · linarith
      have odd : ¬ Even ⌊x⌋ := fun even => other ⟨half, even⟩
      rw [above]
      exact Int.even_add_one.2 odd

theorem IsNearest.unique {x : ℚ} {n m : ℤ} (these : IsNearest x n) (those : IsNearest x m) :
    n = m := by
  -- Two different nearest numbers lie on both sides of `x` and cannot both be even.
  have apart {n m : ℤ} (these : IsNearest x n) (those : IsNearest x m) (less : n < m) : False := by
    have next : (n : ℚ) + 1 ≤ m := by exact_mod_cast less
    have below : x = n + 1 / 2 := by linarith [these.upper, those.lower]
    have above : (m : ℚ) = n + 1 := by linarith [these.upper, those.lower]
    have evenLow : Even n := these.even (by rw [below]; norm_num)
    have evenHigh : Even m := those.even (by rw [below, above]; norm_num [abs_of_neg])
    have same : m = n + 1 := by exact_mod_cast above
    exact Int.even_add_one.1 (same ▸ evenHigh) evenLow
  rcases lt_trichotomy n m with less | same | more
  · exact (apart these those less).elim
  · exact same
  · exact (apart those these more).elim

theorem IsNearest.eq {x : ℚ} {n : ℤ} (nearest : IsNearest x n) : nearestEven x = n :=
  (isNearest_nearestEven x).unique nearest

@[simp] theorem nearestEven_intCast (n : ℤ) : nearestEven n = n := by
  refine IsNearest.eq ⟨by linarith, by linarith, fun far => ?_⟩
  norm_num at far

theorem nearestEven_neg (x : ℚ) : nearestEven (-x) = -nearestEven x := by
  obtain ⟨lower, upper, even⟩ := isNearest_nearestEven x
  refine IsNearest.eq ⟨by push_cast; linarith, by push_cast; linarith, fun far => ?_⟩
  rw [even_neg]
  refine even ?_
  rw [← far, ← abs_neg]
  congr 1
  push_cast
  ring

theorem abs_nearestEven_sub_le (x : ℚ) : |nearestEven x - x| ≤ 1 / 2 := by
  obtain ⟨lower, upper, -⟩ := isNearest_nearestEven x
  rw [abs_le]
  constructor
  · linarith
  · linarith

/-- The grid around `x` has distance `2 ^ gridExponent x`. -/
def gridExponent (x : ℚ) : ℤ :=
  max (Int.log 2 |x| - 52) (-1074)

/-- The binary64 number nearest to `x`, unless it is too large to be one. -/
def rounded (x : ℚ) : ℚ :=
  nearestEven (x / 2 ^ gridExponent x) * 2 ^ gridExponent x

theorem le_gridExponent (x : ℚ) : -1074 ≤ gridExponent x :=
  le_max_right _ _

theorem gridExponent_neg (x : ℚ) : gridExponent (-x) = gridExponent x := by
  rw [gridExponent, abs_neg, gridExponent]

theorem rounded_neg (x : ℚ) : rounded (-x) = -rounded x := by
  rw [rounded, gridExponent_neg, neg_div, nearestEven_neg, rounded]
  push_cast
  ring

@[simp] theorem rounded_zero : rounded 0 = 0 := by
  have still := nearestEven_intCast 0
  rw [Int.cast_zero] at still
  simp [rounded, still]

theorem gridExponent_le {x : ℚ} {k : ℤ} (nonzero : x ≠ 0) (small : |x| < 2 ^ k)
    (normal : -1021 ≤ k) : gridExponent x ≤ k - 53 := by
  have below := (Int.lt_zpow_iff_log_lt (b := 2) (by decide) (abs_pos.2 nonzero)).1
    (by exact_mod_cast small)
  exact max_le (by omega) (by omega)

theorem abs_rounded_sub_le_grid (x : ℚ) : |rounded x - x| ≤ 2 ^ gridExponent x / 2 := by
  have unit : (0 : ℚ) < 2 ^ gridExponent x := by positivity
  have same : rounded x - x =
      (nearestEven (x / 2 ^ gridExponent x) - x / 2 ^ gridExponent x) * 2 ^ gridExponent x := by
    rw [sub_mul, div_mul_cancel₀ _ unit.ne', rounded]
  rw [same, abs_mul, abs_of_pos unit]
  have half := abs_nearestEven_sub_le (x / 2 ^ gridExponent x)
  linarith [mul_le_mul_of_nonneg_right half unit.le]

/-- Rounding moves a number by at most half the distance of the grid below `2 ^ k`. -/
theorem abs_rounded_sub_le {x : ℚ} {k : ℤ} (small : |x| < 2 ^ k) (normal : -1021 ≤ k) :
    |rounded x - x| ≤ 2 ^ (k - 54) := by
  by_cases zero : x = 0
  · subst zero
    rw [rounded_zero, sub_zero, abs_zero]
    positivity
  · have grid : (2 : ℚ) ^ gridExponent x ≤ 2 ^ (k - 53) :=
      zpow_le_zpow_right₀ (by norm_num) (gridExponent_le zero small normal)
    have halved : (2 : ℚ) ^ (k - 54) = 2 ^ (k - 53) / 2 := by
      rw [eq_div_iff two_ne_zero, ← zpow_add_one₀ two_ne_zero]
      congr 1
      omega
    rw [halved]
    linarith [abs_rounded_sub_le_grid x]

/-- Points of a grid that is coarse enough stay in place. -/
theorem rounded_of_gridExponent_le {n e : ℤ} (coarse : gridExponent (n * 2 ^ e) ≤ e) :
    rounded (n * 2 ^ e) = n * 2 ^ e := by
  obtain ⟨steps, same⟩ := Int.eq_ofNat_of_zero_le (sub_nonneg.2 coarse)
  have unit : (2 : ℚ) ^ gridExponent (n * 2 ^ e) ≠ 0 := by positivity
  have split : (2 : ℚ) ^ e = 2 ^ steps * 2 ^ gridExponent (n * 2 ^ e) := by
    rw [← zpow_natCast, ← zpow_add₀ two_ne_zero]
    congr 1
    omega
  have whole : (n * 2 ^ e : ℚ) / 2 ^ gridExponent (n * 2 ^ e) = (n * 2 ^ steps : ℤ) := by
    rw [div_eq_iff unit]
    push_cast
    rw [mul_assoc, ← split]
  rw [rounded, whole, nearestEven_intCast]
  push_cast
  rw [mul_assoc, ← split]

theorem rounded_of_lt {n e : ℤ} (small : |n| < 2 ^ 53) (normal : -1074 ≤ e) :
    rounded (n * 2 ^ e) = n * 2 ^ e := by
  by_cases zero : n = 0
  · subst zero
    simp
  · refine rounded_of_gridExponent_le ?_
    have nonzero : (n * 2 ^ e : ℚ) ≠ 0 := by positivity
    have bound : |(n * 2 ^ e : ℚ)| < 2 ^ (53 + e) := by
      rw [abs_mul, abs_of_pos (by positivity : (0 : ℚ) < 2 ^ e), zpow_add₀ two_ne_zero]
      exact mul_lt_mul_of_pos_right (by exact_mod_cast small) (by positivity)
    have := gridExponent_le nonzero bound (by omega)
    omega

/-- Points with at most 53 binary digits stay in place. -/
theorem rounded_of_le {n e : ℤ} (small : |n| ≤ 2 ^ 53) (normal : -1074 ≤ e) :
    rounded (n * 2 ^ e) = n * 2 ^ e := by
  rcases small.lt_or_eq with less | most
  · exact rounded_of_lt less normal
  · have half : (2 : ℚ) ^ 53 * 2 ^ e = (2 ^ 52 : ℤ) * 2 ^ (e + 1) := by
      rw [zpow_add_one₀ two_ne_zero]
      push_cast
      ring
    have stays : rounded (2 ^ 53 * 2 ^ e) = 2 ^ 53 * 2 ^ e := by
      rw [half]
      exact rounded_of_lt (by norm_num) (by omega)
    rcases abs_eq (by positivity) |>.1 most with rfl | rfl
    · rw [Int.cast_pow, Int.cast_ofNat, stays]
    · rw [Int.cast_neg, Int.cast_pow, Int.cast_ofNat, neg_mul, rounded_neg, stays]

theorem rounded_intCast {n : ℤ} (small : |n| ≤ 2 ^ 53) : rounded n = n := by
  have stays := rounded_of_le small (e := 0) (by omega)
  rwa [zpow_zero, mul_one] at stays

end AuctionBudget.Number
