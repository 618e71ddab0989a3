import AuctionBudget.Proofs.Number.Value

/-! # Bounding the error of a calculation

Each operation adds half the distance of the grid at its result to the errors that its operands
bring along.
-/

namespace AuctionBudget.Number

variable {x y : Float} {p q v b ε δ : ℚ} {k : ℤ}

/-- The float has a value, which is no further than `ε` from `q`. -/
def Near (x : Float) (q ε : ℚ) : Prop :=
  ∃ v, value? x = some v ∧ |v - q| ≤ ε

theorem near_of_value? (value : value? x = some q) : Near x q 0 :=
  ⟨q, value, by rw [sub_self, abs_zero]⟩

theorem Near.mono (near : Near x q ε) (less : ε ≤ δ) : Near x q δ := by
  obtain ⟨v, value, close⟩ := near
  exact ⟨v, value, close.trans less⟩

theorem Near.abs (near : Near x q ε) : Near x.abs |q| ε := by
  obtain ⟨v, value, close⟩ := near
  exact ⟨|v|, value?_abs value, (abs_abs_sub_abs_le_abs_sub v q).trans close⟩

theorem near_ofInt {n : ℤ} (small : |n| ≤ 2 ^ 53) : Near (ofInt n) n 0 :=
  near_of_value? (value?_ofInt small)

theorem near_of_rounded (value : |rounded v| < 2 ^ 1024 → value? x = some (rounded v))
    (close : |v - q| ≤ ε) (size : |q| ≤ b) (room : b + ε < 2 ^ k) (low : -1021 ≤ k)
    (high : k ≤ 200) : Near x q (ε + 2 ^ (k - 54)) := by
  have below : |v| < 2 ^ k := by
    have := abs_sub_abs_le_abs_sub v q
    linarith
  have finite : |v| < 2 ^ 200 := by
    rw [← zpow_natCast]
    exact below.trans_le (zpow_le_zpow_right₀ (by norm_num) high)
  refine ⟨rounded v, value (abs_rounded_lt finite), ?_⟩
  calc |rounded v - q| ≤ |rounded v - v| + |v - q| := abs_sub_le _ _ _
    _ ≤ ε + 2 ^ (k - 54) := by
        have := abs_rounded_sub_le below low
        linarith

section Operations

variable (left : Near x p ε) (right : Near y q δ)

include left right

theorem Near.add (size : |p + q| ≤ b) (room : b + (ε + δ) < 2 ^ k) (low : -1021 ≤ k)
    (high : k ≤ 200) : Near (x + y) (p + q) (ε + δ + 2 ^ (k - 54)) := by
  obtain ⟨v, valueLeft, closeLeft⟩ := left
  obtain ⟨w, valueRight, closeRight⟩ := right
  refine near_of_rounded (value?_add valueLeft valueRight) ?_ size room low high
  calc |v + w - (p + q)| = |(v - p) + (w - q)| := by
        congr 1
        ring
    _ ≤ |v - p| + |w - q| := abs_add_le _ _
    _ ≤ ε + δ := add_le_add closeLeft closeRight

theorem Near.sub (size : |p - q| ≤ b) (room : b + (ε + δ) < 2 ^ k) (low : -1021 ≤ k)
    (high : k ≤ 200) : Near (x - y) (p - q) (ε + δ + 2 ^ (k - 54)) := by
  obtain ⟨v, valueLeft, closeLeft⟩ := left
  obtain ⟨w, valueRight, closeRight⟩ := right
  refine near_of_rounded (value?_sub valueLeft valueRight) ?_ size room low high
  calc |v - w - (p - q)| = |(v - p) - (w - q)| := by
        congr 1
        ring
    _ ≤ |v - p| + |w - q| := abs_sub _ _
    _ ≤ ε + δ := add_le_add closeLeft closeRight

theorem Near.mul (size : |p * q| ≤ b) (room : b + (ε * |q| + |p| * δ + ε * δ) < 2 ^ k)
    (low : -1021 ≤ k) (high : k ≤ 200) :
    Near (x * y) (p * q) (ε * |q| + |p| * δ + ε * δ + 2 ^ (k - 54)) := by
  obtain ⟨v, valueLeft, closeLeft⟩ := left
  obtain ⟨w, valueRight, closeRight⟩ := right
  refine near_of_rounded (value?_mul valueLeft valueRight) ?_ size room low high
  have both : |v - p| * |w - q| ≤ ε * δ :=
    mul_le_mul closeLeft closeRight (abs_nonneg _) ((abs_nonneg _).trans closeLeft)
  have first : |v - p| * |q| ≤ ε * |q| := mul_le_mul_of_nonneg_right closeLeft (abs_nonneg _)
  have second : |p| * |w - q| ≤ |p| * δ := mul_le_mul_of_nonneg_left closeRight (abs_nonneg _)
  calc |v * w - p * q| = |(v - p) * q + p * (w - q) + (v - p) * (w - q)| := by
        congr 1
        ring
    _ ≤ |(v - p) * q| + |p * (w - q)| + |(v - p) * (w - q)| := abs_add_three _ _ _
    _ = |v - p| * |q| + |p| * |w - q| + |v - p| * |w - q| := by
        rw [abs_mul, abs_mul, abs_mul]
    _ ≤ ε * |q| + |p| * δ + ε * δ := add_le_add_three first second both

end Operations

/-- Dividing by a float that is known exactly. -/
theorem Near.div (left : Near x p ε) (right : value? y = some q) (nonzero : q ≠ 0)
    (size : |p / q| ≤ b) (room : b + ε / |q| < 2 ^ k) (low : -1021 ≤ k) (high : k ≤ 200) :
    Near (x / y) (p / q) (ε / |q| + 2 ^ (k - 54)) := by
  obtain ⟨v, value, close⟩ := left
  refine near_of_rounded (value?_div value right nonzero) ?_ size room low high
  rw [← sub_div, abs_div]
  exact div_le_div_of_nonneg_right close (abs_nonneg _)

end AuctionBudget.Number
