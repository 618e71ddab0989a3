import AuctionBudget.Proofs.Number.Overflow

/-! # The float of a decimal

The float of a decimal is the binary64 number nearest to it, however many digits it has.
-/

namespace AuctionBudget.Number

open Float.Model Float.Model.UnpackedFloat

variable {x : Float} {q : ℚ} {digits places : ℕ}

theorem nearestEven_eq_zero (close : |q| < 1 / 2) : nearestEven q = 0 := by
  obtain ⟨low, high⟩ := abs_lt.1 close
  exact IsNearest.eq ⟨by push_cast; linarith, by push_cast; linarith, fun _ => Even.zero⟩

/-- What is less than half as large as the smallest float is rounded to zero. -/
theorem rounded_eq_zero (tiny : |q| < 2 ^ (-1075 : ℤ)) : rounded q = 0 := by
  by_cases zero : q = 0
  · rw [zero, rounded_zero]
  have least : gridExponent q = -1074 := by
    have log := (Int.lt_zpow_iff_log_lt (b := 2) (by decide) (abs_pos.2 zero)).1
      (by exact_mod_cast tiny)
    rw [gridExponent]
    omega
  have unit : (0 : ℚ) < 2 ^ (-1074 : ℤ) := by positivity
  have half : (2 : ℚ) ^ (-1075 : ℤ) = 1 / 2 * 2 ^ (-1074 : ℤ) := by
    rw [one_div, ← zpow_neg_one, ← zpow_add₀ two_ne_zero]
    rfl
  have close : |q / 2 ^ (-1074 : ℤ)| < 1 / 2 := by
    rwa [abs_div, abs_of_pos unit, div_lt_iff₀ unit, ← half]
  rw [rounded, least, nearestEven_eq_zero close, Int.cast_zero, zero_mul]

theorem rounds_tiny (sign : Sign) (tiny : |q| < 2 ^ (-1075 : ℤ)) : Rounds q (.zero sign) := by
  have zero := rounded_eq_zero tiny
  refine ⟨by rw [zero, meant?], fun _ => trivial, fun large => ?_⟩
  rw [zero, abs_zero] at large
  exact absurd large (pow_pos two_pos 1024).not_ge

/-- Behind so many places the digits do not matter. -/
theorem decimal_tiny (many : 2 ^ 11 + digits.log2 < places) :
    |(digits / 10 ^ places : ℚ)| < 2 ^ (-1075 : ℤ) := by
  have above : (digits : ℚ) < 2 ^ (digits.log2 + 1) := by exact_mod_cast Nat.lt_log2_self
  have below : (2 : ℚ) ^ places ≤ 10 ^ places := pow_le_pow_left₀ (by norm_num) (by norm_num) _
  rw [abs_of_nonneg (by positivity)]
  calc (digits / 10 ^ places : ℚ) < 2 ^ (digits.log2 + 1) / 2 ^ places :=
        div_lt_div₀ above below (by positivity) (by positivity)
    _ = 2 ^ ((digits.log2 + 1 : ℕ) - places : ℤ) := by
        rw [zpow_sub₀ two_ne_zero, zpow_natCast, zpow_natCast]
    _ ≤ 2 ^ (-1075 : ℤ) := zpow_le_zpow_right₀ (by norm_num) (by push_cast; omega)

/-- A whole number is shifted by 53 digits before it is rounded. -/
theorem rounds_shifted (positive : 0 < digits) :
    Rounds digits (roundWithAccuracy .binary64 .positive (digits * 2 ^ 53) (-53) .exact) := by
  have product : 0 < digits * 2 ^ 53 := by positivity
  have whole : ((digits * 2 ^ 53 : ℕ) : ℚ) * 2 ^ (-53 : ℤ) = digits := by
    rw [Nat.cast_mul, Nat.cast_pow, Nat.cast_ofNat, mul_assoc, ← zpow_natCast,
      ← zpow_add₀ two_ne_zero]
    simp
  have fine : (-53 : ℤ) ≤ gridExponent digits := by
    have wide : 53 ≤ (digits * 2 ^ 53).log2 :=
      (Nat.le_log2 product.ne').2 (Nat.le_mul_of_pos_left _ positive)
    rw [← whole, gridExponent_mul_two_zpow _ product]
    omega
  have rounds : Rounds (signed .positive digits)
      (roundWithAccuracy .binary64 .positive (digits * 2 ^ 53) (-53) .exact) :=
    rounds_exact product whole fine
  exact rounds

theorem rounds_ofScientific (digits places : ℕ) :
    Rounds (digits / 10 ^ places) (UnpackedFloat.ofScientific .binary64 digits (-places)) := by
  unfold UnpackedFloat.ofScientific
  have width : Format.binary64.exponentBits = 11 := rfl
  rw [width]
  split
  · next zero =>
      rw [zero, Nat.cast_zero, zero_div]
      exact rounds_zero .positive
  next nonzero =>
  have positive := Nat.pos_of_ne_zero nonzero
  split
  · next large => omega
  split
  · next many => exact rounds_tiny _ (decimal_tiny (by push_cast at many; omega))
  split
  · next none =>
      obtain rfl : places = 0 := by omega
      have factor : (10 : ℕ) ^ (-(0 : ℕ) : ℤ).toNat = 1 := rfl
      rw [pow_zero, div_one]
      simp only [UnpackedFloat.mul, factor, Nat.mul_one, Int.add_zero, Nat.shiftLeft_eq]
      exact rounds_shifted positive
  · next behind =>
      have divisor : 0 < 10 ^ (- -(places : ℤ)).toNat := by positivity
      have num : meant? (.finite .positive digits 0 positive) = .some (digits : ℚ) := by
        simp [meant?]
      have den : meant? (.finite .positive (10 ^ (- -(places : ℤ)).toNat) 0 divisor) =
          .some (10 ^ places) := by
        simp [meant?]
      exact rounds_div num den (by positivity)

theorem place?_ofDecimal (digits places : ℕ) :
    place? (ofDecimal digits places) = some (roundedPlace (digits / 10 ^ places)) :=
  place?_pack (rounds_ofScientific digits places)

theorem rounds_neg {u : UnpackedFloat} (rounds : Rounds q u) : Rounds (-q) u.neg := by
  refine ⟨by rw [rounded_neg]; exact meant?_neg rounds.meant, fun finite => ?_, fun large => ?_⟩
  · rw [rounded_neg, abs_neg] at finite
    exact fits_neg (rounds.fits finite)
  · rw [rounded_neg, abs_neg] at large
    have exceeds := rounds.exceeds large
    cases u with
    | infinity | notANumber | zero => exact exceeds
    | finite => exact exceeds

/-- The negative of what is too large is infinite as well. -/
theorem place?_neg_pack {u : UnpackedFloat} (rounds : Rounds q u) :
    place? (-.ofModel (.pack u)) = some (roundedPlace (-q)) := by
  rw [← place?_pack (rounds_neg rounds)]
  change placeOf? (Float.Model.pack (Float.Model.pack u).unpack.neg).unpack =
    placeOf? (Float.Model.pack u.neg).unpack
  rcases lt_or_ge |rounded q| (2 ^ 1024) with finite | large
  · rw [unpack_pack (rounds.fits finite)]
  · have exceeds := rounds.exceeds large
    cases u with
    | infinity | notANumber | zero => exact exceeds.elim
    | finite sign m e positive =>
        rw [unpack_pack_of_exceeds positive exceeds, UnpackedFloat.neg, UnpackedFloat.neg,
          unpack_pack_of_exceeds positive exceeds, unpack_pack (u := .infinity _) trivial]

theorem place?_neg_ofDecimal (digits places : ℕ) :
    place? (-ofDecimal digits places) = some (roundedPlace (-(digits / 10 ^ places))) :=
  place?_neg_pack (rounds_ofScientific digits places)

end AuctionBudget.Number
