import AuctionBudget.Proofs.Number.Unpacked

/-! # Rounding by residual bits

A mantissa that is shifted right keeps two bits of what it loses: the first digit behind it, and
whether anything else is left. They tell on which side of the middle the number lies, so that the
rounded mantissa is the nearest whole number.
-/

namespace AuctionBudget.Number

open Float.Model Float.Model.UnpackedFloat

/-- The number whose digits a mantissa and its residual bits hold: twice the number is known, up to
    less than one if there is a sticky bit. -/
def StandsFor (em : ExtendedMantissa) (x : ℚ) : Prop :=
  let halves : ℚ := 2 * em.mantissa + em.roundBit.toNat
  if em.stickyBit then halves < 2 * x ∧ 2 * x < halves + 1 else 2 * x = halves

theorem standsFor_exact (m : Nat) : StandsFor (.ofMantissaAndAccuracy m .exact) m := by
  simp [StandsFor, ExtendedMantissa.ofMantissaAndAccuracy]

theorem standsFor_fraction (m : Nat) {num den : Nat} (proper : num < den) :
    StandsFor (.ofMantissaAndAccuracy m (accuracyOfFraction num den)) (m + num / den) := by
  have positive : (0 : ℚ) < den := by exact_mod_cast Nat.zero_lt_of_lt proper
  have below : (num : ℚ) / den < 1 := (div_lt_one positive).2 (by exact_mod_cast proper)
  unfold accuracyOfFraction
  by_cases zero : num = 0
  · rw [if_pos zero]
    simpa [zero] using standsFor_exact m
  · rw [if_neg zero]
    have above : (0 : ℚ) < num / den := div_pos (by exact_mod_cast Nat.pos_of_ne_zero zero) positive
    rcases lt_trichotomy (2 * num) den with less | same | more
    · have half : 2 * ((num : ℚ) / den) < 1 := by
        rw [← mul_div_assoc, div_lt_one positive]
        exact_mod_cast less
      rw [Nat.compare_eq_lt.2 less]
      simp only [StandsFor, ExtendedMantissa.ofMantissaAndAccuracy, if_true, Bool.toNat_false]
      push_cast
      constructor
      · linarith
      · linarith
    · have half : 2 * ((num : ℚ) / den) = 1 := by
        rw [← mul_div_assoc, div_eq_one_iff_eq positive.ne']
        exact_mod_cast same
      rw [Nat.compare_eq_eq.2 same]
      simp only [StandsFor, ExtendedMantissa.ofMantissaAndAccuracy, Bool.false_eq_true, if_false,
        Bool.toNat_true]
      push_cast
      linarith
    · have half : 1 < 2 * ((num : ℚ) / den) := by
        rw [← mul_div_assoc, one_lt_div positive]
        exact_mod_cast more
      rw [Nat.compare_eq_gt.2 more]
      simp only [StandsFor, ExtendedMantissa.ofMantissaAndAccuracy, if_true, Bool.toNat_true]
      push_cast
      constructor
      · linarith
      · linarith

namespace StandsFor

variable {em : ExtendedMantissa} {x : ℚ} (stands : StandsFor em x)

include stands

theorem bounds : (em.mantissa : ℚ) ≤ x ∧ x < em.mantissa + 1 := by
  obtain ⟨m, roundBit, stickyBit⟩ := em
  cases roundBit <;> cases stickyBit <;> simp [StandsFor] at stands ⊢ <;> constructor <;> linarith

/-- A shift by one digit halves the number. -/
theorem shiftRightOne : StandsFor em.shiftRightOne (x / 2) := by
  obtain ⟨m, roundBit, stickyBit⟩ := em
  have digit : ((m : ℚ)) = 2 * (m / 2 : ℕ) + (m % 2 != 0).toNat := by
    have parts : m = 2 * (m / 2) + (m % 2 != 0).toNat := by
      rcases Nat.mod_two_eq_zero_or_one m with even | odd
      · simp [even]
        omega
      · simp [odd]
        omega
    exact_mod_cast parts
  cases roundBit <;> cases stickyBit <;>
    simp only [StandsFor, ExtendedMantissa.shiftRightOne, Bool.or_self, Bool.or_true, Bool.or_false,
      Bool.false_eq_true, if_true, if_false, ← digit, Bool.toNat_true,
      Bool.toNat_false, Nat.cast_zero, Nat.cast_one] at stands ⊢
  · linarith
  · constructor <;> linarith
  · constructor <;> linarith
  · constructor <;> linarith

theorem shiftRight (n : Nat) : StandsFor (em >>> n) (x / 2 ^ n) := by
  induction n with
  | zero =>
      rw [pow_zero, div_one]
      exact stands
  | succ n ih =>
      rw [pow_succ, ← div_div]
      exact ih.shiftRightOne

/-- The rounded mantissa is the nearest whole number. -/
theorem roundedMantissa : nearestEven x = em.roundedMantissa := by
  obtain ⟨m, roundBit, stickyBit⟩ := em
  refine IsNearest.eq ?_
  cases roundBit <;> cases stickyBit <;>
    simp only [StandsFor, Bool.false_eq_true, if_true, if_false, Bool.toNat_true, Bool.toNat_false,
      Nat.cast_zero, Nat.cast_one, add_zero] at stands
  -- Nothing is left.
  · change IsNearest x (m : ℕ)
    have same : x = m := by linarith
    rw [same]
    exact ⟨by push_cast; linarith, by push_cast; linarith, by simp⟩
  -- Less than a half is left.
  · change IsNearest x (m : ℕ)
    have above : 0 < x - m := by linarith
    refine ⟨by push_cast; linarith, by push_cast; linarith, fun far => ?_⟩
    rw [Int.cast_natCast, abs_of_pos above] at far
    linarith
  -- A half is left.
  · have half : x = m + 1 / 2 := by linarith
    rcases Nat.mod_two_eq_zero_or_one m with even | odd
    · have down : ExtendedMantissa.roundedMantissa ⟨m, true, false⟩ = m := by
        change m + m % 2 = m
        omega
      rw [down, half]
      refine ⟨by push_cast; linarith, by push_cast; linarith, fun _ => ?_⟩
      exact_mod_cast Nat.even_iff.2 even
    · have up : ExtendedMantissa.roundedMantissa ⟨m, true, false⟩ = m + 1 := by
        change m + m % 2 = m + 1
        omega
      rw [up, half]
      refine ⟨by push_cast; linarith, by push_cast; linarith, fun _ => ?_⟩
      exact_mod_cast Nat.even_iff.2 (by omega : (m + 1) % 2 = 0)
  -- More than a half is left.
  · have up : ExtendedMantissa.roundedMantissa ⟨m, true, true⟩ = m + 1 := rfl
    have below : x - (m + 1) < 0 := by linarith
    rw [up]
    refine ⟨by push_cast; linarith, by push_cast; linarith, fun far => ?_⟩
    rw [Int.cast_natCast, Nat.cast_succ, abs_of_neg below] at far
    linarith

end StandsFor

/-- `u` is the binary64 number nearest to `x`, or what would be with larger exponents. -/
structure Rounds (x : ℚ) (u : UnpackedFloat) : Prop where
  meant : meant? u = some (rounded x)
  fits : |rounded x| < 2 ^ 1024 → Fits u
  exceeds : 2 ^ 1024 ≤ |rounded x| → Exceeds u

theorem rounds_zero (sign : Sign) : Rounds 0 (.zero sign) := by
  refine ⟨by rw [rounded_zero, meant?], fun _ => trivial, fun large => ?_⟩
  rw [rounded_zero, abs_zero] at large
  exact absurd large (pow_pos two_pos 1024).not_ge

/-- A mantissa with an exponent that binary64 stores stays below the bound of what is finite. -/
theorem mul_two_zpow_lt {m : Nat} {e : ℤ} (digits : m < 2 ^ 53) (largest : e ≤ 971) :
    (m * 2 ^ e : ℚ) < 2 ^ 1024 := by
  have power : (2 : ℚ) ^ e ≤ 2 ^ 971 := by
    rw [← zpow_natCast]
    exact zpow_le_zpow_right₀ (by norm_num) (by omega)
  calc (m * 2 ^ e : ℚ) < 2 ^ 53 * 2 ^ e :=
        mul_lt_mul_of_pos_right (by exact_mod_cast digits) (by positivity)
    _ ≤ 2 ^ 53 * 2 ^ 971 := mul_le_mul_of_nonneg_left power (by norm_num)
    _ = 2 ^ 1024 := by rw [← pow_add]

theorem log_eq {x : ℚ} {k : ℤ} (lower : 2 ^ k ≤ x) (upper : x < 2 ^ (k + 1)) : Int.log 2 x = k := by
  have positive : 0 < x := lt_of_lt_of_le (by positivity) lower
  have low := (Int.zpow_le_iff_le_log (b := 2) (by decide) positive).1 (by exact_mod_cast lower)
  have high := (Int.lt_zpow_iff_log_lt (b := 2) (by decide) positive).1 (by exact_mod_cast upper)
  omega

theorem targetExponent_eq (m : Nat) (e : ℤ) :
    Format.binary64.targetExponent (totalExponent m e) = max (m.log2 + e - 52) (-1074) := by
  have width : Format.binary64.mantissaBits = 53 := rfl
  have least : Format.binary64.minExponent = -1074 := rfl
  rw [Format.targetExponent, totalExponent, width, least]
  congr 1
  omega

/-- The exponent that a mantissa is shifted to is that of the grid. -/
theorem targetExponent_eq_gridExponent {m : Nat} {e : ℤ} {x : ℚ} (positive : 0 < x)
    (lower : m ≤ x / 2 ^ e) (upper : x / 2 ^ e < m + 1) (fine : e ≤ gridExponent x) :
    Format.binary64.targetExponent (totalExponent m e) = gridExponent x := by
  have unit : (0 : ℚ) < 2 ^ e := by positivity
  rw [targetExponent_eq, gridExponent, abs_of_pos positive]
  rw [gridExponent, abs_of_pos positive] at fine
  rcases Nat.eq_zero_or_pos m with rfl | some
  · have below : x < 2 ^ e := by
      rw [div_lt_iff₀ unit] at upper
      simpa using upper
    have := (Int.lt_zpow_iff_log_lt (b := 2) (by decide) positive).1 (by exact_mod_cast below)
    simp only [Nat.log2_zero]
    omega
  · have log : Int.log 2 x = m.log2 + e := by
      refine log_eq ?_ ?_
      · rw [zpow_add₀ two_ne_zero, ← le_div_iff₀ unit]
        refine le_trans ?_ lower
        exact_mod_cast Nat.log2_self_le some.ne'
      · rw [add_right_comm, zpow_add₀ two_ne_zero, ← div_lt_iff₀ unit]
        refine upper.trans_le ?_
        exact_mod_cast Nat.lt_log2_self
    rw [log]

theorem shiftToTargetExponent_eq {m : Nat} {e t : ℤ} (accuracy : Accuracy)
    (target : Format.binary64.targetExponent (totalExponent m e) = t) (fine : e ≤ t) :
    shiftToTargetExponent .binary64 m e accuracy =
      (ExtendedMantissa.ofMantissaAndAccuracy m accuracy >>> (t - e).toNat, t) := by
  rw [shiftToTargetExponent, target, shiftToExponent]
  simp only [Prod.mk.injEq, true_and]
  omega

/-- A mantissa rounded up to `2 ^ 53` is shifted once more, all others stay. -/
theorem shiftToTargetExponent_exact {r : Nat} {g : ℤ} (most : r ≤ 2 ^ 53) (least : -1074 ≤ g)
    (full : g = -1074 ∨ 2 ^ 52 ≤ r) :
    ∃ m e, shiftToTargetExponent .binary64 r g .exact = (.ofMantissaAndAccuracy m .exact, e) ∧
      (m : ℚ) * 2 ^ e = r * 2 ^ g ∧ m < 2 ^ 53 ∧ -1074 ≤ e ∧ (e = -1074 ∨ 2 ^ 52 ≤ m) := by
  rcases most.lt_or_eq with less | rfl
  · have target : Format.binary64.targetExponent (totalExponent r g) ≤ g := by
      have log : r.log2 ≤ 52 := by
        rcases Nat.eq_zero_or_pos r with rfl | positive
        · simp
        · have := (Nat.log2_lt positive.ne').2 less
          omega
      rw [targetExponent_eq]
      omega
    refine ⟨r, g, ?_, rfl, less, least, full⟩
    have still : (Format.binary64.targetExponent (totalExponent r g) - g).toNat = 0 := by omega
    rw [shiftToTargetExponent, shiftToExponent, still]
    simp only [Prod.mk.injEq, Nat.cast_zero, add_zero, and_true]
    rfl
  · refine ⟨2 ^ 52, g + 1, ?_, ?_, by norm_num, by omega, .inr le_rfl⟩
    · have target : Format.binary64.targetExponent (totalExponent (2 ^ 53) g) = g + 1 := by
        rw [targetExponent_eq, Nat.log2_two_pow]
        push_cast
        omega
      rw [shiftToTargetExponent_eq .exact target (by omega)]
      have once : (g + 1 - g).toNat = 1 := by omega
      rw [once]
      rfl
    · rw [zpow_add_one₀ two_ne_zero]
      push_cast
      ring

theorem rounded_signed (sign : Sign) (x : ℚ) : rounded (signed sign x) = signed sign (rounded x) := by
  cases sign with
  | negative => exact rounded_neg x
  | positive => rfl

theorem abs_signed (sign : Sign) (x : ℚ) : |signed sign x| = |x| := by
  cases sign with
  | negative => exact abs_neg x
  | positive => rfl

/-- In the units of its grid a positive number has at most 53 digits before the point. -/
theorem scaled_bounds {x : ℚ} (positive : 0 < x) :
    x / 2 ^ gridExponent x < 2 ^ 53 ∧
      (gridExponent x = -1074 ∨ 2 ^ 52 ≤ x / 2 ^ gridExponent x) := by
  have unit : (0 : ℚ) < 2 ^ gridExponent x := by positivity
  have lower := Int.zpow_log_le_self (b := 2) (by decide) positive
  have upper := Int.lt_zpow_succ_log_self (b := 2) (by decide) x
  push_cast at lower upper
  have grid : gridExponent x = max (Int.log 2 x - 52) (-1074) := by
    rw [gridExponent, abs_of_pos positive]
  constructor
  · rw [div_lt_iff₀ unit, ← zpow_natCast, ← zpow_add₀ two_ne_zero]
    exact upper.trans_le (zpow_le_zpow_right₀ (by norm_num) (by push_cast; omega))
  · by_cases least : gridExponent x = -1074
    · exact .inl least
    · refine .inr ?_
      rw [le_div_iff₀ unit, ← zpow_natCast, ← zpow_add₀ two_ne_zero]
      exact le_trans (zpow_le_zpow_right₀ (by norm_num) (by push_cast; omega)) lower

/-- A mantissa whose exponent is not too large is rounded correctly. -/
theorem rounds_roundWithAccuracy {sign : Sign} {m : Nat} {e : ℤ} {accuracy : Accuracy} {x : ℚ}
    (positive : 0 < x) (stands : StandsFor (.ofMantissaAndAccuracy m accuracy) (x / 2 ^ e))
    (fine : e ≤ gridExponent x) :
    Rounds (signed sign x) (roundWithAccuracy .binary64 sign m e accuracy) := by
  have target : Format.binary64.targetExponent (totalExponent m e) = gridExponent x := by
    have mantissa : (ExtendedMantissa.ofMantissaAndAccuracy m accuracy).mantissa = m := by
      unfold ExtendedMantissa.ofMantissaAndAccuracy
      split <;> rfl
    obtain ⟨lower, upper⟩ := stands.bounds
    rw [mantissa] at lower upper
    exact targetExponent_eq_gridExponent positive lower upper fine
  have first := shiftToTargetExponent_eq accuracy target fine
  generalize shifted :
    ExtendedMantissa.ofMantissaAndAccuracy m accuracy >>> (gridExponent x - e).toNat = em at first
  have standsShifted : StandsFor em (x / 2 ^ gridExponent x) := by
    have := stands.shiftRight (gridExponent x - e).toNat
    rw [shifted, div_div, ← zpow_natCast, ← zpow_add₀ two_ne_zero] at this
    rwa [show e + ((gridExponent x - e).toNat : ℤ) = gridExponent x by omega] at this
  have value : rounded x = em.roundedMantissa * 2 ^ gridExponent x := by
    rw [rounded, standsShifted.roundedMantissa]
    push_cast
    rfl
  obtain ⟨low, high, -⟩ := isNearest_nearestEven (x / 2 ^ gridExponent x)
  rw [standsShifted.roundedMantissa, Int.cast_natCast] at low high
  obtain ⟨below, above⟩ := scaled_bounds positive
  have most : em.roundedMantissa ≤ 2 ^ 53 := by
    have : (em.roundedMantissa : ℚ) < 2 ^ 53 + 1 := by linarith
    exact Nat.lt_succ_iff.1 (by exact_mod_cast this)
  have full : gridExponent x = -1074 ∨ 2 ^ 52 ≤ em.roundedMantissa := by
    refine above.imp_right fun large => ?_
    have : (2 ^ 52 : ℚ) < em.roundedMantissa + 1 := by linarith
    exact Nat.lt_succ_iff.1 (by exact_mod_cast this)
  obtain ⟨m', e', second, same, digits, least, normal⟩ :=
    shiftToTargetExponent_exact most (le_gridExponent x) full
  have result : roundWithAccuracy .binary64 sign m e accuracy =
      if zero : m' = 0 then .zero sign else .finite sign m' e' (Nat.pos_of_ne_zero zero) := by
    simp only [roundWithAccuracy, first, second]
    rfl
  rw [← same] at value
  rw [result]
  by_cases zero : m' = 0
  · rw [dif_pos zero]
    have nothing : rounded (signed sign x) = rounded 0 := by
      rw [rounded_signed, value, zero, rounded_zero]
      cases sign <;> simp [signed]
    obtain ⟨meant, fits, exceeds⟩ := rounds_zero sign
    rw [← nothing] at meant fits exceeds
    exact ⟨meant, fits, exceeds⟩
  · rw [dif_neg zero]
    have size : |rounded (signed sign x)| = m' * 2 ^ e' := by
      rw [rounded_signed, abs_signed, value, abs_of_nonneg (by positivity)]
    refine ⟨by rw [rounded_signed, value, meant?], ?_, ?_⟩
    · refine fun finite => ⟨digits, least, ?_, normal⟩
      by_contra large
      have wide : 2 ^ 52 ≤ m' := normal.resolve_left (by omega)
      have power : (2 : ℚ) ^ 972 ≤ 2 ^ e' := by
        rw [← zpow_natCast]
        exact zpow_le_zpow_right₀ (by norm_num) (by omega)
      have product : (2 : ℚ) ^ 52 * 2 ^ 972 ≤ m' * 2 ^ e' :=
        mul_le_mul (by exact_mod_cast wide) power (by positivity) (by positivity)
      rw [size] at finite
      rw [← pow_add] at product
      exact absurd finite product.not_gt
    · intro large
      by_contra stored
      have below := mul_two_zpow_lt digits (Int.not_lt.1 stored)
      rw [size] at large
      exact absurd below large.not_gt

end AuctionBudget.Number
