import AuctionBudget.Proofs.Number.Value

/-! # From floats to whole numbers

The floor of a float is the floor of its value. Rounding to a whole number within bounds takes the
nearest one, and a half goes away from zero.
-/

namespace AuctionBudget.Number

open Float.Model Float.Model.UnpackedFloat

variable {x : Float} {q : ℚ}

theorem floor_signed {sign : Sign} {m : Nat} {e : ℤ} (negative : e < 0) :
    ⌊signed sign (m * 2 ^ e)⌋ = (sign.apply m).fdiv (Nat.pow 2 (-e).toNat) := by
  have power : (2 : ℚ) ^ e = 1 / (Nat.pow 2 (-e).toNat : ℕ) := by
    have inverse : (2 : ℚ) ^ (-e).toNat = (2 ^ e)⁻¹ := by
      rw [← zpow_natCast, ← zpow_neg]
      congr 1
      omega
    rw [Nat.pow_eq, Nat.cast_pow, Nat.cast_ofNat, inverse, one_div, inv_inv]
  rw [signed_mul, ← Int.cast_natCast m, ← cast_apply, power, mul_one_div,
    Int.fdiv_eq_ediv_of_nonneg _ (by positivity)]
  exact Rat.floor_intCast_div_natCast _ _

theorem signed_eq_intCast {sign : Sign} {m : Nat} {e : ℤ} (whole : 0 ≤ e) :
    signed sign (m * 2 ^ e) = (sign.apply (m * 2 ^ e.toNat : ℕ) : ℤ) := by
  rw [cast_apply]
  push_cast
  rw [← zpow_natCast, Int.toNat_of_nonneg whole]

/-- The floor is exact. -/
theorem value?_floor (value : value? x = some q) : value? (floor x) = some (⌊q⌋ : ℚ) := by
  have fits := fits_unpack x.toModel
  rcases unpack_of_value? value with ⟨sign, taken, rfl⟩ | ⟨sign, m, e, positive, taken, rfl⟩
  · have stays : floor x = x := by simp only [floor, taken]
    rw [stays, value, Int.floor_zero, Int.cast_zero]
  · rw [taken] at fits
    by_cases whole : 0 ≤ e
    · have stays : floor x = x := by simp only [floor, taken, if_pos whole]
      rw [stays, value, signed_eq_intCast whole, Int.floor_intCast]
    · have counted : floor x = ofInt ⌊signed sign (m * 2 ^ e)⌋ := by
        simp only [floor, taken, if_neg whole, floor_signed (Int.not_le.1 whole)]
      rw [counted]
      refine value?_ofInt ?_
      have below : |signed sign (m * 2 ^ e)| < 2 ^ 53 := by
        have power : (2 : ℚ) ^ e ≤ 1 := zpow_le_one_of_nonpos₀ (by norm_num) (by omega)
        have digits : (m : ℚ) < 2 ^ 53 := by exact_mod_cast fits.digits
        rw [abs_signed, abs_of_nonneg (by positivity)]
        calc (m * 2 ^ e : ℚ) ≤ m * 1 := mul_le_mul_of_nonneg_left power (by positivity)
          _ < 2 ^ 53 := by rwa [mul_one]
      obtain ⟨low, high⟩ := abs_lt.1 below
      rw [abs_le]
      constructor
      · exact Int.le_floor.2 (by push_cast; exact low.le)
      · exact Int.floor_le_iff.2 (by push_cast; linarith)

/-- The whole number nearest to `q`, where a half goes away from zero. -/
def awayFromZero (q : ℚ) : ℤ :=
  if 0 ≤ q then round q else -round (-q)

theorem roundDiv_up (num : Nat) {den : Nat} (positive : 0 < den) :
    (roundDiv .up num den : ℤ) = round (num / den : ℚ) := by
  have divisor : (0 : ℚ) < den := by exact_mod_cast positive
  have parts : (num : ℚ) / den = (num / den : ℕ) + (num % den : ℕ) / den := by
    have whole : (num : ℚ) = den * (num / den : ℕ) + (num % den : ℕ) := by
      exact_mod_cast (Nat.div_add_mod num den).symm
    conv_lhs => rw [whole, add_div, mul_div_cancel_left₀ _ divisor.ne']
  have below : ((num % den : ℕ) : ℚ) / den < 1 := by
    rw [div_lt_one divisor]
    exact_mod_cast Nat.mod_lt num positive
  have above : (0 : ℚ) ≤ ((num % den : ℕ) : ℚ) / den := by positivity
  symm
  rw [parts, round_eq_iff, Set.mem_Ico]
  unfold roundDiv
  dsimp only
  split
  · next low =>
      have half : ((num % den : ℕ) : ℚ) / den < 1 / 2 := by
        rw [div_lt_iff₀ divisor]
        have : (2 * (num % den : ℕ) : ℚ) < den := by exact_mod_cast low
        linarith
      rw [Int.cast_natCast]
      constructor
      · linarith
      · linarith
  · next high =>
      have half : 1 / 2 ≤ ((num % den : ℕ) : ℚ) / den := by
        rw [le_div_iff₀ divisor]
        have : (den : ℚ) ≤ 2 * (num % den : ℕ) := by exact_mod_cast Nat.not_lt.1 high
        linarith
      have up : (if den < 2 * (num % den) then num / den + 1 else num / den + 1) =
          num / den + 1 := ite_self _
      rw [up, Int.cast_natCast, Nat.cast_add, Nat.cast_one]
      constructor
      · linarith
      · linarith

/-- Within bounds around zero, a float becomes the whole number nearest to its value. -/
theorem toIntWithin_eq {low high : ℤ} (value : value? x = some q) (atLeast : low ≤ 0)
    (atMost : 0 ≤ high) : toIntWithin low high x = max low (min high (awayFromZero q)) := by
  rcases unpack_of_value? value with ⟨sign, taken, rfl⟩ | ⟨sign, m, e, positive, taken, rfl⟩
  · have nothing : toIntWithin low high x = 0 := by simp only [toIntWithin, taken]
    rw [nothing, awayFromZero, if_pos le_rfl, round_zero]
    omega
  · have counted : toIntWithin low high x = max low (min high (sign.apply
        (roundDiv .up (m * Nat.pow 2 e.toNat) (Nat.pow 2 (-e).toNat)))) := by
      simp only [toIntWithin, taken, asQuotient]
    have quotient : ((m * Nat.pow 2 e.toNat : ℕ) : ℚ) / (Nat.pow 2 (-e).toNat : ℕ) =
        m * 2 ^ e := by
      have power : (2 : ℚ) ^ e = 2 ^ e.toNat / 2 ^ (-e).toNat := by
        rw [← zpow_natCast, ← zpow_natCast, ← zpow_sub₀ two_ne_zero]
        congr 1
        omega
      rw [power, Nat.pow_eq, Nat.pow_eq]
      push_cast
      rw [mul_div_assoc]
    have divisor : 0 < Nat.pow 2 (-e).toNat := Nat.two_pow_pos _
    rw [counted, roundDiv_up _ divisor, quotient, awayFromZero]
    have more : (0 : ℚ) < m * 2 ^ e := by positivity
    cases sign with
    | negative =>
        rw [signed_negative, if_neg (by linarith), neg_neg]
        rfl
    | positive =>
        rw [signed_positive, if_pos more.le]
        rfl

/-- Whatever is closer than a half to a whole number becomes it. -/
theorem awayFromZero_eq {n : ℤ} (near : |q - n| < 1 / 2) : awayFromZero q = n := by
  obtain ⟨low, high⟩ := abs_lt.1 near
  unfold awayFromZero
  split
  · rw [round_eq_iff, Set.mem_Ico]
    constructor
    · linarith
    · linarith
  · have opposite : round (-q) = -n := by
      rw [round_eq_iff, Set.mem_Ico]
      push_cast
      constructor
      · linarith
      · linarith
    rw [opposite, neg_neg]

end AuctionBudget.Number
