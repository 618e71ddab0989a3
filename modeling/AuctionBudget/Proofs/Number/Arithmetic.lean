import AuctionBudget.Number.Binary64
import AuctionBudget.Proofs.Number.Residue

/-! # What binary64 arithmetic yields

Where the exact result is not too large, a sum, a difference, a product and a quotient of two floats
is the binary64 number nearest to it.
-/

namespace AuctionBudget.Number

open Float.Model Float.Model.UnpackedFloat

theorem signed_mul (sign : Sign) (x y : ℚ) : signed sign (x * y) = signed sign x * y := by
  cases sign with
  | negative => exact (neg_mul x y).symm
  | positive => rfl

theorem cast_apply (sign : Sign) (n : ℤ) : (sign.apply n : ℚ) = signed sign n := by
  cases sign with
  | negative => exact Int.cast_neg n
  | positive => rfl

theorem decreaseExponent_eq (m : Nat) (e t : ℤ) :
    decreaseExponent m e t = (m * 2 ^ (e - t).toNat, min e t) := by
  simp only [decreaseExponent, Nat.shiftLeft_eq, Prod.mk.injEq, true_and]
  omega

/-- Decreasing the exponent does not change what is meant. -/
theorem shifted_eq (m : ℚ) (e t : ℤ) : m * 2 ^ (e - t).toNat * 2 ^ min e t = m * 2 ^ e := by
  rw [mul_assoc, ← zpow_natCast, ← zpow_add₀ two_ne_zero]
  congr 2
  omega

theorem log_mul_two_zpow {m : Nat} (e : ℤ) (positive : 0 < m) :
    Int.log 2 (m * 2 ^ e : ℚ) = m.log2 + e := by
  refine log_eq ?_ ?_
  · rw [zpow_add₀ two_ne_zero]
    refine mul_le_mul_of_nonneg_right ?_ (by positivity)
    exact_mod_cast Nat.log2_self_le positive.ne'
  · rw [add_right_comm, zpow_add₀ two_ne_zero]
    refine mul_lt_mul_of_pos_right ?_ (by positivity)
    exact_mod_cast Nat.lt_log2_self

theorem gridExponent_mul_two_zpow {m : Nat} (e : ℤ) (positive : 0 < m) :
    gridExponent (m * 2 ^ e : ℚ) = max (m.log2 + e - 52) (-1074) := by
  have some : (0 : ℚ) < m * 2 ^ e := by positivity
  rw [gridExponent, abs_of_pos some, log_mul_two_zpow e positive]

theorem rounds_exact {sign : Sign} {m : Nat} {e : ℤ} {x : ℚ} (positive : 0 < m)
    (same : (m : ℚ) * 2 ^ e = x) (fine : e ≤ gridExponent x) :
    Rounds (signed sign x) (roundWithAccuracy .binary64 sign m e .exact) := by
  subst same
  refine rounds_roundWithAccuracy (by positivity) ?_ fine
  rw [mul_div_cancel_right₀ _ (by positivity)]
  exact standsFor_exact m

theorem rounds_round {sign : Sign} {m : Nat} {e : ℤ} (positive : 0 < m) :
    Rounds (signed sign (m * 2 ^ e)) (UnpackedFloat.round .binary64 sign m e) := by
  rw [UnpackedFloat.round, decreaseExponent_eq, targetExponent_eq,
    ← gridExponent_mul_two_zpow e positive]
  refine rounds_exact (by positivity) ?_ (min_le_right _ _)
  push_cast
  exact shifted_eq m e _

theorem rounds_normalize (n : ℤ) (e : ℤ) (zeroSign : Sign) :
    Rounds (n * 2 ^ e) (normalize .binary64 n e zeroSign) := by
  unfold UnpackedFloat.normalize
  rcases lt_trichotomy n 0 with negative | rfl | positive
  · obtain ⟨m, rfl⟩ : ∃ m : Nat, n = -m := ⟨n.natAbs, by omega⟩
    have value : ((-m : ℤ) : ℚ) * 2 ^ e = signed .negative (m * 2 ^ e) := by
      push_cast
      exact neg_mul _ _
    rw [compare_lt_iff_lt.2 negative, value]
    simp only [neg_neg, Int.toNat_natCast]
    exact rounds_round (by omega)
  · rw [compare_eq_iff_eq.2 rfl, Int.cast_zero, zero_mul]
    exact rounds_zero zeroSign
  · obtain ⟨m, rfl⟩ := Int.eq_ofNat_of_zero_le positive.le
    have value : ((m : ℤ) : ℚ) * 2 ^ e = signed .positive (m * 2 ^ e) := by
      rw [Int.cast_natCast]
      rfl
    rw [compare_gt_iff_gt.2 positive, value]
    exact rounds_round (Int.natCast_pos.1 positive)

/-- A binary64 number is the one nearest to itself. -/
theorem rounds_self {u : UnpackedFloat} {q : ℚ} (fits : Fits u) (meant : meant? u = some q) :
    Rounds q u := by
  cases u with
  | infinity | notANumber => simp [meant?] at meant
  | zero sign =>
      obtain rfl : 0 = q := by simpa [meant?] using meant
      exact rounds_zero sign
  | finite sign m e positive =>
      obtain rfl : signed sign (m * 2 ^ e) = q := by simpa [meant?] using meant
      have stays : rounded ((m : ℤ) * 2 ^ e : ℚ) = (m : ℤ) * 2 ^ e :=
        rounded_of_lt (by simpa using fits.digits) fits.smallest
      rw [Int.cast_natCast] at stays
      refine ⟨by rw [rounded_signed, stays, meant?], fun _ => fits, fun large => ?_⟩
      have below := mul_two_zpow_lt fits.digits fits.largest
      rw [rounded_signed, abs_signed, stays, abs_of_pos (by positivity)] at large
      exact absurd below large.not_gt

section Operations

variable {u v : UnpackedFloat} {p q : ℚ}

theorem neg_apply (sign : Sign) (n : ℤ) : (-sign).apply n = -sign.apply n := by
  cases sign with
  | negative => exact (neg_neg n).symm
  | positive => rfl

theorem meant?_neg (meant : meant? u = some p) : meant? u.neg = some (-p) := by
  cases u with
  | infinity | notANumber => simp [meant?] at meant
  | zero sign =>
      obtain rfl : 0 = p := by simpa [meant?] using meant
      rw [neg_zero]
      rfl
  | finite sign m e positive =>
      obtain rfl : signed sign (m * 2 ^ e) = p := by simpa [meant?] using meant
      cases sign with
      | negative => exact congrArg some (neg_neg _).symm
      | positive => rfl

theorem fits_neg (fits : Fits u) : Fits u.neg := by
  cases u with
  | infinity | notANumber | zero => trivial
  | finite => exact fits

theorem meant?_abs (meant : meant? u = some p) : meant? u.abs = some |p| := by
  cases u with
  | infinity | notANumber => simp [meant?] at meant
  | zero sign =>
      obtain rfl : 0 = p := by simpa [meant?] using meant
      rw [abs_zero]
      rfl
  | finite sign m e positive =>
      obtain rfl : signed sign (m * 2 ^ e) = p := by simpa [meant?] using meant
      rw [abs_signed, abs_of_pos (by positivity)]
      rfl

theorem fits_abs (fits : Fits u) : Fits u.abs := by
  cases u with
  | infinity | notANumber | zero => trivial
  | finite => exact fits

/-- Two mantissas over the smaller of their exponents. -/
theorem signed_add (s t : Sign) (m n : Nat) (e f : ℤ) :
    ((s.apply (m * 2 ^ (e - min e f).toNat : ℕ) + t.apply (n * 2 ^ (f - min e f).toNat : ℕ) : ℤ)
      : ℚ) * 2 ^ min e f = signed s (m * 2 ^ e) + signed t (n * 2 ^ f) := by
  have left := shifted_eq m e (min e f)
  have right := shifted_eq n f (min e f)
  rw [min_eq_right (min_le_left e f)] at left
  rw [min_eq_right (min_le_right e f)] at right
  rw [Int.cast_add, add_mul, cast_apply, cast_apply, ← signed_mul, ← signed_mul]
  push_cast
  rw [left, right]

theorem rounds_add (left : Fits u) (right : Fits v) (meantLeft : meant? u = some p)
    (meantRight : meant? v = some q) : Rounds (p + q) (UnpackedFloat.add .binary64 u v) := by
  cases u with
  | infinity | notANumber => simp [meant?] at meantLeft
  | zero sign =>
      obtain rfl : 0 = p := by simpa [meant?] using meantLeft
      rw [zero_add]
      cases v with
      | infinity | notANumber => simp [meant?] at meantRight
      | zero other =>
          obtain rfl : 0 = q := by simpa [meant?] using meantRight
          simp only [UnpackedFloat.add]
          split
          · exact rounds_self left meantLeft
          · exact rounds_self trivial rfl
      | finite => exact rounds_self right meantRight
  | finite sign m e positive =>
      cases v with
      | infinity | notANumber => simp [meant?] at meantRight
      | zero other =>
          obtain rfl : 0 = q := by simpa [meant?] using meantRight
          rw [add_zero]
          exact rounds_self left meantLeft
      | finite other n f positive' =>
          obtain rfl : signed sign (m * 2 ^ e) = p := by simpa [meant?] using meantLeft
          obtain rfl : signed other (n * 2 ^ f) = q := by simpa [meant?] using meantRight
          simp only [UnpackedFloat.add, decreaseExponent_eq]
          rw [← signed_add]
          exact rounds_normalize _ _ _

/-- A difference is a sum with the negative. -/
theorem sub_eq_add (u v : UnpackedFloat) :
    UnpackedFloat.sub .binary64 u v = UnpackedFloat.add .binary64 u v.neg := by
  cases u <;> cases v <;> try rfl
  simp only [UnpackedFloat.sub, UnpackedFloat.neg, UnpackedFloat.add, neg_apply, Int.sub_eq_add_neg]

theorem rounds_sub (left : Fits u) (right : Fits v) (meantLeft : meant? u = some p)
    (meantRight : meant? v = some q) : Rounds (p - q) (UnpackedFloat.sub .binary64 u v) := by
  rw [sub_eq_add, sub_eq_add_neg]
  exact rounds_add left (fits_neg right) meantLeft (meant?_neg meantRight)

theorem signed_mul_signed (s t : Sign) (x y : ℚ) :
    signed (s * t) (x * y) = signed s x * signed t y := by
  cases s with
  | negative =>
      cases t with
      | negative => exact (neg_mul_neg x y).symm
      | positive => exact (neg_mul x y).symm
  | positive =>
      cases t with
      | negative => exact (mul_neg x y).symm
      | positive => rfl

theorem signed_div_signed (s t : Sign) (x y : ℚ) :
    signed (s / t) (x / y) = signed s x / signed t y := by
  cases s with
  | negative =>
      cases t with
      | negative => exact (neg_div_neg_eq x y).symm
      | positive => exact (neg_div y x).symm
  | positive =>
      cases t with
      | negative => exact (div_neg x).symm
      | positive => rfl

theorem rounds_mul (left : Fits u) (right : Fits v) (meantLeft : meant? u = some p)
    (meantRight : meant? v = some q) : Rounds (p * q) (UnpackedFloat.mul .binary64 u v) := by
  cases u with
  | infinity | notANumber => simp [meant?] at meantLeft
  | zero sign =>
      obtain rfl : 0 = p := by simpa [meant?] using meantLeft
      rw [zero_mul]
      cases v with
      | infinity | notANumber => simp [meant?] at meantRight
      | zero | finite => exact rounds_self trivial rfl
  | finite sign m e positive =>
      cases v with
      | infinity | notANumber => simp [meant?] at meantRight
      | zero other =>
          obtain rfl : 0 = q := by simpa [meant?] using meantRight
          rw [mul_zero]
          exact rounds_self trivial rfl
      | finite other n f positive' =>
          obtain rfl : signed sign (m * 2 ^ e) = p := by simpa [meant?] using meantLeft
          obtain rfl : signed other (n * 2 ^ f) = q := by simpa [meant?] using meantRight
          have product : 0 < m * n := Nat.mul_pos positive positive'
          have same : ((m * n : ℕ) : ℚ) * 2 ^ (e + f) = m * 2 ^ e * (n * 2 ^ f) := by
            rw [zpow_add₀ two_ne_zero]
            push_cast
            ring
          rw [← signed_mul_signed, ← same]
          refine rounds_exact product rfl ?_
          rw [gridExponent_mul_two_zpow _ product]
          -- A factor that is not as small as it can be has 53 digits, and so has the product.
          have wide : e + f ≤ -1074 ∨ 52 ≤ (m * n).log2 := by
            rw [Nat.le_log2 product.ne']
            rcases left.full with least | full
            · rcases right.full with least' | full'
              · exact .inl (by omega)
              · exact .inr (full'.trans (Nat.le_mul_of_pos_left n positive))
            · exact .inr (full.trans (Nat.le_mul_of_pos_right m positive'))
          omega

theorem le_gridExponent_div {m n : Nat} (e f : ℤ) (some : 0 < m) (others : 0 < n) :
    max (m.log2 + e - (n.log2 + f) - 53) (-1074) ≤ gridExponent (m * 2 ^ e / (n * 2 ^ f) : ℚ) := by
  have quotient : (0 : ℚ) < m * 2 ^ e / (n * 2 ^ f) := by positivity
  have log : m.log2 + e - (n.log2 + f + 1) ≤ Int.log 2 (m * 2 ^ e / (n * 2 ^ f) : ℚ) := by
    refine (Int.zpow_le_iff_le_log (by decide) quotient).1 ?_
    push_cast
    rw [zpow_sub₀ two_ne_zero]
    refine div_le_div₀ (by positivity) ?_ (by positivity) ?_
    · rw [zpow_add₀ two_ne_zero]
      refine mul_le_mul_of_nonneg_right ?_ (by positivity)
      exact_mod_cast Nat.log2_self_le some.ne'
    · rw [add_right_comm, zpow_add₀ two_ne_zero]
      refine mul_le_mul_of_nonneg_right ?_ (by positivity)
      exact_mod_cast (Nat.lt_log2_self (n := n)).le
  rw [gridExponent, abs_of_pos quotient]
  omega

theorem targetExponent_sub (m n : Nat) (e f : ℤ) :
    Format.binary64.targetExponent (totalExponent m e - totalExponent n f) =
      max (m.log2 + e - (n.log2 + f) - 53) (-1074) := by
  have width : Format.binary64.mantissaBits = 53 := rfl
  have least : Format.binary64.minExponent = -1074 := rfl
  rw [Format.targetExponent, totalExponent, totalExponent, width, least]
  congr 1
  omega

/-- The whole part of a shifted quotient, and the fraction that is left. -/
theorem shifted_div {m n : Nat} (others : 0 < n) (e f : ℤ) {t : ℤ} (fine : t ≤ e - f) :
    (m * 2 ^ e / (n * 2 ^ f) / 2 ^ t : ℚ) =
      (m * 2 ^ (e - f - t).toNat / n : ℕ) + (m * 2 ^ (e - f - t).toNat % n : ℕ) / n := by
  have divisor : (n : ℚ) ≠ 0 := by positivity
  have parts : ((m * 2 ^ (e - f - t).toNat : ℕ) : ℚ) =
      n * (m * 2 ^ (e - f - t).toNat / n : ℕ) + (m * 2 ^ (e - f - t).toNat % n : ℕ) := by
    exact_mod_cast (Nat.div_add_mod _ _).symm
  have shift : (2 : ℚ) ^ e / 2 ^ f / 2 ^ t = 2 ^ (e - f - t).toNat := by
    rw [← zpow_natCast, ← zpow_sub₀ two_ne_zero, ← zpow_sub₀ two_ne_zero]
    congr 1
    omega
  calc (m * 2 ^ e / (n * 2 ^ f) / 2 ^ t : ℚ) = m * (2 ^ e / 2 ^ f / 2 ^ t) / n := by
        field_simp
    _ = ((m * 2 ^ (e - f - t).toNat : ℕ) : ℚ) / n := by
        rw [shift]
        push_cast
        rfl
    _ = _ := by
        rw [parts, add_div, mul_div_cancel_left₀ _ divisor]

theorem rounds_div (meantLeft : meant? u = some p) (meantRight : meant? v = some q)
    (nonzero : q ≠ 0) : Rounds (p / q) (UnpackedFloat.div .binary64 u v) := by
  cases v with
  | infinity | notANumber => simp [meant?] at meantRight
  | zero => exact absurd (by simpa [meant?] using meantRight.symm) nonzero
  | finite other n f positive' =>
      cases u with
      | infinity | notANumber => simp [meant?] at meantLeft
      | zero sign =>
          obtain rfl : 0 = p := by simpa [meant?] using meantLeft
          rw [zero_div]
          exact rounds_self trivial rfl
      | finite sign m e positive =>
          obtain rfl : signed sign (m * 2 ^ e) = p := by simpa [meant?] using meantLeft
          obtain rfl : signed other (n * 2 ^ f) = q := by simpa [meant?] using meantRight
          rw [← signed_div_signed]
          have target := targetExponent_sub m n e f
          have fine := le_gridExponent_div e f positive positive'
          rw [← target] at fine
          simp only [UnpackedFloat.div, divCore, Nat.shiftLeft_eq]
          refine rounds_roundWithAccuracy (by positivity) ?_ ((min_le_right _ _).trans fine)
          rw [shifted_div positive' e f (min_le_left _ _)]
          exact standsFor_fraction _ (Nat.mod_lt _ positive')

end Operations

end AuctionBudget.Number
