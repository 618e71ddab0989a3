import AuctionBudget.Proofs.Number.Nearest
import Mathlib

/-! # Binary64 numbers taken apart

A number taken apart into sign, mantissa and exponent fits binary64 when the mantissa has 53 binary
digits, or fewer at the smallest exponent. What fits survives being packed, and what is unpacked
fits.
-/

namespace AuctionBudget.Number

open Float.Model Float.Model.UnpackedFloat

/-- A magnitude with a sign. -/
def signed (sign : Sign) (x : ℚ) : ℚ :=
  match sign with
  | .negative => -x
  | .positive => x

@[simp] theorem signed_negative (x : ℚ) : signed .negative x = -x :=
  rfl

@[simp] theorem signed_positive (x : ℚ) : signed .positive x = x :=
  rfl

/-- The rational number that is meant, unless it is infinite or no number. -/
def meant? : UnpackedFloat → Option ℚ
  | .finite sign mantissa exponent _ => some (signed sign (mantissa * 2 ^ exponent))
  | .zero _ => some 0
  | .infinity _ => none
  | .notANumber => none

/-- The mantissa and exponent of a binary64 number. -/
structure Fitting (mantissa : Nat) (exponent : Int) : Prop where
  digits : mantissa < 2 ^ 53
  smallest : -1074 ≤ exponent
  largest : exponent ≤ 971
  full : exponent = -1074 ∨ 2 ^ 52 ≤ mantissa

/-- The number is one of binary64, in the form that binary64 stores. -/
def Fits : UnpackedFloat → Prop
  | .finite _ mantissa exponent _ => Fitting mantissa exponent
  | .zero _ => True
  | .infinity _ => True
  | .notANumber => True

/-- The exponent is larger than any that binary64 stores. -/
def Exceeds : UnpackedFloat → Prop
  | .finite _ _ exponent _ => 971 < exponent
  | .zero _ => False
  | .infinity _ => False
  | .notANumber => False

theorem ofBitVec_toBitVec (sign : Sign) : Sign.ofBitVec sign.toBitVec = sign := by
  cases sign <;> rfl

theorem unpackSign_packComponents {spec : Format} {sign : Sign}
    {exponent : BitVec spec.exponentBits} {mantissa : BitVec spec.mantissaBitsWithoutImplicit} :
    unpackSign (packComponents spec sign exponent mantissa) = sign.toBitVec := by
  ext i inside
  obtain rfl : i = 0 := by omega
  simp [unpackSign, packComponents, BitVec.getElem_append, BitVec.getLsbD_append]

theorem toNat_one_append (mantissa : BitVec 52) :
    (1#1 ++ mantissa).toNat = 2 ^ 52 + mantissa.toNat := by
  rw [BitVec.toNat_append, ← Nat.shiftLeft_add_eq_or_of_lt mantissa.isLt]
  rfl

theorem unpack_normal {sign : Sign} {exponent : BitVec 11} {mantissa : BitVec 52}
    (low : exponent ≠ 0#11) (high : exponent ≠ -1#11) (positive : 0 < (1#1 ++ mantissa).toNat) :
    UnpackedFloat.unpack .binary64 (packComponents .binary64 sign exponent mantissa) =
      .finite sign (1#1 ++ mantissa).toNat (exponent.toNat - 1075) positive := by
  simp only [UnpackedFloat.unpack, unpackExponent_packComponents, unpackMantissa_packComponents,
    unpackSign_packComponents, ofBitVec_toBitVec]
  rw [if_neg high, if_neg low]
  rfl

theorem unpack_subnormal {sign : Sign} {mantissa : BitVec 52} (nonzero : mantissa ≠ 0#52)
    (positive : 0 < mantissa.toNat) :
    UnpackedFloat.unpack .binary64 (packComponents .binary64 sign 0#11 mantissa) =
      .finite sign mantissa.toNat (-1074) positive := by
  simp only [UnpackedFloat.unpack, unpackExponent_packComponents, unpackMantissa_packComponents,
    unpackSign_packComponents, ofBitVec_toBitVec]
  rw [if_neg (by decide), if_pos trivial, dif_neg nonzero]
  rfl

theorem unpack_pack_finite {sign : Sign} {mantissa : Nat} {exponent : Int}
    (positive : 0 < mantissa) (fitting : Fitting mantissa exponent) :
    UnpackedFloat.unpack .binary64 (UnpackedFloat.pack .binary64 (.finite sign mantissa exponent positive)) =
      .finite sign mantissa exponent positive := by
  obtain ⟨digits, smallest, largest, full⟩ := fitting
  have bias : Format.binary64.exponentBias = 1023 := rfl
  have width : Format.binary64.mantissaBits = 53 := rfl
  have biased : (exponent + Format.binary64.exponentBias + 52).toNat = (exponent + 1075).toNat := by
    rw [bias]
    omega
  have notLarge : ¬ 2 ^ 11 ≤ (exponent + 1075).toNat + 1 := by omega
  by_cases normal : 2 ^ 52 ≤ mantissa
  · have log : mantissa.log2 = 52 := by
      have := (Nat.le_log2 positive.ne').2 normal
      have := (Nat.log2_lt positive.ne').2 digits
      omega
    have stored : (BitVec.ofNat 11 (exponent + 1075).toNat).toNat = (exponent + 1075).toNat := by
      rw [BitVec.toNat_ofNat, Nat.mod_eq_of_lt (by omega)]
    have low : BitVec.ofNat 11 (exponent + 1075).toNat ≠ 0#11 := by
      intro zero
      rw [zero] at stored
      simp only [BitVec.toNat_ofNat, Nat.zero_mod] at stored
      omega
    have high : BitVec.ofNat 11 (exponent + 1075).toNat ≠ -1#11 := by
      intro ones
      rw [ones] at stored
      simp only [BitVec.reduceNeg, BitVec.toNat_ofNat, Nat.reducePow, Nat.reduceMod] at stored
      omega
    have whole : (1#1 ++ BitVec.ofNat 52 mantissa).toNat = mantissa := by
      rw [toNat_one_append, BitVec.toNat_ofNat]
      omega
    simp only [UnpackedFloat.pack, Nat.cast_ofNat, biased]
    rw [if_neg notLarge, if_pos (by rw [width, log]), unpack_normal low high (by rw [whole]; exact positive)]
    simp only [whole, stored]
    congr 1
    omega
  · have least : exponent = -1074 := full.resolve_right normal
    have log : mantissa.log2 + 1 ≠ 53 := by
      have := (Nat.log2_lt positive.ne').2 (Nat.not_le.1 normal)
      omega
    have stored : (BitVec.ofNat 52 mantissa).toNat = mantissa := by
      rw [BitVec.toNat_ofNat, Nat.mod_eq_of_lt (by omega)]
    have nonzero : BitVec.ofNat 52 mantissa ≠ 0#52 := by
      intro zero
      rw [zero] at stored
      simp only [BitVec.toNat_ofNat, Nat.zero_mod] at stored
      omega
    simp only [UnpackedFloat.pack, Nat.cast_ofNat, biased]
    rw [if_neg notLarge, if_neg (by rw [width]; exact log),
      unpack_subnormal nonzero (by rw [stored]; exact positive)]
    simp only [stored, least]

/-- What fits survives being packed. -/
theorem unpack_pack {u : UnpackedFloat} (fits : Fits u) : (Float.Model.pack u).unpack = u := by
  cases u with
  | infinity sign => cases sign <;> rfl
  | notANumber => rfl
  | zero sign => cases sign <;> rfl
  | finite sign mantissa exponent positive => exact unpack_pack_finite positive fits

/-- What is too large becomes infinite when it is packed. -/
theorem unpack_pack_of_exceeds {sign : Sign} {mantissa : Nat} {exponent : Int}
    (positive : 0 < mantissa) (large : 971 < exponent) :
    (Float.Model.pack (.finite sign mantissa exponent positive)).unpack = .infinity sign := by
  have bias : Format.binary64.exponentBias = 1023 := rfl
  have biased : 2 ^ 11 ≤ (exponent + Format.binary64.exponentBias + 52).toNat + 1 := by
    rw [bias]
    omega
  change UnpackedFloat.unpack .binary64 (UnpackedFloat.pack .binary64
    (.finite sign mantissa exponent positive)) = .infinity sign
  simp only [UnpackedFloat.pack, Nat.cast_ofNat]
  rw [if_pos biased]
  cases sign <;> rfl

/-- What is unpacked fits. -/
theorem fits_unpack (x : Float.Model) : Fits x.unpack := by
  have bias : Format.binary64.exponentBias = 1023 := rfl
  unfold Float.Model.unpack UnpackedFloat.unpack
  dsimp only
  have bound : (@unpackExponent .binary64 x.toBits.toBitVec).toNat < 2 ^ 11 := BitVec.isLt _
  have digits : (@unpackMantissa .binary64 x.toBits.toBitVec).toNat < 2 ^ 52 := BitVec.isLt _
  split
  · split <;> trivial
  · next high =>
      have below : (@unpackExponent .binary64 x.toBits.toBitVec).toNat ≠ 2047 :=
        fun same => high (BitVec.eq_of_toNat_eq same)
      split
      · next zero =>
          split
          · trivial
          · refine ⟨by omega, ?_, ?_, .inl ?_⟩ <;> simp [bias, zero]
      · next low =>
          have above : (@unpackExponent .binary64 x.toBits.toBitVec).toNat ≠ 0 :=
            fun same => low (BitVec.eq_of_toNat_eq same)
          have whole := toNat_one_append (@unpackMantissa .binary64 x.toBits.toBitVec)
          exact ⟨by omega, by omega, by omega, .inr (by omega)⟩

end AuctionBudget.Number
