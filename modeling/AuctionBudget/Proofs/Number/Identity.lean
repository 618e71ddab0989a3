import AuctionBudget.Proofs.Number.Value

/-! # What tells floats apart

A float is stored as its sign, its exponent and its mantissa, and these are found again when it is
taken apart. So two floats of the same value are identical, but for the two zeros, which differ in
their signs.
-/

namespace AuctionBudget.Number

open Float.Model Float.Model.UnpackedFloat

variable {x y : Float} {u v : UnpackedFloat} {q : ℚ}

theorem toBitVec_ofBitVec (bit : BitVec 1) : (Sign.ofBitVec bit).toBitVec = bit := by
  revert bit
  decide

/-- Nothing is stored but the sign, the exponent and the mantissa. -/
theorem packComponents_unpack (b : BitVec 64) :
    packComponents .binary64 (Sign.ofBitVec (@unpackSign .binary64 b))
      (@unpackExponent .binary64 b) (@unpackMantissa .binary64 b) = b := by
  have parts : BitVec.extractLsb 63 63 b ++ BitVec.extractLsb 62 52 b ++
      BitVec.extractLsb 51 0 b = b := by
    ext i inside
    grind
  rw [packComponents, toBitVec_ofBitVec]
  exact parts

theorem packComponents_eq {b : BitVec 64} {exponent : BitVec 11} {mantissa : BitVec 52}
    (first : @unpackExponent .binary64 b = exponent)
    (second : @unpackMantissa .binary64 b = mantissa) :
    packComponents .binary64 (Sign.ofBitVec (@unpackSign .binary64 b)) exponent mantissa = b := by
  rw [← first, ← second]
  exact packComponents_unpack b

/-- What is unpacked is packed again to the same. -/
theorem pack_unpack {b : BitVec 64} (valid : Format.Valid .binary64 b) :
    UnpackedFloat.pack .binary64 (UnpackedFloat.unpack .binary64 b) = b := by
  have bias : Format.binary64.exponentBias = 1023 := rfl
  have width : Format.binary64.mantissaBits = 53 := rfl
  have bound : (@unpackExponent .binary64 b).toNat < 2 ^ 11 := BitVec.isLt _
  have digits : (@unpackMantissa .binary64 b).toNat < 2 ^ 52 := BitVec.isLt _
  unfold UnpackedFloat.unpack
  dsimp only
  split
  · next ones =>
      split
      · next none => exact packComponents_eq ones none
      · next some => exact (valid.eq_packedNaN ones some).symm
  next high =>
  split
  · next zero =>
      split
      · next none => exact packComponents_eq zero none
      · next some =>
          have positive : (@unpackMantissa .binary64 b).toNat ≠ 0 := fun none =>
            some (BitVec.eq_of_toNat_eq none)
          have log : (@unpackMantissa .binary64 b).toNat.log2 + 1 ≠ 53 := by
            have := (Nat.log2_lt positive).2 digits
            omega
          simp only [UnpackedFloat.pack, width]
          rw [zero, if_neg (by simp [bias]), if_neg log, BitVec.ofNat_toNat, BitVec.setWidth_eq]
          exact packComponents_eq zero rfl
  · next low =>
      have full := toNat_one_append (@unpackMantissa .binary64 b)
      have below : (@unpackExponent .binary64 b).toNat ≠ 2047 :=
        fun same => high (BitVec.eq_of_toNat_eq same)
      have log : (1#1 ++ @unpackMantissa .binary64 b).toNat.log2 = 52 := by
        rw [full, Nat.log2_eq_iff (by omega)]
        omega
      have exponent : ((@unpackExponent .binary64 b).toNat -
          (((1023 : ℕ) : ℤ) + (52 : ℕ)) + (1023 : ℕ) + (52 : ℕ)).toNat =
            (@unpackExponent .binary64 b).toNat := by omega
      have mantissa : BitVec.ofNat 52 (1#1 ++ @unpackMantissa .binary64 b).toNat =
          @unpackMantissa .binary64 b := by
        rw [full]
        apply BitVec.eq_of_toNat_eq
        rw [BitVec.toNat_ofNat]
        omega
      simp only [UnpackedFloat.pack, width, log, bias]
      rw [exponent, if_neg (by omega), if_pos trivial, mantissa, BitVec.ofNat_toNat,
        BitVec.setWidth_eq]
      exact packComponents_eq rfl rfl

theorem eq_of_unpack_eq (same : x.toModel.unpack = y.toModel.unpack) : x = y := by
  have bits : x.toModel.toBits.toBitVec = y.toModel.toBits.toBitVec := by
    rw [← pack_unpack x.toModel.valid, ← pack_unpack y.toModel.valid]
    exact congrArg (UnpackedFloat.pack .binary64) same
  obtain ⟨⟨⟨left⟩, _⟩⟩ := x
  obtain ⟨⟨⟨right⟩, _⟩⟩ := y
  cases bits
  rfl

theorem signed_eq_iff {sign other : Sign} {p r : ℚ} (left : 0 < p) (right : 0 < r) :
    signed sign p = signed other r ↔ sign = other ∧ p = r := by
  cases sign with
  | negative =>
      cases other with
      | negative => simp
      | positive =>
          have apart : -p ≠ r := by linarith
          simp [apart]
  | positive =>
      cases other with
      | negative =>
          have apart : p ≠ -r := by linarith
          simp [apart]
      | positive => simp

/-- A number other than zero has one form only. -/
theorem eq_of_meant (left : Fits u) (right : Fits v) (meantLeft : meant? u = some q)
    (meantRight : meant? v = some q) (nonzero : q ≠ 0) : u = v := by
  cases u with
  | infinity | notANumber => simp [meant?] at meantLeft
  | zero => exact absurd (by simpa [meant?] using meantLeft.symm) nonzero
  | finite sign m e positive =>
      cases v with
      | infinity | notANumber => simp [meant?] at meantRight
      | zero => exact absurd (by simpa [meant?] using meantRight.symm) nonzero
      | finite other n f positive' =>
          rw [meant?, ← meantRight, meant?, Option.some.injEq,
            signed_eq_iff (by positivity) (by positivity)] at meantLeft
          obtain ⟨rfl, magnitude⟩ := meantLeft
          have order := compare_magnitude left right
          rw [compare_eq_iff_eq.2 magnitude, Ordering.then_eq_eq, compare_eq_iff_eq,
            compare_eq_iff_eq] at order
          obtain ⟨rfl, rfl⟩ := order
          rfl

/-- The number has a minus. -/
def hasMinus : UnpackedFloat → Bool
  | .finite .negative _ _ _ => true
  | .zero .negative => true
  | .infinity .negative => true
  | _ => false

theorem unpack_of_value?_zero (zero : value? x = some 0) : ∃ sign, x.toModel.unpack = .zero sign := by
  rcases unpack_of_value? zero with ⟨sign, taken, -⟩ | ⟨sign, m, e, positive, -, value⟩
  · exact ⟨sign, taken⟩
  · have magnitude := abs_signed sign (m * 2 ^ e)
    rw [value, abs_zero, eq_comm, abs_eq_zero] at magnitude
    exact absurd magnitude (by positivity)

/-- Floats of the same value are identical, unless they are zeros of different signs. -/
theorem eq_of_value? (left : value? x = some q) (right : value? y = some q)
    (signs : q = 0 → hasMinus x.toModel.unpack = hasMinus y.toModel.unpack) : x = y := by
  apply eq_of_unpack_eq
  by_cases zero : q = 0
  · subst zero
    obtain ⟨sign, taken⟩ := unpack_of_value?_zero left
    obtain ⟨other, taken'⟩ := unpack_of_value?_zero right
    have same := signs rfl
    rw [taken, taken'] at same ⊢
    cases sign with
    | negative =>
        cases other with
        | negative => rfl
        | positive => cases same
    | positive =>
        cases other with
        | negative => cases same
        | positive => rfl
  · exact eq_of_meant (fits_unpack _) (fits_unpack _) left right zero

end AuctionBudget.Number
