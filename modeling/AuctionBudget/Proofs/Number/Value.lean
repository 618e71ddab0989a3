import AuctionBudget.Proofs.Number.Arithmetic

/-! # The values of floats

A float that is neither infinite nor no number has a rational value. Arithmetic rounds the exact
result, comparisons compare values, and the floor is exact.
-/

namespace AuctionBudget.Number

open Float.Model Float.Model.UnpackedFloat

/-- The value of a float, unless it is infinite or no number. -/
def value? (x : Float) : Option ℚ :=
  meant? x.toModel.unpack

variable {x y : Float} {p q : ℚ}

/-- What has a value is taken apart as a zero or as a finite number. -/
theorem unpack_of_value? (value : value? x = some q) :
    (∃ sign, x.toModel.unpack = .zero sign ∧ 0 = q) ∨
      ∃ sign m e positive, x.toModel.unpack = .finite sign m e positive ∧
        signed sign (m * 2 ^ e) = q := by
  rw [value?] at value
  cases taken : x.toModel.unpack with
  | infinity | notANumber => simp [taken, meant?] at value
  | zero sign => exact .inl ⟨sign, rfl, by simpa [taken, meant?] using value⟩
  | finite sign m e positive =>
      exact .inr ⟨sign, m, e, positive, rfl, by simpa [taken, meant?] using value⟩

theorem value?_zero : value? 0.0 = some 0 := by
  rfl

theorem value?_pack {u : UnpackedFloat} (rounds : Rounds q u) (finite : |rounded q| < 2 ^ 1024) :
    value? (.ofModel (.pack u)) = some (rounded q) := by
  have kept : (Float.Model.pack u).unpack = u := unpack_pack (rounds.fits finite)
  rw [value?, kept, rounds.meant]

/-- What is far from the largest number stays finite. -/
theorem abs_rounded_lt (small : |q| < 2 ^ 200) : |rounded q| < 2 ^ 1024 := by
  have error : |rounded q - q| ≤ 2 ^ (200 - 54 : ℤ) :=
    abs_rounded_sub_le (by exact_mod_cast small) (by norm_num)
  have triangle := abs_sub_abs_le_abs_sub (rounded q) q
  have size : (2 : ℚ) ^ 200 + 2 ^ (200 - 54 : ℤ) < 2 ^ 201 := by norm_num
  have below : |rounded q| < 2 ^ 201 := by linarith
  exact below.trans_le (pow_le_pow_right₀ (by norm_num) (by norm_num))

/-- The value of a float is one of binary64. -/
theorem rounded_value (value : value? x = some q) : rounded q = q := by
  have rounds := rounds_self (fits_unpack x.toModel) value
  exact Option.some.inj (rounds.meant.symm.trans value)

section Arithmetic

variable (left : value? x = some p) (right : value? y = some q)

include left right

theorem value?_add (finite : |rounded (p + q)| < 2 ^ 1024) :
    value? (x + y) = some (rounded (p + q)) :=
  value?_pack (rounds_add (fits_unpack _) (fits_unpack _) left right) finite

theorem value?_sub (finite : |rounded (p - q)| < 2 ^ 1024) :
    value? (x - y) = some (rounded (p - q)) :=
  value?_pack (rounds_sub (fits_unpack _) (fits_unpack _) left right) finite

theorem value?_mul (finite : |rounded (p * q)| < 2 ^ 1024) :
    value? (x * y) = some (rounded (p * q)) :=
  value?_pack (rounds_mul (fits_unpack _) (fits_unpack _) left right) finite

theorem value?_div (nonzero : q ≠ 0) (finite : |rounded (p / q)| < 2 ^ 1024) :
    value? (x / y) = some (rounded (p / q)) :=
  value?_pack (rounds_div left right nonzero) finite

end Arithmetic

theorem value?_abs (value : value? x = some q) : value? x.abs = some |q| := by
  have kept : (Float.Model.pack x.toModel.unpack.abs).unpack = x.toModel.unpack.abs :=
    unpack_pack (fits_abs (fits_unpack _))
  change meant? (Float.Model.pack x.toModel.unpack.abs).unpack = some |q|
  rw [kept]
  exact meant?_abs value

theorem value?_ofInt_of_finite {n : ℤ} (finite : |rounded n| < 2 ^ 1024) :
    value? (ofInt n) = some (rounded n) := by
  have rounds : Rounds n (UnpackedFloat.ofInt .binary64 n) := by
    have := rounds_normalize n 0 .positive
    rwa [zpow_zero, mul_one] at this
  exact value?_pack rounds finite

theorem value?_ofInt {n : ℤ} (small : |n| ≤ 2 ^ 53) : value? (ofInt n) = some n := by
  have bound : |(n : ℚ)| ≤ 2 ^ 53 := by exact_mod_cast small
  have value := value?_ofInt_of_finite (abs_rounded_lt (bound.trans_lt (by norm_num)))
  rwa [rounded_intCast small] at value

theorem compare_magnitude {m n : Nat} {e f : ℤ} (left : Fitting m e) (right : Fitting n f) :
    (compare e f).then (compare m n) = compare (m * 2 ^ e : ℚ) (n * 2 ^ f) := by
  -- A larger exponent comes with a full mantissa.
  have less {m n : Nat} {e f : ℤ} (left : Fitting m e) (right : Fitting n f) (smaller : e < f) :
      (m * 2 ^ e : ℚ) < n * 2 ^ f := by
    have full : 2 ^ 52 ≤ n := right.full.resolve_left (by have := left.smallest; omega)
    calc (m * 2 ^ e : ℚ) < 2 ^ 53 * 2 ^ e :=
          mul_lt_mul_of_pos_right (by exact_mod_cast left.digits) (by positivity)
      _ = 2 ^ 52 * 2 ^ (e + 1) := by
          rw [zpow_add_one₀ two_ne_zero]
          ring
      _ ≤ n * 2 ^ f := by
          refine mul_le_mul (by exact_mod_cast full) ?_ (by positivity) (by positivity)
          exact zpow_le_zpow_right₀ (by norm_num) smaller
  rcases lt_trichotomy e f with smaller | rfl | larger
  · rw [compare_lt_iff_lt.2 smaller, compare_lt_iff_lt.2 (less left right smaller)]
    rfl
  · have unit : (0 : ℚ) < 2 ^ e := by positivity
    rw [compare_eq_iff_eq.2 rfl, Ordering.eq_then]
    rcases lt_trichotomy m n with smaller | rfl | larger
    · rw [compare_lt_iff_lt.2 smaller, compare_lt_iff_lt.2]
      exact mul_lt_mul_of_pos_right (by exact_mod_cast smaller) unit
    · rw [compare_eq_iff_eq.2 rfl, compare_eq_iff_eq.2 rfl]
    · rw [compare_gt_iff_gt.2 larger, compare_gt_iff_gt.2]
      exact mul_lt_mul_of_pos_right (by exact_mod_cast larger) unit
  · rw [compare_gt_iff_gt.2 larger, compare_gt_iff_gt.2 (less right left larger)]
    rfl

theorem compare_neg_neg (p q : ℚ) : compare (-p) (-q) = (compare p q).swap := by
  rcases lt_trichotomy p q with smaller | rfl | larger
  · rw [compare_lt_iff_lt.2 smaller, compare_gt_iff_gt.2 (neg_lt_neg smaller)]
    rfl
  · rw [compare_eq_iff_eq.2 rfl, compare_eq_iff_eq.2 rfl]
    rfl
  · rw [compare_gt_iff_gt.2 larger, compare_lt_iff_lt.2 (neg_lt_neg larger)]
    rfl

theorem compare_eq {u v : UnpackedFloat} (left : Fits u) (right : Fits v)
    (meantLeft : meant? u = some p) (meantRight : meant? v = some q) :
    u.compare v = some (compare p q) := by
  cases u with
  | infinity | notANumber => simp [meant?] at meantLeft
  | zero sign =>
      obtain rfl : 0 = p := by simpa [meant?] using meantLeft
      cases v with
      | infinity | notANumber => simp [meant?] at meantRight
      | zero other =>
          obtain rfl : 0 = q := by simpa [meant?] using meantRight
          rw [compare_eq_iff_eq.2 rfl]
          rfl
      | finite other n f others =>
          obtain rfl : signed other (n * 2 ^ f) = q := by simpa [meant?] using meantRight
          have more : (0 : ℚ) < n * 2 ^ f := by positivity
          cases other with
          | negative =>
              rw [signed_negative, compare_gt_iff_gt.2 (neg_lt_zero.2 more)]
              rfl
          | positive =>
              rw [signed_positive, compare_lt_iff_lt.2 more]
              rfl
  | finite sign m e positive =>
      obtain rfl : signed sign (m * 2 ^ e) = p := by simpa [meant?] using meantLeft
      have more : (0 : ℚ) < m * 2 ^ e := by positivity
      cases v with
      | infinity | notANumber => simp [meant?] at meantRight
      | zero other =>
          obtain rfl : 0 = q := by simpa [meant?] using meantRight
          cases sign with
          | negative =>
              rw [signed_negative, compare_lt_iff_lt.2 (neg_lt_zero.2 more)]
              rfl
          | positive =>
              rw [signed_positive, compare_gt_iff_gt.2 more]
              rfl
      | finite other n f others =>
          obtain rfl : signed other (n * 2 ^ f) = q := by simpa [meant?] using meantRight
          have moreRight : (0 : ℚ) < n * 2 ^ f := by positivity
          have magnitude := compare_magnitude left right
          cases sign with
          | negative =>
              cases other with
              | negative =>
                  rw [signed_negative, signed_negative, compare_neg_neg, ← magnitude]
                  rfl
              | positive =>
                  have below : -(m * 2 ^ e : ℚ) < n * 2 ^ f := (neg_lt_zero.2 more).trans moreRight
                  rw [signed_negative, signed_positive, compare_lt_iff_lt.2 below]
                  rfl
          | positive =>
              cases other with
              | negative =>
                  have above : -(n * 2 ^ f : ℚ) < m * 2 ^ e := (neg_lt_zero.2 moreRight).trans more
                  rw [signed_positive, signed_negative, compare_gt_iff_gt.2 above]
                  rfl
              | positive =>
                  rw [signed_positive, signed_positive, ← magnitude]
                  rfl

theorem lt_iff (left : value? x = some p) (right : value? y = some q) : x < y ↔ p < q := by
  have order := compare_eq (fits_unpack x.toModel) (fits_unpack y.toModel) left right
  change decide (UnpackedFloat.lt x.toModel.unpack y.toModel.unpack = true) = true ↔ p < q
  rw [UnpackedFloat.lt, order, decide_eq_true_iff, beq_iff_eq, Option.some.injEq, compare_lt_iff_lt]

end AuctionBudget.Number
