import AuctionBudget.Proofs.Number.Monotone
import AuctionBudget.Proofs.Number.Order

/-! # Results that are too large

A result that is too large for binary64 is infinite. So the places of floats tell what a calculation
yields even where it has no value, and on floats that are not negative sums, multiples and floors
keep the order, up to the infinite one.
-/

namespace AuctionBudget.Number

open Float.Model Float.Model.UnpackedFloat

variable {x y z w : Float} {p q r : ℚ} {u : UnpackedFloat}

/-- The place of the binary64 number nearest to `q`, an infinite one if that is too large. -/
def roundedPlace (q : ℚ) : WithBot (WithTop ℚ) :=
  if 2 ^ 1024 ≤ rounded q then ⊤
  else if rounded q ≤ -2 ^ 1024 then ⊥
  else (rounded q : WithTop ℚ)

theorem roundedPlace_of_lt (finite : |rounded q| < 2 ^ 1024) :
    roundedPlace q = (rounded q : WithTop ℚ) := by
  obtain ⟨low, high⟩ := abs_lt.1 finite
  rw [roundedPlace, if_neg high.not_ge, if_neg low.not_ge]

theorem roundedPlace_zero : roundedPlace 0 = ((0 : ℚ) : WithTop ℚ) := by
  rw [roundedPlace_of_lt (by rw [rounded_zero]; norm_num), rounded_zero]

theorem roundedPlace_mono : Monotone roundedPlace := by
  intro p q le
  have order := rounded_mono le
  by_cases large : 2 ^ 1024 ≤ rounded q
  · rw [roundedPlace.eq_def q, if_pos large]
    exact le_top
  by_cases small : rounded p ≤ -2 ^ 1024
  · have below : ¬ 2 ^ 1024 ≤ rounded p := fun above => large (above.trans order)
    rw [roundedPlace.eq_def p, if_neg below, if_pos small]
    exact bot_le
  have finiteLeft : |rounded p| < 2 ^ 1024 :=
    abs_lt.2 ⟨not_le.1 small, order.trans_lt (not_le.1 large)⟩
  have finiteRight : |rounded q| < 2 ^ 1024 :=
    abs_lt.2 ⟨(not_le.1 small).trans_le order, not_le.1 large⟩
  rw [roundedPlace_of_lt finiteLeft, roundedPlace_of_lt finiteRight]
  exact_mod_cast order

theorem place?_pack (rounds : Rounds q u) :
    place? (.ofModel (.pack u)) = some (roundedPlace q) := by
  rcases lt_or_ge |rounded q| (2 ^ 1024) with finite | large
  · rw [roundedPlace_of_lt finite]
    exact place?_of_value? (value?_pack rounds finite)
  · have exceeds := rounds.exceeds large
    cases u with
    | infinity | notANumber | zero => exact exceeds.elim
    | finite sign m e positive =>
        have value : signed sign (m * 2 ^ e) = rounded q := Option.some.inj rounds.meant
        rw [← value, abs_signed, abs_of_pos (by positivity)] at large
        change placeOf? (Float.Model.pack (.finite sign m e positive)).unpack = _
        rw [unpack_pack_of_exceeds positive exceeds, roundedPlace, ← value]
        cases sign with
        | positive =>
            rw [signed_positive, if_pos large]
            rfl
        | negative =>
            have below : ¬ 2 ^ 1024 ≤ -(m * 2 ^ e : ℚ) :=
              ((neg_nonpos.2 (by positivity)).trans_lt (pow_pos two_pos 1024)).not_ge
            rw [signed_negative, if_neg below, if_pos (neg_le_neg large)]
            rfl

section Arithmetic

variable (left : value? x = some p) (right : value? y = some q)

include left right

theorem place?_add : place? (x + y) = some (roundedPlace (p + q)) :=
  place?_pack (rounds_add (fits_unpack _) (fits_unpack _) left right)

theorem place?_mul : place? (x * y) = some (roundedPlace (p * q)) :=
  place?_pack (rounds_mul (fits_unpack _) (fits_unpack _) left right)

theorem place?_div (nonzero : q ≠ 0) : place? (x / y) = some (roundedPlace (p / q)) :=
  place?_pack (rounds_div left right nonzero)

end Arithmetic

/-- What has a value is below `2 ^ 1024`. -/
theorem abs_value_lt (value : value? x = some q) : |q| < 2 ^ 1024 := by
  have fits := fits_unpack x.toModel
  rcases unpack_of_value? value with ⟨sign, taken, rfl⟩ | ⟨sign, m, e, positive, taken, rfl⟩
  · norm_num
  · rw [taken] at fits
    rw [abs_signed, abs_of_pos (by positivity)]
    exact mul_two_zpow_lt fits.digits fits.largest

/-- What is rounded between two floats that have values has a value between them. -/
theorem abs_rounded_lt_of_between (left : value? x = some p) (right : value? y = some r)
    (lower : p ≤ q) (upper : q ≤ r) :
    |rounded q| < 2 ^ 1024 ∧ p ≤ rounded q ∧ rounded q ≤ r := by
  have low := rounded_mono lower
  have high := rounded_mono upper
  rw [rounded_value left] at low
  rw [rounded_value right] at high
  refine ⟨abs_lt.2 ⟨?_, ?_⟩, low, high⟩
  · exact (abs_lt.1 (abs_value_lt left)).1.trans_le low
  · exact high.trans_lt (abs_lt.1 (abs_value_lt right)).2

theorem unpack_of_place?_top (infinite : place? x = some ⊤) :
    x.toModel.unpack = .infinity .positive := by
  rcases placeOf?_eq_some infinite with ⟨-, same⟩ | ⟨taken, -⟩ | ⟨q, -, same⟩
  · cases same
  · exact taken
  · cases same

theorem unpack_of_place?_bot (infinite : place? x = some ⊥) :
    x.toModel.unpack = .infinity .negative := by
  rcases placeOf?_eq_some infinite with ⟨taken, -⟩ | ⟨-, same⟩ | ⟨q, -, same⟩
  · exact taken
  · cases same
  · cases same

theorem unpack_of_value?_pos (value : value? x = some q) (positive : 0 < q) :
    ∃ m e digits, x.toModel.unpack = .finite .positive m e digits := by
  rcases unpack_of_value? value with ⟨sign, taken, rfl⟩ | ⟨sign, m, e, digits, taken, rfl⟩
  · exact absurd positive (lt_irrefl 0)
  · cases sign with
    | positive => exact ⟨m, e, digits, taken⟩
    | negative =>
        rw [signed_negative] at positive
        have more : (0 : ℚ) < m * 2 ^ e := by positivity
        linarith

theorem isFinite_eq (number : x.isNaN = false) : x.isFinite = !x.isInf := by
  change x.toModel.unpack.isNaN = false at number
  change x.toModel.unpack.isFinite = !x.toModel.unpack.isInf
  cases taken : x.toModel.unpack with
  | notANumber => simp [taken, UnpackedFloat.isNaN] at number
  | infinity | zero | finite => rfl

theorem isInf_of_place?_top (infinite : place? x = some ⊤) : x.isInf = true := by
  change x.toModel.unpack.isInf = true
  rw [unpack_of_place?_top infinite]
  rfl

theorem place?_pack_infinity (infinite : u = .infinity .positive) :
    place? (.ofModel (.pack u)) = some ⊤ := by
  rw [infinite]
  rfl

section Infinite

variable (infinite : place? x = some ⊤)

include infinite

theorem place?_mul_of_top (value : value? y = some q) (positive : 0 < q) :
    place? (x * y) = some ⊤ := by
  obtain ⟨m, e, digits, factor⟩ := unpack_of_value?_pos value positive
  have product : UnpackedFloat.mul .binary64 x.toModel.unpack y.toModel.unpack =
      .infinity .positive := by
    rw [unpack_of_place?_top infinite, factor]
    rfl
  exact place?_pack_infinity product

theorem place?_div_of_top (value : value? y = some q) (positive : 0 < q) :
    place? (x / y) = some ⊤ := by
  obtain ⟨m, e, digits, divisor⟩ := unpack_of_value?_pos value positive
  have quotient : UnpackedFloat.div .binary64 x.toModel.unpack y.toModel.unpack =
      .infinity .positive := by
    rw [unpack_of_place?_top infinite, divisor]
    rfl
  exact place?_pack_infinity quotient

theorem place?_abs_of_top : place? x.abs = some ⊤ := by
  have magnitude : x.toModel.unpack.abs = .infinity .positive := by
    rw [unpack_of_place?_top infinite]
    rfl
  exact place?_pack_infinity magnitude

theorem place?_floor_of_top : place? (floor x) = some ⊤ := by
  have same : floor x = x := by
    rw [floor, unpack_of_place?_top infinite]
  rwa [same]

end Infinite

/-- A float that is not negative is infinite or has a value. -/
theorem top_or_value_of_nonneg (nonneg : 0.0 ≤ x) :
    place? x = some ⊤ ∨ ∃ q, value? x = some q ∧ 0 ≤ q := by
  have number : x.isNaN = false := (isNaN_of_le nonneg).2
  obtain ⟨r, place⟩ := isNaN_eq_false_iff.1 number
  have order := (le_iff_place (place?_of_value? value?_zero) place).1 nonneg
  rcases placeOf?_eq_some place with ⟨-, rfl⟩ | ⟨-, rfl⟩ | ⟨q, meant, rfl⟩
  · exact absurd order (WithBot.bot_lt_coe _).not_ge
  · exact .inl place
  · exact .inr ⟨q, meant, by exact_mod_cast order⟩

theorem place?_top_of_isInf (nonneg : 0.0 ≤ x) (infinite : x.isInf = true) : place? x = some ⊤ := by
  rcases top_or_value_of_nonneg nonneg with top | ⟨q, value, -⟩
  · exact top
  · change x.toModel.unpack.isInf = true at infinite
    rcases unpack_of_value? value with ⟨sign, taken, -⟩ | ⟨sign, m, e, positive, taken, -⟩
    · rw [taken] at infinite
      cases infinite
    · rw [taken] at infinite
      cases infinite

theorem nonneg_of_place {p : WithBot (WithTop ℚ)} (place : place? x = some p)
    (nonneg : ((0 : ℚ) : WithTop ℚ) ≤ p) : 0.0 ≤ x :=
  (le_iff_place (place?_of_value? value?_zero) place).2 nonneg

theorem place?_top_of_le (infinite : place? x = some ⊤) (le : x ≤ y) : place? y = some ⊤ := by
  obtain ⟨q, place⟩ := isNaN_eq_false_iff.1 (isNaN_of_le le).2
  have order := (le_iff_place infinite place).1 le
  rw [place, top_le_iff.1 order]

/-- What is not negative does not take an infinite float back. -/
theorem add_infinity (nonneg : 0.0 ≤ y) :
    UnpackedFloat.add .binary64 (.infinity .positive) y.toModel.unpack = .infinity .positive ∧
      UnpackedFloat.add .binary64 y.toModel.unpack (.infinity .positive) = .infinity .positive := by
  rcases top_or_value_of_nonneg nonneg with top | ⟨q, value, -⟩
  · rw [unpack_of_place?_top top]
    exact ⟨rfl, rfl⟩
  · rcases unpack_of_value? value with ⟨sign, taken, -⟩ | ⟨sign, m, e, positive, taken, -⟩
    · rw [taken]
      exact ⟨rfl, rfl⟩
    · rw [taken]
      exact ⟨rfl, rfl⟩

theorem place?_add_of_top_left (infinite : place? x = some ⊤) (nonneg : 0.0 ≤ y) :
    place? (x + y) = some ⊤ := by
  have sum := (add_infinity nonneg).1
  rw [← unpack_of_place?_top infinite] at sum
  exact place?_pack_infinity (sum.trans (unpack_of_place?_top infinite))

theorem place?_add_of_top_right (nonneg : 0.0 ≤ x) (infinite : place? y = some ⊤) :
    place? (x + y) = some ⊤ := by
  have sum := (add_infinity nonneg).2
  rw [← unpack_of_place?_top infinite] at sum
  exact place?_pack_infinity (sum.trans (unpack_of_place?_top infinite))

/-- Neither is negative, and the first is not above the second. -/
structure InOrder (x y : Float) : Prop where
  nonneg : 0.0 ≤ x
  le : x ≤ y

namespace InOrder

theorem refl (nonneg : 0.0 ≤ x) : InOrder x x :=
  ⟨nonneg, Number.le_refl (isNaN_of_le nonneg).2⟩

theorem nonneg_right (order : InOrder x y) : 0.0 ≤ y :=
  Number.le_trans (by decide) (isNaN_of_le order.le).1 (isNaN_of_le order.le).2 order.nonneg order.le

/-- An operation whose result grows with its argument keeps the order. -/
theorem map {f : Float → Float} {F : ℚ → WithBot (WithTop ℚ)} (mono : Monotone F)
    (zero : ((0 : ℚ) : WithTop ℚ) ≤ F 0)
    (value : ∀ {x q}, value? x = some q → 0 ≤ q → place? (f x) = some (F q))
    (infinite : ∀ {x}, place? x = some ⊤ → place? (f x) = some ⊤)
    (order : InOrder x y) : InOrder (f x) (f y) := by
  rcases top_or_value_of_nonneg order.nonneg with top | ⟨p, left, nonneg⟩
  · have topRight := infinite (place?_top_of_le top order.le)
    exact ⟨nonneg_of_place (infinite top) le_top, (le_iff_place (infinite top) topRight).2 le_rfl⟩
  · have place := value left nonneg
    refine ⟨nonneg_of_place place (zero.trans (mono nonneg)), ?_⟩
    rcases top_or_value_of_nonneg order.nonneg_right with top | ⟨q, right, nonnegRight⟩
    · exact (le_iff_place place (infinite top)).2 le_top
    · exact (le_iff_place place (value right nonnegRight)).2 (mono ((le_iff left right).1 order.le))

variable (order : InOrder x y)

include order

theorem mul_right (value : value? z = some r) (positive : 0 < r) : InOrder (x * z) (y * z) := by
  have mono : Monotone fun q => roundedPlace (q * r) := fun _ _ le =>
    roundedPlace_mono (mul_le_mul_of_nonneg_right le positive.le)
  exact order.map (f := fun x => x * z) mono (by rw [zero_mul, roundedPlace_zero])
    (fun left _ => place?_mul left value) (fun top => place?_mul_of_top top value positive)

theorem div_right (value : value? z = some r) (positive : 0 < r) : InOrder (x / z) (y / z) := by
  have mono : Monotone fun q => roundedPlace (q / r) := fun _ _ le =>
    roundedPlace_mono (div_le_div_of_nonneg_right le positive.le)
  exact order.map (f := fun x => x / z) mono (by rw [zero_div, roundedPlace_zero])
    (fun left _ => place?_div left value positive.ne')
    (fun top => place?_div_of_top top value positive)

theorem abs : InOrder x.abs y.abs := by
  have mono : Monotone fun q : ℚ => ((q : WithTop ℚ) : WithBot (WithTop ℚ)) := fun _ _ le =>
    WithBot.coe_le_coe.2 (WithTop.coe_le_coe.2 le)
  refine order.map mono le_rfl (fun left nonneg => ?_) place?_abs_of_top
  rw [place?_of_value? (value?_abs left), abs_of_nonneg nonneg]

theorem floor : InOrder (Number.floor x) (Number.floor y) := by
  have mono : Monotone fun q : ℚ => (((⌊q⌋ : ℚ) : WithTop ℚ) : WithBot (WithTop ℚ)) :=
    fun _ _ le => WithBot.coe_le_coe.2
      (WithTop.coe_le_coe.2 (by exact_mod_cast Int.floor_mono le))
  exact order.map mono (by rw [Int.floor_zero, Int.cast_zero])
    (fun left _ => place?_of_value? (value?_floor left)) place?_floor_of_top

/-- Sums keep the order. -/
theorem add (others : InOrder z w) : InOrder (x + z) (y + w) := by
  rcases top_or_value_of_nonneg order.nonneg with top | ⟨p, left, nonneg⟩
  · have sum := place?_add_of_top_left top others.nonneg
    have sumRight :=
      place?_add_of_top_left (place?_top_of_le top order.le) others.nonneg_right
    exact ⟨nonneg_of_place sum le_top, (le_iff_place sum sumRight).2 le_rfl⟩
  rcases top_or_value_of_nonneg others.nonneg with top | ⟨r, other, nonnegOther⟩
  · have sum := place?_add_of_top_right order.nonneg top
    have sumRight :=
      place?_add_of_top_right order.nonneg_right (place?_top_of_le top others.le)
    exact ⟨nonneg_of_place sum le_top, (le_iff_place sum sumRight).2 le_rfl⟩
  have sum := place?_add left other
  have more : ((0 : ℚ) : WithTop ℚ) ≤ roundedPlace (p + r) := by
    rw [← roundedPlace_zero]
    exact roundedPlace_mono (add_nonneg nonneg nonnegOther)
  refine ⟨nonneg_of_place sum more, ?_⟩
  rcases top_or_value_of_nonneg order.nonneg_right with top | ⟨q, right, -⟩
  · exact (le_iff_place sum (place?_add_of_top_left top others.nonneg_right)).2 le_top
  rcases top_or_value_of_nonneg others.nonneg_right with top | ⟨s, otherRight, -⟩
  · exact (le_iff_place sum (place?_add_of_top_right order.nonneg_right top)).2 le_top
  exact (le_iff_place sum (place?_add right otherRight)).2 (roundedPlace_mono
    (add_le_add ((le_iff left right).1 order.le) ((le_iff other otherRight).1 others.le)))

end InOrder

/-- No float lies between `m * 2 ^ e` and the next one. -/
theorem add_one_mul_two_zpow_le {m : ℕ} {e : ℤ} (value : value? x = some q) (full : 2 ^ 52 ≤ m)
    (more : m * 2 ^ e < q) : (m + 1) * 2 ^ e ≤ q := by
  have positive : 0 < m := lt_of_lt_of_le (by norm_num) full
  have grid : e ≤ gridExponent q := by
    have coarse := gridExponent_mono (by positivity) more.le
    have width := (Nat.le_log2 positive.ne').2 full
    rw [gridExponent_mul_two_zpow e positive] at coarse
    omega
  obtain ⟨steps, same⟩ := Int.eq_ofNat_of_zero_le (sub_nonneg.2 grid)
  have split : (2 : ℚ) ^ gridExponent q = 2 ^ steps * 2 ^ e := by
    rw [← zpow_natCast, ← zpow_add₀ two_ne_zero]
    congr 1
    omega
  -- Like both ends, the float is a multiple of `2 ^ e`.
  have multiple : q = (nearestEven (q / 2 ^ gridExponent q) * 2 ^ steps : ℤ) * 2 ^ e := by
    have self := rounded_value value
    rw [rounded] at self
    push_cast
    rw [mul_assoc, ← split, self]
  have unit : (0 : ℚ) < 2 ^ e := by positivity
  generalize nearestEven (q / 2 ^ gridExponent q) * 2 ^ steps = n at multiple
  subst multiple
  have next : (m : ℤ) < n := by exact_mod_cast lt_of_mul_lt_mul_right more unit.le
  refine mul_le_mul_of_nonneg_right ?_ unit.le
  exact_mod_cast Int.add_one_le_iff.2 next

end AuctionBudget.Number
