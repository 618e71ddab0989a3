import AuctionBudget.Proofs.Number.Value
import Mathlib.Order.WithBot

/-! # The order of floats

Every float but what is no number has a place among the rational numbers and the two infinities, and
comparisons compare places. So on numbers the order is reflexive, transitive and total. Packing a
number gives a number, and so do the nearest float of a whole number and a quotient by a float that
has a value other than zero.
-/

namespace AuctionBudget.Number

open Float.Model Float.Model.UnpackedFloat

variable {x y z : Float} {u v : UnpackedFloat}

theorem isNaN_unpack_packComponents {sign : Sign} {exponent : BitVec 11} {mantissa : BitVec 52}
    (high : exponent ≠ -1#11) :
    (UnpackedFloat.unpack .binary64 (packComponents .binary64 sign exponent mantissa)).isNaN =
      false := by
  simp only [UnpackedFloat.unpack, unpackExponent_packComponents, unpackMantissa_packComponents]
  rw [if_neg high]
  split
  · split <;> rfl
  · rfl

/-- A number survives being packed as a number. -/
theorem isNaN_pack (number : u.isNaN = false) : (Float.ofModel (.pack u)).isNaN = false := by
  change (UnpackedFloat.unpack .binary64 (UnpackedFloat.pack .binary64 u)).isNaN = false
  cases u with
  | notANumber => cases number
  | infinity sign => cases sign <;> rfl
  | zero sign => cases sign <;> rfl
  | finite sign mantissa exponent positive =>
      simp only [UnpackedFloat.pack]
      split
      · cases sign <;> rfl
      · next small =>
          split
          · refine isNaN_unpack_packComponents fun ones => ?_
            have same := congrArg BitVec.toNat ones
            simp only [BitVec.reduceNeg, BitVec.toNat_ofNat, Nat.reducePow, Nat.reduceMod] at same
            omega
          · exact isNaN_unpack_packComponents (by decide)

theorem isNaN_roundWithAccuracy (sign : Sign) (mantissa : Nat) (exponent : Int)
    (accuracy : Accuracy) :
    (roundWithAccuracy .binary64 sign mantissa exponent accuracy).isNaN = false := by
  unfold roundWithAccuracy
  dsimp only
  split <;> rfl

theorem isNaN_ofInt (n : ℤ) : (ofInt n).isNaN = false := by
  refine isNaN_pack ?_
  unfold UnpackedFloat.ofInt UnpackedFloat.normalize
  split
  · exact isNaN_roundWithAccuracy _ _ _ _
  · rfl
  · exact isNaN_roundWithAccuracy _ _ _ _

/-- Only what has a value other than zero divides numbers into numbers for sure. -/
theorem isNaN_div {q : ℚ} (number : x.isNaN = false) (value : value? y = some q)
    (nonzero : q ≠ 0) : (x / y).isNaN = false := by
  refine isNaN_pack ?_
  change x.toModel.unpack.isNaN = false at number
  change meant? y.toModel.unpack = some q at value
  cases divisor : y.toModel.unpack with
  | infinity | notANumber => simp [divisor, meant?] at value
  | zero => exact absurd (by simpa [divisor, meant?] using value.symm) nonzero
  | finite =>
      cases divided : x.toModel.unpack with
      | notANumber => simp [divided, UnpackedFloat.isNaN] at number
      | infinity | zero => rfl
      | finite => exact isNaN_roundWithAccuracy _ _ _ _

/-- The place of what is meant among the rational numbers and the two infinities. -/
def placeOf? : UnpackedFloat → Option (WithBot (WithTop ℚ))
  | .infinity .negative => some ⊥
  | .infinity .positive => some ⊤
  | u => (meant? u).map fun q => ((q : WithTop ℚ) : WithBot (WithTop ℚ))

/-- The place of a float, unless it is no number. -/
def place? (x : Float) : Option (WithBot (WithTop ℚ)) :=
  placeOf? x.toModel.unpack

theorem placeOf?_eq_some {p : WithBot (WithTop ℚ)} (place : placeOf? u = some p) :
    (u = .infinity .negative ∧ p = ⊥) ∨ (u = .infinity .positive ∧ p = ⊤) ∨
      ∃ q : ℚ, meant? u = some q ∧ p = (q : WithTop ℚ) := by
  cases u with
  | infinity sign =>
      cases sign with
      | negative => exact .inl ⟨rfl, (Option.some.inj place).symm⟩
      | positive => exact .inr (.inl ⟨rfl, (Option.some.inj place).symm⟩)
  | notANumber => simp [placeOf?, meant?] at place
  | zero | finite => exact .inr (.inr ⟨_, rfl, (Option.some.inj place).symm⟩)

theorem place?_of_value? {q : ℚ} (value : value? x = some q) :
    place? x = some ((q : WithTop ℚ) : WithBot (WithTop ℚ)) := by
  rw [place?]
  rcases unpack_of_value? value with ⟨sign, taken, rfl⟩ | ⟨sign, m, e, positive, taken, rfl⟩
  · rw [taken]
    rfl
  · rw [taken]
    rfl

theorem compare_coe (p q : ℚ) :
    compare ((p : WithTop ℚ) : WithBot (WithTop ℚ)) (q : WithTop ℚ) = compare p q := by
  rcases lt_trichotomy p q with smaller | rfl | larger
  · rw [compare_lt_iff_lt.2 smaller, compare_lt_iff_lt]
    exact_mod_cast smaller
  · rw [compare_eq_iff_eq.2 rfl, compare_eq_iff_eq.2 rfl]
  · rw [compare_gt_iff_gt.2 larger, compare_gt_iff_gt]
    exact_mod_cast larger

/-- Comparing floats compares their places. -/
theorem compare_places (left : Fits u) (right : Fits v) {p q : WithBot (WithTop ℚ)}
    (placeLeft : placeOf? u = some p) (placeRight : placeOf? v = some q) :
    u.compare v = some (compare p q) := by
  -- The infinities lie on both sides of all values.
  have below (u : UnpackedFloat) {q : ℚ} (meant : meant? u = some q) :
      (UnpackedFloat.infinity .negative).compare u = some .lt ∧
        u.compare (.infinity .negative) = some .gt := by
    cases u with
    | infinity | notANumber => simp [meant?] at meant
    | zero | finite => exact ⟨rfl, rfl⟩
  have above (u : UnpackedFloat) {q : ℚ} (meant : meant? u = some q) :
      (UnpackedFloat.infinity .positive).compare u = some .gt ∧
        u.compare (.infinity .positive) = some .lt := by
    cases u with
    | infinity | notANumber => simp [meant?] at meant
    | zero | finite => exact ⟨rfl, rfl⟩
  rcases placeOf?_eq_some placeLeft with ⟨rfl, rfl⟩ | ⟨rfl, rfl⟩ | ⟨a, meantLeft, rfl⟩
  · rcases placeOf?_eq_some placeRight with ⟨rfl, rfl⟩ | ⟨rfl, rfl⟩ | ⟨b, meantRight, rfl⟩
    · rw [compare_eq_iff_eq.2 rfl]
      rfl
    · rw [compare_lt_iff_lt.2 bot_lt_top]
      rfl
    · rw [(below v meantRight).1, compare_lt_iff_lt.2 (WithBot.bot_lt_coe _)]
  · rcases placeOf?_eq_some placeRight with ⟨rfl, rfl⟩ | ⟨rfl, rfl⟩ | ⟨b, meantRight, rfl⟩
    · rw [compare_gt_iff_gt.2 bot_lt_top]
      rfl
    · rw [compare_eq_iff_eq.2 rfl]
      rfl
    · rw [(above v meantRight).1, compare_gt_iff_gt.2]
      exact WithBot.coe_lt_coe.2 (WithTop.coe_lt_top b)
  · rcases placeOf?_eq_some placeRight with ⟨rfl, rfl⟩ | ⟨rfl, rfl⟩ | ⟨b, meantRight, rfl⟩
    · rw [(below u meantLeft).2, compare_gt_iff_gt.2 (WithBot.bot_lt_coe _)]
    · rw [(above u meantLeft).2, compare_lt_iff_lt.2]
      exact WithBot.coe_lt_coe.2 (WithTop.coe_lt_top a)
    · rw [compare_eq left right meantLeft meantRight, compare_coe]

theorem isNaN_eq_false_iff : x.isNaN = false ↔ ∃ p, place? x = some p := by
  change x.toModel.unpack.isNaN = false ↔ ∃ p, placeOf? x.toModel.unpack = some p
  cases x.toModel.unpack with
  | notANumber => simp [UnpackedFloat.isNaN, placeOf?, meant?]
  | infinity sign => cases sign <;> exact iff_of_true rfl ⟨_, rfl⟩
  | zero | finite => exact iff_of_true rfl ⟨_, rfl⟩

section Places

variable {p q : WithBot (WithTop ℚ)} (left : place? x = some p) (right : place? y = some q)

include left right

theorem lt_iff_place : x < y ↔ p < q := by
  have order := compare_places (fits_unpack x.toModel) (fits_unpack y.toModel) left right
  change decide (UnpackedFloat.lt x.toModel.unpack y.toModel.unpack = true) = true ↔ p < q
  rw [UnpackedFloat.lt, order, decide_eq_true_iff, beq_iff_eq, Option.some.injEq, compare_lt_iff_lt]

theorem le_iff_place : x ≤ y ↔ p ≤ q := by
  have order := compare_places (fits_unpack x.toModel) (fits_unpack y.toModel) left right
  change decide (UnpackedFloat.le x.toModel.unpack y.toModel.unpack = true) = true ↔ p ≤ q
  rw [UnpackedFloat.le, order, decide_eq_true_iff, Option.any_some, Ordering.isLE_iff_ne_gt]
  exact compare_le_iff_le

theorem beq_iff_place : (x == y) = true ↔ p = q := by
  have order := compare_places (fits_unpack x.toModel) (fits_unpack y.toModel) left right
  change UnpackedFloat.beq x.toModel.unpack y.toModel.unpack = true ↔ p = q
  rw [UnpackedFloat.beq, order, beq_iff_eq, Option.some.injEq, compare_eq_iff_eq]

end Places

theorem le_iff {p q : ℚ} (left : value? x = some p) (right : value? y = some q) : x ≤ y ↔ p ≤ q := by
  rw [le_iff_place (place?_of_value? left) (place?_of_value? right)]
  exact_mod_cast Iff.rfl

/-- What lies between two floats that have values has one. -/
theorem exists_value?_of_le_of_le {p r : ℚ} (number : y.isNaN = false) (lower : x ≤ y) (upper : y ≤ z)
    (left : value? x = some p) (right : value? z = some r) : ∃ q, value? y = some q := by
  obtain ⟨q, middle⟩ := isNaN_eq_false_iff.1 number
  have above := (le_iff_place (place?_of_value? left) middle).1 lower
  have below := (le_iff_place middle (place?_of_value? right)).1 upper
  rcases placeOf?_eq_some middle with ⟨-, rfl⟩ | ⟨-, rfl⟩ | ⟨q, meant, -⟩
  · exact absurd above (WithBot.bot_lt_coe _).not_ge
  · exact absurd below (WithBot.coe_lt_coe.2 (WithTop.coe_lt_top r)).not_ge
  · exact ⟨q, meant⟩

/-- Only numbers are compared. -/
theorem isNaN_of_compare {order : Ordering}
    (compared : x.toModel.unpack.compare y.toModel.unpack = some order) :
    x.isNaN = false ∧ y.isNaN = false := by
  change x.toModel.unpack.isNaN = false ∧ y.toModel.unpack.isNaN = false
  cases left : x.toModel.unpack with
  | notANumber => simp [left, UnpackedFloat.compare] at compared
  | infinity | zero | finite =>
      cases right : y.toModel.unpack with
      | notANumber => simp [left, right, UnpackedFloat.compare] at compared
      | infinity | zero | finite => exact ⟨rfl, rfl⟩

theorem isNaN_of_lt (less : x < y) : x.isNaN = false ∧ y.isNaN = false := by
  change decide (UnpackedFloat.lt x.toModel.unpack y.toModel.unpack = true) = true at less
  rw [decide_eq_true_iff, UnpackedFloat.lt, beq_iff_eq] at less
  exact isNaN_of_compare less

theorem isNaN_of_le (le : x ≤ y) : x.isNaN = false ∧ y.isNaN = false := by
  change decide (UnpackedFloat.le x.toModel.unpack y.toModel.unpack = true) = true at le
  rw [decide_eq_true_iff, UnpackedFloat.le, Option.any_eq_true] at le
  obtain ⟨order, compared, -⟩ := le
  exact isNaN_of_compare compared

protected theorem le_refl (number : x.isNaN = false) : x ≤ x := by
  obtain ⟨p, place⟩ := isNaN_eq_false_iff.1 number
  exact (le_iff_place place place).2 le_rfl

protected theorem le_of_lt (less : x < y) : x ≤ y := by
  obtain ⟨numberLeft, numberRight⟩ := isNaN_of_lt less
  obtain ⟨p, left⟩ := isNaN_eq_false_iff.1 numberLeft
  obtain ⟨q, right⟩ := isNaN_eq_false_iff.1 numberRight
  exact (le_iff_place left right).2 ((lt_iff_place left right).1 less).le

protected theorem le_of_not_lt (left : x.isNaN = false) (right : y.isNaN = false)
    (notLess : ¬ x < y) : y ≤ x := by
  obtain ⟨p, left⟩ := isNaN_eq_false_iff.1 left
  obtain ⟨q, right⟩ := isNaN_eq_false_iff.1 right
  exact (le_iff_place right left).2 (not_lt.1 fun less => notLess ((lt_iff_place left right).2 less))

protected theorem beq_of_le_of_le (left : x.isNaN = false) (right : y.isNaN = false) (lower : x ≤ y)
    (upper : y ≤ x) : (x == y) = true := by
  obtain ⟨p, left⟩ := isNaN_eq_false_iff.1 left
  obtain ⟨q, right⟩ := isNaN_eq_false_iff.1 right
  exact (beq_iff_place left right).2
    (le_antisymm ((le_iff_place left right).1 lower) ((le_iff_place right left).1 upper))

protected theorem le_trans (left : x.isNaN = false) (middle : y.isNaN = false)
    (right : z.isNaN = false) (lower : x ≤ y) (upper : y ≤ z) : x ≤ z := by
  obtain ⟨p, left⟩ := isNaN_eq_false_iff.1 left
  obtain ⟨q, middle⟩ := isNaN_eq_false_iff.1 middle
  obtain ⟨r, right⟩ := isNaN_eq_false_iff.1 right
  exact (le_iff_place left right).2
    (((le_iff_place left middle).1 lower).trans ((le_iff_place middle right).1 upper))

end AuctionBudget.Number
