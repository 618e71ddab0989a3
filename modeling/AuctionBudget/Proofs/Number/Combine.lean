import AuctionBudget.Proofs.Number.Identity
import AuctionBudget.Proofs.Number.Joining
import AuctionBudget.Proofs.Number.Overflow

/-! # One step of a sum or a product

Adding and multiplying floats commute to the bit, whatever the floats are. A step with a finite
result had finite operands, and its result is the number nearest to the exact one. Signs of zeros do
not depend on the order of exact steps: a sum is the negative zero only where everything that is
added is, and a product has a minus where an odd number of its factors have one.
-/

namespace AuctionBudget.Number

open Float.Model Float.Model.UnpackedFloat

variable {x y : Float} {u v : UnpackedFloat} {p q : ℚ}

theorem isFinite_of_value? (value : value? x = some q) : x.isFinite = true := by
  change x.toModel.unpack.isFinite = true
  rcases unpack_of_value? value with ⟨sign, taken, -⟩ | ⟨sign, m, e, positive, taken, -⟩
  · rw [taken]
    rfl
  · rw [taken]
    rfl

theorem exists_value?_of_isFinite (finite : x.isFinite = true) : ∃ q, value? x = some q := by
  change x.toModel.unpack.isFinite = true at finite
  rw [value?]
  cases taken : x.toModel.unpack with
  | infinity | notANumber => simp [taken, UnpackedFloat.isFinite] at finite
  | zero | finite => exact ⟨_, rfl⟩

/-- Packing makes nothing finite. -/
theorem isFinite_of_pack (finite : (Float.Model.pack u).unpack.isFinite = true) :
    u.isFinite = true := by
  cases u with
  | infinity sign => cases sign <;> exact finite
  | notANumber => exact finite
  | zero | finite => rfl

/-- What is rounded to a finite place is not too large. -/
theorem abs_rounded_lt_of_roundedPlace {v : ℚ} (place : roundedPlace q = (v : WithTop ℚ)) :
    |rounded q| < 2 ^ 1024 := by
  unfold roundedPlace at place
  split at place
  · cases place
  · next below =>
      split at place
      · cases place
      · next above => exact abs_lt.2 ⟨not_le.1 above, not_le.1 below⟩

theorem IsBinary64.rounded_eq (number : IsBinary64 q) : rounded q = q := by
  obtain ⟨x, value⟩ := number
  exact rounded_value value

theorem IsBinary64.abs_rounded_lt (number : IsBinary64 q) : |rounded q| < 2 ^ 1024 := by
  rw [number.rounded_eq]
  obtain ⟨x, value⟩ := number
  exact abs_value_lt value

namespace Joining

variable {kind : Joining}

def combine : Joining → Float → Float → Float
  | .sum, x, y => x + y
  | .product, x, y => x * y

/-- The step on floats that are taken apart. -/
def combineParts : Joining → UnpackedFloat → UnpackedFloat → UnpackedFloat
  | .sum, u, v => .add .binary64 u v
  | .product, u, v => .mul .binary64 u v

theorem combine_eq : kind.combine x y =
    .ofModel (.pack (kind.combineParts x.toModel.unpack y.toModel.unpack)) := by
  cases kind <;> rfl

theorem sign_mul_comm (s t : Sign) : s * t = t * s := by
  cases s <;> cases t <;> rfl

theorem add_comm_parts (u v : UnpackedFloat) :
    UnpackedFloat.add .binary64 u v = .add .binary64 v u := by
  cases u with
  | notANumber => cases v <;> rfl
  | infinity s =>
      cases v with
      | infinity t => cases s <;> cases t <;> rfl
      | notANumber | zero | finite => rfl
  | zero s =>
      cases v with
      | zero t => cases s <;> cases t <;> rfl
      | notANumber | infinity | finite => rfl
  | finite s m e positive =>
      cases v with
      | notANumber | infinity | zero => rfl
      | finite t n f positive' =>
          simp only [UnpackedFloat.add, decreaseExponent_eq]
          rw [min_comm e f, add_comm]

theorem mul_comm_parts (u v : UnpackedFloat) :
    UnpackedFloat.mul .binary64 u v = .mul .binary64 v u := by
  cases u with
  | notANumber => cases v <;> rfl
  | infinity s =>
      cases v with
      | infinity t | finite t => exact congrArg UnpackedFloat.infinity (sign_mul_comm s t)
      | notANumber | zero => rfl
  | zero s =>
      cases v with
      | zero t | finite t => exact congrArg UnpackedFloat.zero (sign_mul_comm s t)
      | notANumber | infinity => rfl
  | finite s m e positive =>
      cases v with
      | notANumber => rfl
      | infinity t => exact congrArg UnpackedFloat.infinity (sign_mul_comm s t)
      | zero t => exact congrArg UnpackedFloat.zero (sign_mul_comm s t)
      | finite t n f positive' =>
          simp only [UnpackedFloat.mul]
          rw [sign_mul_comm s t, Nat.mul_comm m n, add_comm e f]

/-- The operands of one step can be exchanged. -/
theorem combine_comm (kind : Joining) (x y : Float) : kind.combine x y = kind.combine y x := by
  rw [combine_eq, combine_eq]
  cases kind with
  | sum => rw [combineParts, combineParts, add_comm_parts]
  | product => rw [combineParts, combineParts, mul_comm_parts]

theorem isFinite_of_combineParts (finite : (kind.combineParts u v).isFinite = true) :
    u.isFinite = true ∧ v.isFinite = true := by
  cases kind with
  | sum =>
      cases u with
      | notANumber => cases finite
      | infinity s =>
          cases v with
          | infinity t => cases s <;> cases t <;> cases finite
          | notANumber | zero | finite => cases finite
      | zero | finite =>
          cases v with
          | notANumber | infinity => cases finite
          | zero | finite => exact ⟨rfl, rfl⟩
  | product =>
      cases u with
      | notANumber => cases finite
      | infinity => cases v <;> cases finite
      | zero | finite =>
          cases v with
          | notANumber | infinity => cases finite
          | zero | finite => exact ⟨rfl, rfl⟩

/-- What has a finite result has finite operands. -/
theorem exists_values_of_isFinite (finite : (kind.combine x y).isFinite = true) :
    (∃ p, value? x = some p) ∧ ∃ q, value? y = some q := by
  rw [combine_eq] at finite
  obtain ⟨left, right⟩ := isFinite_of_combineParts (isFinite_of_pack finite)
  exact ⟨exists_value?_of_isFinite left, exists_value?_of_isFinite right⟩

theorem rounds_combineParts (kind : Joining) (left : value? x = some p) (right : value? y = some q) :
    Rounds (kind.join p q) (kind.combineParts x.toModel.unpack y.toModel.unpack) := by
  cases kind with
  | sum => exact rounds_add (fits_unpack _) (fits_unpack _) left right
  | product => exact rounds_mul (fits_unpack _) (fits_unpack _) left right

section Values

variable (left : value? x = some p) (right : value? y = some q)

include left right

theorem abs_rounded_lt_of_isFinite (finite : (kind.combine x y).isFinite = true) :
    |rounded (kind.join p q)| < 2 ^ 1024 := by
  obtain ⟨v, value⟩ := exists_value?_of_isFinite finite
  have place := place?_of_value? value
  rw [combine_eq, place?_pack (rounds_combineParts kind left right), Option.some.injEq] at place
  exact abs_rounded_lt_of_roundedPlace place

/-- A finite result is the number nearest to the exact one. -/
theorem value?_combine (finite : (kind.combine x y).isFinite = true) :
    value? (kind.combine x y) = some (rounded (kind.join p q)) := by
  have small := abs_rounded_lt_of_isFinite left right finite
  rw [combine_eq]
  exact value?_pack (rounds_combineParts kind left right) small

section Exactly

variable (number : IsBinary64 (kind.join p q))

include number

/-- A result that is one of binary64 is exact. -/
theorem value?_combine_of_exact : value? (kind.combine x y) = some (kind.join p q) := by
  have value := value?_pack (rounds_combineParts kind left right) number.abs_rounded_lt
  rwa [number.rounded_eq, ← combine_eq] at value

theorem unpack_combine : (kind.combine x y).toModel.unpack =
    kind.combineParts x.toModel.unpack y.toModel.unpack := by
  rw [combine_eq]
  exact unpack_pack ((rounds_combineParts kind left right).fits number.abs_rounded_lt)

end Exactly

end Values

/-- The sign that counts if the result is zero: that a sum is the negative zero, and that a product
has a minus. -/
def mark : Joining → UnpackedFloat → Bool
  | .sum, .zero .negative => true
  | .sum, _ => false
  | .product, u => hasMinus u

def mix : Joining → Bool → Bool → Bool
  | .sum, a, b => a && b
  | .product, a, b => a ^^ b

theorem mark_sum_of_meant (meant : meant? u = some q) (nonzero : q ≠ 0) : mark .sum u = false := by
  cases u with
  | infinity | notANumber | finite => rfl
  | zero => exact absurd (by simpa [meant?] using meant.symm) nonzero

theorem hasMinus_roundWithAccuracy (sign : Sign) (m : Nat) (e : ℤ) (accuracy : Accuracy) :
    hasMinus (roundWithAccuracy .binary64 sign m e accuracy) = hasMinus (.zero sign) := by
  unfold roundWithAccuracy
  dsimp only
  split
  · rfl
  · cases sign <;> rfl

theorem hasMinus_mul (s t : Sign) :
    hasMinus (.zero (s * t)) = (hasMinus (.zero s) ^^ hasMinus (.zero t)) := by
  cases s <;> cases t <;> rfl

/-- Only negative zeros add up to the negative zero. -/
theorem mark_add (left : value? x = some p) (right : value? y = some q)
    (number : IsBinary64 (p + q)) :
    mark .sum (.add .binary64 x.toModel.unpack y.toModel.unpack) =
      (mark .sum x.toModel.unpack && mark .sum y.toModel.unpack) := by
  have meant := (rounds_combineParts .sum left right).meant
  rw [join, number.rounded_eq, combineParts] at meant
  rcases unpack_of_value? left with ⟨s, taken, -⟩ | ⟨s, m, e, positive, taken, rfl⟩
  · rcases unpack_of_value? right with ⟨t, taken', -⟩ | ⟨t, n, f, positive', taken', -⟩
    · rw [taken, taken']
      cases s <;> cases t <;> rfl
    · rw [taken, taken']
      cases s <;> rfl
  · rcases unpack_of_value? right with ⟨t, taken', -⟩ | ⟨t, n, f, positive', taken', rfl⟩
    · rw [taken, taken']
      rfl
    · rw [taken, taken'] at meant ⊢
      by_cases zero : signed s (m * 2 ^ e) + signed t (n * 2 ^ f) = 0
      · -- What cancels out has no mantissa, and is taken for the positive zero.
        rw [← signed_add, mul_eq_zero, or_iff_left (by positivity), Int.cast_eq_zero] at zero
        simp only [UnpackedFloat.add, decreaseExponent_eq]
        rw [zero]
        rfl
      · exact mark_sum_of_meant meant zero

/-- Each factor with a minus turns the sign. -/
theorem mark_mul (left : value? x = some p) (right : value? y = some q) :
    mark .product (.mul .binary64 x.toModel.unpack y.toModel.unpack) =
      (mark .product x.toModel.unpack ^^ mark .product y.toModel.unpack) := by
  have signOf (s : Sign) (m e positive) : hasMinus (.finite s m e positive) = hasMinus (.zero s) := by
    cases s <;> rfl
  simp only [mark]
  rcases unpack_of_value? left with ⟨s, taken, -⟩ | ⟨s, m, e, positive, taken, -⟩
  · rcases unpack_of_value? right with ⟨t, taken', -⟩ | ⟨t, n, f, positive', taken', -⟩
    · rw [taken, taken']
      exact hasMinus_mul s t
    · rw [taken, taken', signOf]
      exact hasMinus_mul s t
  · rcases unpack_of_value? right with ⟨t, taken', -⟩ | ⟨t, n, f, positive', taken', -⟩
    · rw [taken, taken', signOf]
      exact hasMinus_mul s t
    · rw [taken, taken', signOf, signOf, ← hasMinus_mul]
      exact hasMinus_roundWithAccuracy _ _ _ _

/-- Marks are mixed in each exact step. -/
theorem mark_combine (left : value? x = some p) (right : value? y = some q)
    (number : IsBinary64 (kind.join p q)) :
    kind.mark (kind.combine x y).toModel.unpack =
      kind.mix (kind.mark x.toModel.unpack) (kind.mark y.toModel.unpack) := by
  rw [unpack_combine left right number]
  cases kind with
  | sum => exact mark_add left right number
  | product => exact mark_mul left right

theorem hasMinus_eq_mark (zero : value? x = some 0) :
    hasMinus x.toModel.unpack = kind.mark x.toModel.unpack := by
  obtain ⟨sign, taken⟩ := unpack_of_value?_zero zero
  rw [taken]
  cases kind <;> cases sign <;> rfl

/-- Results with the same value and the same mark are identical. -/
theorem eq_of_mark (left : value? x = some q) (right : value? y = some q)
    (same : kind.mark x.toModel.unpack = kind.mark y.toModel.unpack) : x = y := by
  refine eq_of_value? left right fun zero => ?_
  subst zero
  rw [hasMinus_eq_mark left, hasMinus_eq_mark right, same]

/-- The order in which marks are mixed does not matter. -/
theorem mix_perm (kind : Joining) {a b : Bool} {as bs : List Bool} (same : (a :: as).Perm (b :: bs)) :
    as.foldl kind.mix a = bs.foldl kind.mix b := by
  have comm : RightCommutative kind.mix := ⟨by cases kind <;> decide⟩
  obtain ⟨blank, neutral⟩ : ∃ blank, ∀ c, kind.mix blank c = c := by cases kind <;> decide
  have all := same.foldl_eq (f := kind.mix) blank
  rwa [List.foldl_cons, List.foldl_cons, neutral, neutral] at all

end Joining
end AuctionBudget.Number
