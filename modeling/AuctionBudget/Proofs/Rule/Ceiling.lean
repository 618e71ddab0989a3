import AuctionBudget.Proofs.Number.Order
import AuctionBudget.Proofs.Rule.Allowance
import AuctionBudget.Rule.Ceiling
import Mathlib.Order.Bounds.Basic

/-! # Ceilings are minima

The ceiling of a tier is the least of the budget and the allowances that apply to it, as long as all
of them are numbers. Budgets and allowances are.
-/

namespace AuctionBudget

open Number

/-- A budget in units is a number. -/
theorem Money.isNaN_units (amount : Money) : amount.units.isNaN = false :=
  isNaN_div (isNaN_ofInt _) Rule.value?_hundred (by norm_num)

namespace Rule

variable {held value budget : Float} {values : List Float}

/-- An allowance is a number, whatever it is made from. -/
theorem isNaN_remaining (threshold : Float) (operator : Operator) (total : Float) :
    (remaining threshold operator total).isNaN = false := by
  unfold remaining
  dsimp only
  split
  · next more => exact (isNaN_of_lt more).2
  · decide

theorem smaller_eq_or (held value : Float) : smaller held value = held ∨ smaller held value = value := by
  unfold smaller
  split
  · exact .inr rfl
  · exact .inl rfl

theorem isLeast_smaller (left : held.isNaN = false) (right : value.isNaN = false) :
    IsLeast {x | x = held ∨ x = value} (smaller held value) := by
  refine ⟨smaller_eq_or held value, ?_⟩
  unfold smaller
  rw [left, Bool.false_or]
  rintro x (rfl | rfl)
  · split
    · next less => exact Number.le_of_lt (of_decide_eq_true less)
    · exact Number.le_refl left
  · split
    · exact Number.le_refl right
    · next notLess => exact Number.le_of_not_lt right left fun less => notLess (decide_eq_true less)

/-- Taking the smaller one again and again finds the least. -/
theorem isLeast_foldl_smaller (number : budget.isNaN = false)
    (numbers : ∀ value ∈ values, value.isNaN = false) :
    IsLeast {x | x = budget ∨ x ∈ values} (values.foldl smaller budget) := by
  induction values generalizing budget with
  | nil => exact ⟨.inl rfl, by rintro x (rfl | ⟨⟨⟩⟩); exact Number.le_refl number⟩
  | cons value rest ih =>
      have valueNumber := numbers value List.mem_cons_self
      have restNumbers : ∀ x ∈ rest, x.isNaN = false := fun x member =>
        numbers x (List.mem_cons_of_mem _ member)
      obtain ⟨first, belowBoth⟩ := isLeast_smaller number valueNumber
      have heldNumber : (smaller budget value).isNaN = false := by
        rcases first with same | same <;> rwa [same]
      obtain ⟨found, below⟩ := ih heldNumber restNumbers
      have foundNumber : (rest.foldl smaller (smaller budget value)).isNaN = false := by
        rcases found with same | member
        · rwa [same]
        · exact restNumbers _ member
      rw [List.foldl_cons]
      constructor
      · rcases found with same | member
        · rw [same]
          exact first.imp_right fun same => by rw [same]; exact List.mem_cons_self
        · exact .inr (List.mem_cons_of_mem _ member)
      · have belowHeld := below (.inl rfl)
        rintro x (rfl | member)
        · exact Number.le_trans foundNumber heldNumber number belowHeld (belowBoth (.inl rfl))
        · rcases List.mem_cons.1 member with rfl | later
          · exact Number.le_trans foundNumber heldNumber valueNumber belowHeld (belowBoth (.inr rfl))
          · exact below (.inr later)

theorem mem_applicable {evaluated : List (Scope × Float)} {code : String} :
    value ∈ applicable evaluated code ↔
      ∃ scope, (scope, value) ∈ evaluated ∧ scope.appliesTo code = true := by
  simp only [applicable, List.mem_map, List.mem_filter]
  constructor
  · rintro ⟨⟨scope, value⟩, ⟨member, applies⟩, rfl⟩
    exact ⟨scope, member, applies⟩
  · rintro ⟨scope, member, applies⟩
    exact ⟨(scope, value), ⟨member, applies⟩, rfl⟩

/-- The ceiling of a tier is the least of the budget and the values that apply to it. -/
theorem isLeast_ceiling {evaluated : List (Scope × Float)} (number : budget.isNaN = false)
    (numbers : ∀ pair ∈ evaluated, pair.2.isNaN = false) (code : String) :
    IsLeast {x | x = budget ∨ ∃ scope, (scope, x) ∈ evaluated ∧ scope.appliesTo code = true}
      (ceiling budget evaluated code) := by
  have applied : ∀ value ∈ applicable evaluated code, value.isNaN = false := by
    intro value member
    obtain ⟨scope, there, -⟩ := mem_applicable.1 member
    exact numbers (scope, value) there
  have least : IsLeast {x | x = budget ∨ x ∈ applicable evaluated code}
      (ceiling budget evaluated code) := isLeast_foldl_smaller number applied
  simpa only [mem_applicable] using least

end Rule
end AuctionBudget
