import AuctionBudget.Proofs.Refusal
import AuctionBudget.Proofs.Rule.Ceiling
import Mathlib.Data.List.Perm.Subperm

/-! # Ceilings as greatest lower bounds

What a ceiling is made from is a set of values, the budget and the allowances that apply to the
tier. More values never raise it, and the order in which they come makes no difference to its
number: of two zeros with different signs either may be found, but they are equal. Allowances are
never negative, so between zero and the budget there is room for every ceiling.
-/

namespace AuctionBudget.Rule

variable {budget x : Float} {evaluated others : List (Scope × Float)} {codes : List String}
variable {code : String}

/-- A value whose scope covers a tier. -/
def Applies (evaluated : List (Scope × Float)) (code : String) (value : Float) : Prop :=
  ∃ scope, (scope, value) ∈ evaluated ∧ scope.appliesTo code = true

/-- None of the values is "not a number". -/
def Numbers (evaluated : List (Scope × Float)) : Prop :=
  ∀ pair ∈ evaluated, pair.2.isNaN = false

instance (evaluated : List (Scope × Float)) : Decidable (Numbers evaluated) :=
  inferInstanceAs (Decidable (∀ pair ∈ evaluated, pair.2.isNaN = false))

theorem mem_ceilings : (code, x) ∈ ceilings budget codes evaluated ↔
    code ∈ codes ∧ x = ceiling budget evaluated code := by
  simp only [ceilings, List.mem_map, Prod.mk.injEq]
  constructor
  · rintro ⟨_, member, rfl, rfl⟩
    exact ⟨member, rfl⟩
  · rintro ⟨member, rfl⟩
    exact ⟨code, member, rfl, rfl⟩

theorem isNaN_ceiling (number : budget.isNaN = false) (numbers : Numbers evaluated)
    (code : String) : (ceiling budget evaluated code).isNaN = false := by
  rcases (isLeast_ceiling number numbers code).1 with same | ⟨scope, member, -⟩
  · rwa [same]
  · exact numbers (scope, _) member

/-- A ceiling that is made from more values is not higher. -/
theorem ceiling_le_of_applies (number : budget.isNaN = false) (numbers : Numbers evaluated)
    (numbersToo : Numbers others)
    (more : ∀ value, Applies evaluated code value → Applies others code value) :
    ceiling budget others code ≤ ceiling budget evaluated code := by
  have lower := (isLeast_ceiling number numbersToo code).2
  rcases (isLeast_ceiling number numbers code).1 with same | applies
  · exact lower (.inl same)
  · exact lower (.inr (more _ applies))

/-- Ceilings that are made from the same values are equal numbers. -/
theorem ceiling_beq_of_applies (number : budget.isNaN = false) (numbers : Numbers evaluated)
    (numbersToo : Numbers others)
    (same : ∀ value, Applies others code value ↔ Applies evaluated code value) :
    (ceiling budget others code == ceiling budget evaluated code) = true :=
  Number.beq_of_le_of_le (isNaN_ceiling number numbersToo code)
    (isNaN_ceiling number numbers code)
    (ceiling_le_of_applies number numbers numbersToo fun value => (same value).2)
    (ceiling_le_of_applies number numbersToo numbers fun value => (same value).1)

/-- Only the entries that apply to a tier decide which values do. -/
theorem applies_iff_of_perm
    (same : (others.filter (·.1.appliesTo code)).Perm (evaluated.filter (·.1.appliesTo code)))
    (value : Float) : Applies others code value ↔ Applies evaluated code value := by
  have entries (scope : Scope) : (scope, value) ∈ others ∧ scope.appliesTo code = true ↔
      (scope, value) ∈ evaluated ∧ scope.appliesTo code = true := by
    simpa only [List.mem_filter] using same.mem_iff (a := (scope, value))
  simp only [Applies, entries]

/-- An allowance is at least zero, whatever it is made from. -/
theorem zero_le_remaining (threshold : Float) (operator : Operator) (total : Float) :
    0.0 ≤ remaining threshold operator total := by
  unfold remaining
  dsimp only
  split
  · next more => exact Number.le_of_lt more
  · exact Number.le_refl (by decide)

/-- What a rule evaluates to is an allowance under its threshold. -/
theorem evaluate_eq_ok {rule : Rule} {context : Context}
    (evaluates : rule.evaluate context = .ok x) : ∃ compiled total,
      rule.compile = .ok compiled ∧ compiled.total context = .ok total ∧
      x = remaining compiled.comparison.threshold compiled.comparison.operator total := by
  unfold evaluate at evaluates
  split at evaluates
  · cases evaluates
  obtain ⟨compiled, compiles, evaluates⟩ := bind_eq_ok.1 evaluates
  obtain ⟨total, totals, rfl⟩ := map_eq_ok.1 evaluates
  exact ⟨compiled, total, compiles, totals, rfl⟩

/-- The ceilings belong to the given codes, one each, and are the least of what applies: they do not
    depend on the order of the values nor on values for other tiers, fall if at all when a value is
    added, and lie between zero and the budget if the values are allowances. -/
theorem ceilings_isMinimum (number : budget.isNaN = false) (numbers : Numbers evaluated)
    (codes : List String) :
    (∀ code, (∃! x, (code, x) ∈ ceilings budget codes evaluated) ↔ code ∈ codes) ∧
    (∀ code x, (code, x) ∈ ceilings budget codes evaluated →
      x ≤ budget ∧ (∀ value, Applies evaluated code value → x ≤ value) ∧
      ((x == budget) = true ∨ ∃ value, Applies evaluated code value ∧ (x == value) = true)) ∧
    (∀ others, Numbers others → ∀ code x y, (code, x) ∈ ceilings budget codes evaluated →
      (code, y) ∈ ceilings budget codes others →
      ((others.filter (·.1.appliesTo code)).Perm (evaluated.filter (·.1.appliesTo code)) →
        (y == x) = true) ∧
      (evaluated.Subperm others → y ≤ x)) ∧
    (∀ threshold operator total, (remaining threshold operator total).isNaN = false ∧
      0.0 ≤ remaining threshold operator total) ∧
    (0.0 ≤ budget →
      (∀ pair ∈ evaluated, ∃ threshold operator total,
        pair.2 = remaining threshold operator total) →
      ∀ code x, (code, x) ∈ ceilings budget codes evaluated → 0.0 ≤ x ∧ x ≤ budget) := by
  refine ⟨fun code => ?_, ?_, ?_, ?_, ?_⟩
  · simp only [mem_ceilings]
    constructor
    · rintro ⟨_, ⟨member, -⟩, -⟩
      exact member
    · intro member
      exact ⟨_, ⟨member, rfl⟩, fun _ other => other.2⟩
  · intro code x found
    obtain ⟨-, rfl⟩ := mem_ceilings.1 found
    obtain ⟨made, lower⟩ := isLeast_ceiling number numbers code
    have self : (ceiling budget evaluated code == ceiling budget evaluated code) = true :=
      ceiling_beq_of_applies number numbers numbers fun _ => Iff.rfl
    refine ⟨lower (.inl rfl), fun value applies => lower (.inr applies), ?_⟩
    rcases made with same | applies
    · rw [same] at self ⊢
      exact .inl self
    · exact .inr ⟨_, applies, self⟩
  · intro others numbersToo code x y found foundToo
    obtain ⟨-, rfl⟩ := mem_ceilings.1 found
    obtain ⟨-, rfl⟩ := mem_ceilings.1 foundToo
    constructor
    · intro same
      exact ceiling_beq_of_applies number numbers numbersToo (applies_iff_of_perm same)
    · intro fewer
      refine ceiling_le_of_applies number numbers numbersToo fun value => ?_
      rintro ⟨scope, member, covers⟩
      exact ⟨scope, fewer.subset member, covers⟩
  · exact fun threshold operator total =>
      ⟨isNaN_remaining threshold operator total, zero_le_remaining threshold operator total⟩
  · intro positive allowances code x found
    obtain ⟨-, rfl⟩ := mem_ceilings.1 found
    obtain ⟨made, lower⟩ := isLeast_ceiling number numbers code
    refine ⟨?_, lower (.inl rfl)⟩
    rcases made with same | ⟨scope, member, -⟩
    · rwa [same]
    · obtain ⟨threshold, operator, total, same⟩ := allowances _ member
      change ceiling budget evaluated code = _ at same
      rw [same]
      exact zero_le_remaining threshold operator total

/-- Two zeros for `l1`, and no limit at all for `l2`. -/
def mixedValues : List (Scope × Float) :=
  [(.tiers ["l1", "l2"], 0.0), (.common, 44.01), (.tiers ["l1"], -0.0), (.tiers ["l2"], 1.0 / 0.0)]

/-- The order decides which of two zeros is found, and they are one number. -/
theorem ceilings_mixedValues : (50.0 : Float).isNaN = false ∧ Numbers mixedValues ∧
    Numbers mixedValues.reverse ∧
    ceiling 50.0 mixedValues.reverse "l1" ≠ ceiling 50.0 mixedValues "l1" ∧
    (ceiling 50.0 mixedValues.reverse "l1" == ceiling 50.0 mixedValues "l1") = true := by
  have number : (50.0 : Float).isNaN = false := by decide +kernel
  have numbers : Numbers mixedValues := by decide +kernel
  have reversed : Numbers mixedValues.reverse := by decide +kernel
  obtain ⟨-, -, order, -⟩ := ceilings_isMinimum number numbers ["l1"]
  have same := order mixedValues.reverse reversed "l1" (ceiling 50.0 mixedValues "l1")
    (ceiling 50.0 mixedValues.reverse "l1") (by simp [mem_ceilings]) (by simp [mem_ceilings])
  exact ⟨number, numbers, reversed, by decide +kernel,
    same.1 ((List.reverse_perm _).filter _)⟩

end AuctionBudget.Rule
