import AuctionBudget.Proofs.Auction.Reevaluation
import AuctionBudget.Proofs.Rule.Minimum
import AuctionBudget.Proofs.Rule.Units

/-! # The budget as a ceiling

The ceilings of a pass start from the budget of the season, which goes to units and back on the way.
What comes back is what a tier without rules gets, and no tier gets more. It is the budget itself up
to `2 ^ 45` units. From there on it may be another amount, and a larger one.
-/

namespace AuctionBudget.Auction

variable {build : Build} {db after : Auction} {id : Uuid} {teamSeason : TeamSeason} {season : Season}
variable {tiers : List TierAggregate} {code : String}

/-- No next-bid rule of the season yields an allowance for the tier. -/
def Unruled (db : Auction) (id : Uuid) (season : Season) (code : String) : Prop :=
  ∀ row ∈ db.activeRows season.id Rule.nextBidTag,
    allowanceFor? (db.ruleContext id season) code row = none

/-- A tier without rules has the budget for its ceiling. -/
theorem ceiling_of_unruled (unruled : db.Unruled id season code) :
    Rule.ceiling season.limits.budget.units (db.passAllowances id season) code =
      season.limits.budget.units := by
  have nothing : Rule.applicable (db.passAllowances id season) code = [] := by
    rw [passAllowances_eq, applicable_filterMap]
    exact List.filterMap_eq_nil_iff.2 unruled
  rw [Rule.ceiling, nothing, List.foldl_nil]

/-- No ceiling is more than what becomes of the budget. -/
theorem cents_ceiling_le (db : Auction) (id : Uuid) (season : Season) (code : String) :
    (Money.ofUnits (Rule.ceiling season.limits.budget.units (db.passAllowances id season)
      code)).cents ≤ season.limits.budget.carried.cents := by
  obtain ⟨u, budget, small⟩ := season.limits.budget.exists_value?_units
  obtain ⟨made, least⟩ := db.isLeast_passCeiling id season code
  have below := least (.inl rfl)
  rcases made with same | ⟨row, -, rule, compiled, -, -, -, value⟩
  · rw [same, Money.carried]
  · -- An allowance is not negative, so that it has a value next to the budget.
    obtain ⟨compiled, total, -, -, allowance⟩ := Rule.evaluate_eq_ok value
    have number := Rule.isNaN_remaining compiled.comparison.threshold
      compiled.comparison.operator total
    have above := Rule.zero_le_remaining compiled.comparison.threshold
      compiled.comparison.operator total
    rw [← allowance] at number above
    obtain ⟨v, left⟩ := Number.exists_value?_of_le_of_le number above below Number.value?_zero budget
    have positive := (Number.le_iff Number.value?_zero left).1 above
    have le := (Number.le_iff left budget).1 below
    rw [abs_lt] at small
    refine Money.ofUnits_mono left budget ?_ ?_ le
    · rw [abs_lt]
      constructor <;> linarith
    · rwa [abs_lt]

/-- Every tier has a ceiling after a pass, which is no more than an amount, and just that where no
    rules limit the tier. -/
def CappedBy (db after : Auction) (id : Uuid) (season : Season) (amount : Money) : Prop :=
  ∀ code ∈ db.tiers, ∃ ceiling, after.storedCeiling? id code = some ceiling ∧
    ceiling.cents ≤ amount.cents ∧ (db.Unruled id season code → ceiling = amount)

/-- A pass caps every tier by what becomes of the budget. Where some tier has no rules, the budget
    caps them all just when it comes back as it is, which it does below `2 ^ 45` units. -/
theorem recompute_cappedBy (sound : Sound db) (found : db.teamSeason? id = some teamSeason)
    (seasonFound : db.season? teamSeason.season = some season)
    (answered : db.recompute build id = .ok (tiers, after)) :
    CappedBy db after id season season.limits.budget.carried ∧
      ((∃ code ∈ db.tiers, db.Unruled id season code) →
        (CappedBy db after id season season.limits.budget ↔
          season.limits.budget.carried = season.limits.budget)) ∧
      (|season.limits.budget.cents| < 100 * 2 ^ 45 →
        CappedBy db after id season season.limits.budget) := by
  obtain ⟨teamSeason', season', rfl, pass, -⟩ := exists_pass_of_recompute sound answered
  obtain rfl : teamSeason' = teamSeason := Option.some.inj (pass.found.symm.trans found)
  obtain rfl : season' = season := Option.some.inj (pass.seasonFound.symm.trans seasonFound)
  have capped : CappedBy db after teamSeason'.id season' season'.limits.budget.carried := by
    intro code known
    refine ⟨_, pass.storedCeiling? sound known, cents_ceiling_le db _ _ code, fun unruled => ?_⟩
    rw [ceiling_of_unruled unruled, Money.carried]
  refine ⟨capped, ?_, fun small => ?_⟩
  · rintro ⟨code, known, unruled⟩
    constructor
    · intro byBudget
      obtain ⟨ceiling, stored, -, isCarried⟩ := capped code known
      obtain ⟨other, same, -, isBudget⟩ := byBudget code known
      obtain rfl : ceiling = other := Option.some.inj (stored.symm.trans same)
      rw [← isCarried unruled, isBudget unruled]
    · intro same
      rwa [same] at capped
  · rwa [Money.carried_eq small] at capped

theorem recompute_cappedBy_outdated : Sound outdated ∧ ∃ teamSeason season tiers after,
    outdated.teamSeason? (.ofNat 1) = some teamSeason ∧
    outdated.season? teamSeason.season = some season ∧
    outdated.recompute .checked (.ofNat 1) = .ok (tiers, after) ∧
    CappedBy outdated after (.ofNat 1) season ⟨10000⟩ := by
  have sound : Sound outdated := by constructor <;> decide
  obtain ⟨tiers, after, answered⟩ := exists_recompute sound
    (by decide : (outdated.teamSeason? (.ofNat 1)).isSome) (computes_outdated .checked)
  obtain ⟨-, -, small⟩ := recompute_cappedBy sound rfl rfl answered
  exact ⟨sound, _, _, tiers, after, rfl, rfl, answered, small (by decide)⟩

/-- One tier without rules, and a budget of a little more than `2 ^ 45` units. -/
def lavish : Auction where
  seasons := [{
    id := .ofNat 1
    limits :=
      { year := 2025, budget := ⟨3518437208883202⟩, minAmount := ⟨200⟩, maxPlayers := 5, maxRtm := 5,
        maxFree := 5 } }]
  tiers := ["l1"]
  players := []
  teamSeasons := [⟨.ofNat 1, "x", .ofNat 1, .zero⟩]
  entries := []
  aggregates := []
  rules := []

/-- Its tier gets a cent more than the budget. -/
theorem storedCeiling_lavish : Sound lavish ∧
    ∃ season tiers after, lavish.season? (.ofNat 1) = some season ∧
      season.limits.budget = ⟨3518437208883202⟩ ∧ lavish.Unruled (.ofNat 1) season "l1" ∧
      lavish.recompute .release (.ofNat 1) = .ok (tiers, after) ∧
      after.storedCeiling? (.ofNat 1) "l1" = some ⟨3518437208883203⟩ := by
  have sound : Sound lavish := by constructor <;> decide
  have member : ⟨.ofNat 1, "x", .ofNat 1, .zero⟩ ∈ lavish.teamSeasons := by decide
  obtain ⟨season, after, pass⟩ := exists_pass sound member
  obtain rfl : _ = season := Option.some.inj pass.seasonFound
  have unruled (season : Season) : lavish.Unruled (.ofNat 1) season "l1" := fun row active =>
    absurd (mem_activeRows.1 active).1 List.not_mem_nil
  have carried : (Money.mk 3518437208883202).carried = ⟨3518437208883203⟩ := by decide +kernel
  refine ⟨sound, _, _, after, rfl, rfl, unruled _, pass.answer (computes_release _ _), ?_⟩
  rw [pass.storedCeiling? sound (by decide), ceiling_of_unruled (unruled _)]
  exact congrArg some carried

end AuctionBudget.Auction
