import AuctionBudget.Proofs.Auction.Allowances
import AuctionBudget.Proofs.Rule.Ceiling

/-! # Evaluating after a pass

After a pass the context of a team-season is read back from what is stored. It tells rules the same
numbers as the context of the pass did, but for the ceilings, which are new. So a rule that reads no
ceiling has the value that the pass used.
-/

namespace AuctionBudget

namespace Rule

variable {row : Row} {rule : Rule} {context : Context}

/-- The rule of an active row is evaluated when it is compiled and its arithmetic succeeds. -/
theorem evaluate_eq_ok_iff {allowance : Float} (decodes : row.decode = .ok rule)
    (active : row.active = true) : rule.evaluate context = .ok allowance ↔
      ∃ compiled, rule.compile = .ok compiled ∧ compiled.remaining context = .ok allowance := by
  have compiled : rule.evaluate context = rule.compile >>= (·.remaining context) := by
    rw [evaluate, Row.active_of_decode decodes, active]
    rfl
  rw [compiled, bind_eq_ok]

end Rule

namespace Auction

open Rule (Row)

variable {build : Build} {db after : Auction} {teamSeason : TeamSeason} {season : Season}
variable {row : Row} {rule : Rule} {tiers : List TierAggregate} {id : Uuid} {context : Context}

/-- The context that a pass leaves to be read back. -/
def readContext (db : Auction) (id : Uuid) (season : Season) : Context :=
  (db.freshTiers id season).foldl .withTier
    { team := some (tally (db.roster id)), season := some season.limits, tiers := [] }

theorem Pass.evaluationContext (pass : Pass db teamSeason season after) :
    after.evaluationContext teamSeason.id = .ok (db.readContext teamSeason.id season) := by
  simp only [Auction.evaluationContext, requireTeamSeason, pass.counted, requireSeason, required,
    bind, Except.bind, pure, Except.pure, pass.seasonKept, pass.storedAggregates]
  rfl

theorem storedCeiling?_eq (db : Auction) (id : Uuid) (code : String) : db.storedCeiling? id code =
    (Table.find? TierAggregate.code code (db.aggregatesOf id)).bind (·.ceiling) := by
  rw [storedCeiling?, aggregatesOf, Table.find?, List.find?_map, List.find?_filter,
    Option.bind_map]
  simp

/-- The values that limit a tier: the budget of the season, and what the next-bid rules that apply to
    the tier evaluate to. -/
def LimitsTier (db : Auction) (season : Season) (context : Context) (code : String) (x : Float) :
    Prop :=
  x = season.limits.budget.units ∨
    ∃ row ∈ db.activeRows season.id Rule.nextBidTag, ∃ rule compiled,
      row.decode = .ok rule ∧ rule.compile = .ok compiled ∧
      (rule.scope compiled).appliesTo code = true ∧ rule.evaluate context = .ok x

theorem limitsTier_iff {code : String} {x : Float} : db.LimitsTier season context code x ↔
    x = season.limits.budget.units ∨
      ∃ scope, (∃ row ∈ db.activeRows season.id Rule.nextBidTag,
        scopedAllowance? context row = some (scope, x)) ∧ scope.appliesTo code = true := by
  refine or_congr_right ?_
  constructor
  · rintro ⟨row, member, rule, compiled, decodes, compiles, applies, value⟩
    obtain ⟨other, same, left⟩ :=
      (Rule.evaluate_eq_ok_iff decodes (mem_activeRows.1 member).2.2.2).1 value
    cases compiles.symm.trans same
    exact ⟨_, ⟨row, member, scopedAllowance?_eq_some_iff.2
      ⟨rule, compiled, decodes, compiles, left, rfl⟩⟩, applies⟩
  · rintro ⟨scope, ⟨row, member, yields⟩, applies⟩
    obtain ⟨rule, compiled, decodes, compiles, left, rfl⟩ := scopedAllowance?_eq_some_iff.1 yields
    exact ⟨row, member, rule, compiled, decodes, compiles, applies,
      (Rule.evaluate_eq_ok_iff decodes (mem_activeRows.1 member).2.2.2).2 ⟨compiled, compiles, left⟩⟩

/-- What a pass stores is the least of the budget and the values of the rules that apply. -/
theorem isLeast_passCeiling (db : Auction) (id : Uuid) (season : Season) (code : String) :
    IsLeast {x | db.LimitsTier season (db.ruleContext id season) code x}
      (Rule.ceiling season.limits.budget.units (db.passAllowances id season) code) := by
  have numbers : ∀ pair ∈ db.passAllowances id season, pair.2.isNaN = false := by
    rintro ⟨scope, allowance⟩ member
    obtain ⟨row, -, yields⟩ := List.mem_filterMap.1 member
    obtain ⟨rule, compiled, -, -, left, -⟩ := scopedAllowance?_eq_some_iff.1 yields
    obtain ⟨total, -, rfl⟩ := map_eq_ok.1 left
    exact Rule.isNaN_remaining _ _ _
  have least := Rule.isLeast_ceiling season.limits.budget.isNaN_units numbers code
  simpa only [limitsTier_iff, passAllowances_eq, List.mem_filterMap] using least

theorem Pass.storedCeiling? (sound : Sound db) (pass : Pass db teamSeason season after) {code : String}
    (known : code ∈ db.tiers) : after.storedCeiling? teamSeason.id code =
      some (.ofUnits (Rule.ceiling season.limits.budget.units
        (db.passAllowances teamSeason.id season) code)) := by
  have distinct := nodup_code_freshTiers sound teamSeason.id season
  rw [storedCeiling?_eq, Table.find?_perm pass.stored distinct, find?_freshTiers, if_pos known]
  rfl

end Auction
end AuctionBudget
