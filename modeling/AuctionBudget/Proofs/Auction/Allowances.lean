import AuctionBudget.Proofs.Auction.Rebuilt
import AuctionBudget.Proofs.Expr.Reading
import AuctionBudget.Proofs.Rule.Compiled
import AuctionBudget.Proofs.Rule.Stored

/-! # What rules see in a pass

The rules of a pass see the fresh numbers of the roster, and under every tier the ceiling that was
stored before. A row yields an allowance when its rule is decoded, compiled and evaluated, and it has
a say in the ceilings of the tiers in its scope.
-/

namespace AuctionBudget

namespace Rule

variable {row : Row} {rule : Rule} {compiled : CompiledRule}

theorem Row.active_of_decode (decoded : row.decode = .ok rule) : rule.active = row.active := by
  unfold Row.decode at decoded
  split at decoded
  · split at decoded
    · cases decoded
      rfl
    · cases decoded
  · cases decoded

/-- The keys under which the rule of a row reads ceilings. -/
def Row.ceilingKeys (row : Row) : List String :=
  match row.decode.toOption.bind fun rule => rule.compile.toOption with
  | some compiled => compiled.expression.ceilingKeys
  | none => []

theorem Row.ceilingKeys_eq (decoded : row.decode = .ok rule) (compiles : rule.compile = .ok compiled) :
    row.ceilingKeys = compiled.expression.ceilingKeys := by
  simp only [ceilingKeys, decoded, compiles, Except.toOption, Option.bind_some]

/-- The tiers that the rule of a row applies to. -/
def Row.AppliesTo (row : Row) (code : String) : Prop :=
  ∃ rule compiled, row.decode = .ok rule ∧ rule.compile = .ok compiled ∧
    (rule.scope compiled).appliesTo code = true

end Rule

namespace Auction

open Rule (Row Scope)

variable {db : Auction} {id : Uuid} {season : Season} {row : Row} {context c d : Context}
variable {scope : Scope} {allowance : Float} {code : String}

theorem mem_activeRows {tag : String} : row ∈ db.activeRows id tag ↔
    row ∈ db.rules ∧ row.season = id ∧ row.tag = tag ∧ row.active := by
  simp [activeRows]

/-- A row yields an allowance when its rule is decoded, compiled and evaluated. -/
theorem scopedAllowance?_eq_some_iff : scopedAllowance? context row = some (scope, allowance) ↔
    ∃ rule compiled, row.decode = .ok rule ∧ rule.compile = .ok compiled ∧
      compiled.remaining context = .ok allowance ∧ rule.scope compiled = scope := by
  simp only [scopedAllowance?, Option.bind_eq_bind, Option.bind_eq_some_iff, toOption_eq_some_iff,
    Option.pure_def, Option.some.injEq, Prod.mk.injEq]
  constructor
  · rintro ⟨rule, decodes, compiled, compiles, value, evaluates, scope, rfl⟩
    exact ⟨rule, compiled, decodes, compiles, evaluates, scope⟩
  · rintro ⟨rule, compiled, decodes, compiles, evaluates, scope⟩
    exact ⟨rule, decodes, compiled, compiles, allowance, evaluates, scope, rfl⟩

/-- A row yields the same in two contexts that differ only in ceilings that it does not read. -/
theorem scopedAllowance?_congr (team : c.team = d.team) (season : c.season = d.season)
    (counts : ∀ key, c.counts key = d.counts key)
    (ceilings : ∀ key ∈ row.ceilingKeys, c.ceilingAt key = d.ceilingAt key) :
    scopedAllowance? c row = scopedAllowance? d row := by
  refine Option.ext fun ⟨scope, allowance⟩ => ?_
  rw [scopedAllowance?_eq_some_iff, scopedAllowance?_eq_some_iff]
  refine exists_congr fun rule => exists_congr fun compiled => ?_
  refine and_congr_right fun decoded => and_congr_right fun compiles => ?_
  rw [Row.ceilingKeys_eq decoded compiles] at ceilings
  rw [CompiledRule.remaining_congr ⟨team, season, fun key _ => counts key, ceilings⟩]

/-- The allowance that a row yields for a tier, if its scope has the tier. -/
def allowanceFor? (context : Context) (code : String) (row : Row) : Option Float :=
  ((scopedAllowance? context row).filter (·.1.appliesTo code)).map (·.2)

theorem allowanceFor?_eq_some_iff : allowanceFor? context code row = some allowance ↔
    ∃ scope, scopedAllowance? context row = some (scope, allowance) ∧ scope.appliesTo code = true := by
  simp [allowanceFor?, Option.filter_eq_some_iff]

theorem applicable_filterMap (rows : List Row) :
    Rule.applicable (rows.filterMap (scopedAllowance? context)) code =
      rows.filterMap (allowanceFor? context code) := by
  induction rows with
  | nil => rfl
  | cons row rest ih =>
      rw [Rule.applicable] at ih ⊢
      cases yields : scopedAllowance? context row with
      | none => simp [yields, allowanceFor?, ih]
      | some pair =>
          by_cases applies : pair.1.appliesTo code = true <;>
            simp [yields, allowanceFor?, Option.filter, applies, ih]

theorem tier?_ruleContext (db : Auction) (id : Uuid) (season : Season) (code : String) :
    (db.ruleContext id season).tier? code =
      if code ∈ db.tiers then
        some { tierCount code (db.tierRoster id code) with ceiling := db.storedCeiling? id code }
      else none := by
  rw [Context.tier?, ruleContext]
  simp only [← mem_tierCodes]
  exact Table.find?_map_keyed TierAggregate.code (fun _ => rfl) code db.tierCodes

/-- No entry and no stored ceiling belongs to an unknown tier. -/
theorem tierRoster_eq_nil (sound : Sound db) (unknown : code ∉ db.tiers) :
    db.tierRoster id code = [] := by
  rw [tierRoster_eq sound, List.filter_eq_nil_iff]
  intro entry member there
  have here : db.tierOf entry = code := by simpa using there
  exact unknown (here ▸ tierOf_mem sound (roster_subset member))

theorem storedCeiling?_eq_none (sound : Sound db) (unknown : code ∉ db.tiers) :
    db.storedCeiling? id code = none := by
  have missing : db.aggregates.find? (fun row => row.teamSeason = id ∧ row.aggregate.code = code) =
      none := by
    refine List.find?_eq_none.2 fun row member there => unknown ?_
    have here : row.teamSeason = id ∧ row.aggregate.code = code := by simpa using there
    exact here.2 ▸ sound.aggregateTier row member
  rw [storedCeiling?, missing]
  rfl

/-- Rules see the numbers of the roster. -/
theorem counts_ruleContext (sound : Sound db) (id : Uuid) (season : Season) (key : String) :
    (db.ruleContext id season).counts key = headCount (db.tierRoster id key) := by
  rw [Context.counts, tier?_ruleContext]
  by_cases known : key ∈ db.tiers
  · simp [known, tierCount]
  · rw [if_neg known, tierRoster_eq_nil sound known]
    rfl

/-- Rules see the ceilings of the pass before. -/
theorem ceilingAt_ruleContext (sound : Sound db) (id : Uuid) (season : Season) (key : String) :
    (db.ruleContext id season).ceilingAt key = (db.storedCeiling? id key).getD 0 := by
  rw [Context.ceilingAt, tier?_ruleContext]
  by_cases known : key ∈ db.tiers
  · simp [known]
  · simp [known, storedCeiling?_eq_none sound known]

theorem passAllowances_eq (db : Auction) (id : Uuid) (season : Season) :
    db.passAllowances id season = (db.activeRows season.id Rule.nextBidTag).filterMap
      (scopedAllowance? (db.ruleContext id season)) :=
  rfl

@[simp] theorem find?_freshTiers (db : Auction) (id : Uuid) (season : Season) (code : String) :
    Table.find? TierAggregate.code code (db.freshTiers id season) =
      if code ∈ db.tiers then some (db.freshTier id season code) else none := by
  simpa [freshTiers] using Table.find?_map_keyed TierAggregate.code
    (f := db.freshTier id season) (fun _ => rfl) code db.tierCodes

/-- Passes agree on a tier when they count the same entries and its rules yield the same. -/
theorem freshTier_congr {other : Auction}
    (same : other.tierRoster id code = db.tierRoster id code)
    (yields : (other.activeRows season.id Rule.nextBidTag).filterMap
        (allowanceFor? (other.ruleContext id season) code) =
      (db.activeRows season.id Rule.nextBidTag).filterMap
        (allowanceFor? (db.ruleContext id season) code)) :
    other.freshTier id season code = db.freshTier id season code := by
  simp only [freshTier, Rule.ceiling, passAllowances_eq, applicable_filterMap, same, yields]

end Auction

namespace Rule

open Text

variable {rule : Rule}

/-- A rule that keeps a field of the tier `l1` at 90 or below. -/
def limiting (field : String) : Rule where
  id := .ofNat 1
  season := .ofNat 1
  tag := nextBidTag
  category := none
  name := none
  statement := "playerLevels.l1." ++ field ++ " <= 90"
  shorthand := .empty
  roots := []
  active := true
  priority := 0
  created := 0

theorem parse_limiting (field : KnownField TierAggregate.reader?) :
    Expr.parse ("playerLevels[l1]." ++ field.name) = .ok (.lookup tierRoot "l1" field.name) := by
  have bracketed : TierName.Bracketed (.indexed [] ['l', '1']) :=
    .indexed ⟨by decide, by decide⟩ List.mem_cons_self
  have operand := @Operand.tier TierName.Bracketed _ field bracketed
  refine parse_of_writes (f := .tier "l1" field) ?_
  rw [String.toList_append]
  exact .term (.factor (.primary (.operand operand)))

theorem compile_limiting {field : KnownField TierAggregate.reader?}
    (either : field = spentField ∨ field = ceilingField) :
    (limiting field.name).compile = .ok {
      comparison := ⟨"playerLevels[l1]." ++ field.name, .atMost, 90.0⟩
      expression := .lookup tierRoot "l1" field.name } := by
  have written : isAllBlank (limiting field.name).statement.toList = false := by
    rcases either with rfl | rfl <;> decide +kernel
  have parses : Comparison.parse (expand (limiting field.name).shorthand
      (limiting field.name).statement) =
        .ok ⟨"playerLevels.l1." ++ field.name, .atMost, 90.0⟩ := by
    rcases either with rfl | rfl <;> decide +kernel
  have path : indexPaths (limiting field.name).roots ("playerLevels.l1." ++ field.name) =
      "playerLevels[l1]." ++ field.name := by
    rcases either with rfl | rfl <;> decide +kernel
  exact compile_eq_ok written parses path (parse_limiting field)

theorem ceilingKeys_limiting_spent :
    (Row.encode (limiting spentField.name)).ceilingKeys = [] := by
  rw [Row.ceilingKeys_eq (Row.decode_encode _) (compile_limiting (.inl rfl))]
  rfl

end Rule
end AuctionBudget
