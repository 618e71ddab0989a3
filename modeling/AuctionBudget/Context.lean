import AuctionBudget.Error
import AuctionBudget.Money

/-! # What rules see

A rule is evaluated against a snapshot of one team-season: the totals of the team, the limits of the
season, and per tier what was spent on how many players. The names that rules can read are fixed.
A missing record, a missing tier and a ceiling that was never set read as zero; an unknown name is
refused.
-/

namespace AuctionBudget

/-- Spending and head count of one tier of players. -/
structure TierAggregate where
  code : String
  spent : Money
  players : Int32
  /-- The next-bid ceiling, once it was set. -/
  ceiling : Option Money
  deriving DecidableEq

/-- Running totals of a team in a season. -/
structure TeamTotals where
  spent : Money
  /-- Players bought by right to match. -/
  rtm : Int32
  free : Int32
  players : Int32
  deriving DecidableEq

/-- What a season allows every team. -/
structure SeasonLimits where
  year : Int32
  budget : Money
  minAmount : Money
  maxPlayers : Int32
  maxRtm : Int32
  maxFree : Int32
  deriving DecidableEq

/-- The snapshot that rules are evaluated against. No two tiers have one code. -/
structure Context where
  team : Option TeamTotals
  season : Option SeasonLimits
  tiers : List TierAggregate
  deriving DecidableEq

inductive ReadFault where
  | unknownRoot (root : String)
  | unknownField (root field : String)
  /-- A map was read without a key. -/
  | keyExpected (root field : String)
  /-- A record was read with a key. -/
  | notAMap (root : String)
  deriving DecidableEq

def ReadFault.message : ReadFault → String
  | .unknownRoot root => s!"unknown root `{root}`"
  | .unknownField root field => s!"unknown field `{field}` on `{root}`"
  | .keyExpected root field => s!"`{root}` is a map and needs an indexed key before `.{field}`"
  | .notAMap root => s!"`{root}` is not a map and cannot be indexed"

def TeamTotals.reader? : String → Option (TeamTotals → Float)
  | "totalAmountSpent" => some (·.spent.units)
  | "totalRtmUsed" => some (Number.ofInt ·.rtm.toInt)
  | "totalFreeUsed" => some (Number.ofInt ·.free.toInt)
  | "totalPlayer" => some (Number.ofInt ·.players.toInt)
  | _ => none

def SeasonLimits.reader? : String → Option (SeasonLimits → Float)
  | "year" => some (Number.ofInt ·.year.toInt)
  | "budgetLimit" => some (·.budget.units)
  | "minPlayerAmount" => some (·.minAmount.units)
  | "maxPlayersAllowed" => some (Number.ofInt ·.maxPlayers.toInt)
  | "maxRtmAllowed" => some (Number.ofInt ·.maxRtm.toInt)
  | "maxFreeAllowed" => some (Number.ofInt ·.maxFree.toInt)
  | _ => none

def TierAggregate.reader? : String → Option (TierAggregate → Float)
  | "totalAmountSpent" => some (·.spent.units)
  | "totalPlayerCount" => some (Number.ofInt ·.players.toInt)
  | "nextPlayerBudget" => some fun tier => (tier.ceiling.map Money.units).getD 0.0
  | _ => none

namespace Context

def empty : Context := ⟨none, none, []⟩

def tier? (context : Context) (code : String) : Option TierAggregate :=
  context.tiers.find? (·.code = code)

/-- Add a tier, in place of one with the same code. -/
def withTier (context : Context) (tier : TierAggregate) : Context :=
  { context with tiers := context.tiers.filter (·.code ≠ tier.code) ++ [tier] }

/-- Read a field of a record that may be missing. -/
def readRecord (root field : String) (reader? : String → Option (α → Float)) (record : Option α) :
    Except ReadFault Float :=
  match reader? field with
  | none => .error (.unknownField root field)
  | some read => .ok ((record.map read).getD 0.0)

/-- Read `root.field`. -/
def field (context : Context) (root field : String) : Except ReadFault Float :=
  match root with
  | "team" => readRecord root field TeamTotals.reader? context.team
  | "season" => readRecord root field SeasonLimits.reader? context.season
  | "playerLevels" => .error (.keyExpected root field)
  | _ => .error (.unknownRoot root)

/-- Read `root[key].field`. -/
def lookup (context : Context) (root key field : String) : Except ReadFault Float :=
  match root with
  | "playerLevels" => readRecord root field TierAggregate.reader? (context.tier? key)
  | "team" | "season" => .error (.notAMap root)
  | _ => .error (.unknownRoot root)

/-- Adding a tier sets what is read under its code. -/
theorem tier?_withTier (context : Context) (tier : TierAggregate) (code : String) :
    (context.withTier tier).tier? code = if code = tier.code then some tier
      else context.tier? code := by
  simp only [tier?, withTier, List.find?_append, List.find?_filter]
  by_cases same : code = tier.code
  · subst same
    have removed : context.tiers.find? (fun _ => false) = none := List.find?_eq_none.2 (by simp)
    simp [removed]
  · have kept : (fun t : TierAggregate => decide (t.code ≠ tier.code ∧ t.code = code)) =
        fun t => decide (t.code = code) := by
      funext t
      by_cases h : t.code = code
      · simp [h, same]
      · simp [h]
    simp_all [Ne.symm same]

end Context
end AuctionBudget
