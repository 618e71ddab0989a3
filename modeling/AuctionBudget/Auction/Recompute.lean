import AuctionBudget.Auction.Rulebook
import AuctionBudget.Auction.Tally
import AuctionBudget.Auction.Transaction
import AuctionBudget.Rule.Ceiling

/-! # Recomputing a team-season

A pass counts the roster of a team-season, stores the totals, lets the season's next-bid rules turn
the fresh numbers into a ceiling per tier, and stores one aggregate for every tier, in the place of
the one that is there already. Rules that fail are left out. While the rules are evaluated, a tier
still shows the ceiling of the pass before.
-/

namespace AuctionBudget.Auction

def tierCodes (db : Auction) : List String :=
  Ordered.sortBy (fun a b => a ≤ b) db.tiers

/-- The context of a pass: fresh numbers and the ceilings that are stored. -/
def passContext (db : Auction) (teamSeason : Uuid) (totals : RosterTotals)
    (limits : SeasonLimits) : Context where
  team := some totals.team
  season := some limits
  tiers := db.tierCodes.map fun code =>
    { totals.tier code with ceiling := db.storedCeiling? teamSeason code }

/-- The scope and allowance of a stored rule, unless it fails. -/
def scopedAllowance? (context : Context) (row : Rule.Row) : Option (Rule.Scope × Float) := do
  let rule ← row.decode.toOption
  let compiled ← rule.compile.toOption
  let allowance ← (compiled.remaining context).toOption
  return (rule.scope compiled, allowance)

/-- The scopes and allowances of the season's next-bid rules. -/
def nextBidAllowances (db : Auction) (season : Uuid) (context : Context) :
    List (Rule.Scope × Float) :=
  (db.activeRows season Rule.nextBidTag).filterMap (scopedAllowance? context)

def storeTotals (db : Auction) (teamSeason : Uuid) (totals : TeamTotals) : Auction :=
  { db with
    teamSeasons := Table.update TeamSeason.id teamSeason ({ · with totals }) db.teamSeasons }

/-- Store the aggregate of a tier, in the place of an older one. -/
def storeAggregate (teamSeason : Uuid) (db : Auction) (tier : TierAggregate) : Auction :=
  { db with aggregates := Table.upsert AggregateRow.key ⟨teamSeason, tier⟩ db.aggregates }

/-- Rebuild the totals, aggregates and ceilings of a team-season from its roster. -/
def pass (build : Build) (teamSeason : Uuid) : Steps (List TierAggregate) := do
  let found ← (← get).requireTeamSeason teamSeason
  let season ← (← get).requireSeason found.season
  let lines ← (← get).rosterLines teamSeason
  let totals ← RosterTotals.ofLines build lines
  modify (·.storeTotals teamSeason totals.team)
  let context := (← get).passContext teamSeason totals season.limits
  let allowances := (← get).nextBidAllowances season.id context
  let tiers := (← get).tierCodes.map fun code =>
    { totals.tier code with
      ceiling := some (.ofUnits (Rule.ceiling season.limits.budget.units allowances code)) }
  modify (tiers.foldl (storeAggregate teamSeason))
  return tiers

/-- What a recomputation of a team-season answers and leaves. -/
def recompute (build : Build) (db : Auction) (teamSeason : Uuid) :
    Except Error (List TierAggregate × Auction) :=
  (Session.transact (pass build teamSeason)).outcome db

end AuctionBudget.Auction
