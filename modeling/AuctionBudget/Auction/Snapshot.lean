import AuctionBudget.Auction.Basic

/-! # Reading the stored view

What is stored about a team-season, and the context that rules see, built from nothing but stored
numbers.
-/

namespace AuctionBudget.Auction

/-- The stored aggregates of a team-season, ascending by tier. -/
def storedAggregates (db : Auction) (teamSeason : Uuid) : List TierAggregate :=
  Ordered.sortBy (fun a b => a.code ≤ b.code) <|
    (db.aggregates.filter (·.teamSeason = teamSeason)).map (·.aggregate)

def storedCeiling? (db : Auction) (teamSeason : Uuid) (tier : String) : Option Money :=
  (db.aggregates.find? fun row => row.teamSeason = teamSeason ∧ row.aggregate.code = tier).bind
    (·.aggregate.ceiling)

/-- The stored aggregates of an existing team-season. -/
def tierAggregates (db : Auction) (teamSeason : Uuid) : Except Error (List TierAggregate) := do
  let _ ← db.requireTeamSeason teamSeason
  return db.storedAggregates teamSeason

/-- The context that rules see for a team-season. -/
def evaluationContext (db : Auction) (teamSeason : Uuid) : Except Error Context := do
  let found ← db.requireTeamSeason teamSeason
  let season ← db.requireSeason found.season
  return (db.storedAggregates teamSeason).foldl .withTier
    { team := some found.totals, season := some season.limits, tiers := [] }

end AuctionBudget.Auction
