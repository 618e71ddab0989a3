import AuctionBudget.Auction.Basic

/-! # Counting a roster

One pass over the entries of a team-season counts what was spent, the players, and how many of them
were free or bought by right to match; and for every tier that comes up what was spent on how many
players. Missing amounts count as nothing.
-/

namespace AuctionBudget

def Entry.price (entry : Entry) : Money :=
  entry.amount.getD 0

namespace TeamTotals

def zero : TeamTotals := ⟨0, 0, 0, 0⟩

def count (build : Build) (totals : TeamTotals) (entry : Entry) : Except Error TeamTotals := do
  let spent ← totals.spent.add build entry.price
  let players ← build.next totals.players
  let free ← build.nextIf entry.free totals.free
  let rtm ← build.nextIf entry.rtm totals.rtm
  return { spent, rtm, free, players }

end TeamTotals

namespace TierAggregate

def zero (code : String) : TierAggregate := ⟨code, 0, 0, none⟩

def count (build : Build) (tier : TierAggregate) (entry : Entry) : Except Error TierAggregate := do
  let spent ← tier.spent.add build entry.price
  let players ← build.next tier.players
  return { tier with spent, players }

end TierAggregate

/-- What is counted of a roster: the totals, and the aggregates of the tiers that came up. -/
structure RosterTotals where
  team : TeamTotals
  tiers : List TierAggregate
  deriving DecidableEq

namespace RosterTotals

def zero : RosterTotals := ⟨.zero, []⟩

/-- The aggregate of a tier, which is zero for one that did not come up. -/
def tier (totals : RosterTotals) (code : String) : TierAggregate :=
  (Table.find? TierAggregate.code code totals.tiers).getD (.zero code)

/-- Count an entry, which comes with the tier of its player. -/
def count (build : Build) (totals : RosterTotals) (line : Entry × String) :
    Except Error RosterTotals := do
  let tier ← (totals.tier line.2).count build line.1
  let team ← totals.team.count build line.1
  return { team, tiers := Table.upsert TierAggregate.code tier totals.tiers }

def ofLines (build : Build) (lines : List (Entry × String)) : Except Error RosterTotals :=
  lines.foldlM (count build) zero

end RosterTotals

/-- The roster of a team-season, each entry with the tier its player belongs to now. -/
def Auction.rosterLines (db : Auction) (teamSeason : Uuid) :
    Except Error (List (Entry × String)) :=
  (db.roster teamSeason).mapM fun entry => do
    let player ← Auction.required s!"player of roster entry {entry.code}" (db.player? entry.player)
    return (entry, player.tier)

end AuctionBudget
