import AuctionBudget.Auction.Basic

/-! # Keeping the records

Adding and changing single records. A record is refused where its key is taken or where it refers to
a record that does not exist, and a change where there is nothing to change.
-/

namespace AuctionBudget.Auction

def addSeason? (db : Auction) (season : Season) : Option Auction :=
  if Table.has Season.id season.id db.seasons then none
  else some { db with seasons := db.seasons ++ [season] }

def setSeason? (db : Auction) (season : Season) : Option Auction :=
  if Table.has Season.id season.id db.seasons then
    some { db with seasons := Table.update Season.id season.id (fun _ => season) db.seasons }
  else none

def addTier? (db : Auction) (code : String) : Option Auction :=
  if db.tiers.contains code then none
  else some { db with tiers := db.tiers ++ [code] }

def addPlayer? (db : Auction) (player : Player) : Option Auction :=
  if db.tiers.contains player.tier && !Table.has Player.code player.code db.players then
    some { db with players := db.players ++ [player] }
  else none

def setPlayerTier? (db : Auction) (code tier : String) : Option Auction :=
  if db.tiers.contains tier && Table.has Player.code code db.players then
    some { db with players := Table.update Player.code code ({ · with tier }) db.players }
  else none

def addTeamSeason? (db : Auction) (teamSeason : TeamSeason) : Option Auction :=
  if Table.has Season.id teamSeason.season db.seasons &&
      !Table.has TeamSeason.id teamSeason.id db.teamSeasons &&
      !Table.has TeamSeason.code teamSeason.code db.teamSeasons then
    some { db with teamSeasons := db.teamSeasons ++ [teamSeason] }
  else none

def setTotals? (db : Auction) (id : Uuid) (totals : TeamTotals) : Option Auction :=
  if Table.has TeamSeason.id id db.teamSeasons then
    some { db with teamSeasons := Table.update TeamSeason.id id ({ · with totals }) db.teamSeasons }
  else none

def addRule? (db : Auction) (row : Rule.Row) : Option Auction :=
  if Table.has Season.id row.season db.seasons && !Table.has Rule.Row.id row.id db.rules then
    some { db with rules := db.rules ++ [row] }
  else none

/-- Add a roster entry, whatever its code. -/
def addEntry? (db : Auction) (entry : Entry) : Option Auction :=
  if Table.has Player.code entry.player db.players &&
      Table.has TeamSeason.id entry.teamSeason db.teamSeasons &&
      !Table.has Entry.code entry.code db.entries then
    some { db with entries := db.entries ++ [entry] }
  else none

end AuctionBudget.Auction
