import AuctionBudget.Context
import AuctionBudget.Rule.Row
import AuctionBudget.Table

/-! # Auctions

The records of an auction. Teams take part in seasons; a team in a season buys players, each of whom
belongs to a tier. The roster entries are the source of truth. The totals of a team-season and its
aggregates per tier are a view of them that is stored.
-/

namespace AuctionBudget

structure Season where
  id : Uuid
  limits : SeasonLimits
  deriving DecidableEq

/-- A player, who belongs to one tier. -/
structure Player where
  code : String
  tier : String
  deriving DecidableEq

structure TeamSeason where
  id : Uuid
  code : String
  season : Uuid
  totals : TeamTotals
  deriving DecidableEq

/-- Which player a team-season bought, and for how much. -/
structure Entry where
  code : String
  player : String
  teamSeason : Uuid
  /-- Missing for entries recorded without an amount. -/
  amount : Option Money
  free : Bool
  rtm : Bool
  deriving DecidableEq

/-- The stored aggregate of a tier in a team-season. -/
structure AggregateRow where
  teamSeason : Uuid
  aggregate : TierAggregate
  deriving DecidableEq

/-- What a stored aggregate is told apart by. -/
def AggregateRow.key (row : AggregateRow) : Uuid × String :=
  (row.teamSeason, row.aggregate.code)

structure Auction where
  seasons : List Season
  /-- The codes of the tiers. -/
  tiers : List String
  players : List Player
  teamSeasons : List TeamSeason
  entries : List Entry
  aggregates : List AggregateRow
  rules : List Rule.Row
  deriving DecidableEq

/-- The code of an entry: the code of its player and then that of its team-season. -/
def entryCode (player teamSeason : String) : String :=
  player ++ teamSeason

namespace Auction

def empty : Auction := ⟨[], [], [], [], [], [], []⟩

def season? (db : Auction) (id : Uuid) : Option Season :=
  Table.find? Season.id id db.seasons

def player? (db : Auction) (code : String) : Option Player :=
  Table.find? Player.code code db.players

def teamSeason? (db : Auction) (id : Uuid) : Option TeamSeason :=
  Table.find? TeamSeason.id id db.teamSeasons

def teamSeasonCoded? (db : Auction) (code : String) : Option TeamSeason :=
  Table.find? TeamSeason.code code db.teamSeasons

def entry? (db : Auction) (code : String) : Option Entry :=
  Table.find? Entry.code code db.entries

def roster (db : Auction) (teamSeason : Uuid) : List Entry :=
  db.entries.filter (·.teamSeason = teamSeason)

/-- The record that was looked up, or the refusal that names what is missing. -/
def required (missing : String) (found : Option α) : Except Error α :=
  match found with
  | some record => .ok record
  | none => .error (.keyNotFound missing)

def requireSeason (db : Auction) (id : Uuid) : Except Error Season :=
  required "season not exists" (db.season? id)

def requireTeamSeason (db : Auction) (id : Uuid) : Except Error TeamSeason :=
  required "team season not exists" (db.teamSeason? id)

def requireTeamSeasonCoded (db : Auction) (code : String) : Except Error TeamSeason :=
  required s!"team season {code}" (db.teamSeasonCoded? code)

def requirePlayer (db : Auction) (code : String) : Except Error Player :=
  required s!"player {code}" (db.player? code)

def requireEntry (db : Auction) (code : String) : Except Error Entry :=
  required s!"roster entry {code}" (db.entry? code)

/-- A code without the blanks around it, which must not be all of it. -/
def requireCode (label source : String) : Except Error String :=
  if Text.isAllBlank source.toList then .error (.invalidInput s!"{label} must not be empty")
  else .ok (Text.trimmed source)

end Auction
end AuctionBudget
