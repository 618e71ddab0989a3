import AuctionBudget.Auction.Tally

/-! # Records that fit together

Conditions on the records of an auction. In sound records every key is taken once and every
reference leads somewhere. In consistent records the stored view says what the roster says, which
takes rosters whose sums and counts can be stored. In records within the caps no team-season has more
entries than its season allows.
-/

namespace AuctionBudget.Auction

/-- Every key is taken once, and every reference leads to a record. -/
structure Sound (db : Auction) : Prop where
  seasonIds : (db.seasons.map Season.id).Nodup
  tiers : db.tiers.Nodup
  playerCodes : (db.players.map Player.code).Nodup
  teamSeasonIds : (db.teamSeasons.map TeamSeason.id).Nodup
  teamSeasonCodes : (db.teamSeasons.map TeamSeason.code).Nodup
  entryCodes : (db.entries.map Entry.code).Nodup
  aggregateKeys : (db.aggregates.map AggregateRow.key).Nodup
  ruleIds : (db.rules.map Rule.Row.id).Nodup
  playerTier : ∀ player ∈ db.players, player.tier ∈ db.tiers
  teamSeasonSeason : ∀ teamSeason ∈ db.teamSeasons, (db.season? teamSeason.season).isSome
  entryPlayer : ∀ entry ∈ db.entries, (db.player? entry.player).isSome
  entryTeamSeason : ∀ entry ∈ db.entries, (db.teamSeason? entry.teamSeason).isSome
  aggregateTeamSeason : ∀ row ∈ db.aggregates, (db.teamSeason? row.teamSeason).isSome
  aggregateTier : ∀ row ∈ db.aggregates, row.aggregate.code ∈ db.tiers
  ruleSeason : ∀ row ∈ db.rules, (db.season? row.season).isSome

/-- Every entry has the code of its own player and team-season. -/
def OwnCodes (db : Auction) : Prop :=
  ∀ entry ∈ db.entries, ∃ teamSeason, db.teamSeason? entry.teamSeason = some teamSeason ∧
    entry.code = entryCode entry.player teamSeason.code

/-- Different pairs of a player and a team-season have different entry codes. -/
def DistinctCodes (db : Auction) : Prop :=
  ∀ p ∈ db.players, ∀ q ∈ db.players, ∀ s ∈ db.teamSeasons, ∀ t ∈ db.teamSeasons,
    entryCode p.code s.code = entryCode q.code t.code → p.code = q.code ∧ s.code = t.code

/-- Of some entries those whose player belongs to a tier now. -/
def ofTier (db : Auction) (tier : String) (entries : List Entry) : List Entry :=
  entries.filter fun entry => (db.player? entry.player).any fun player => player.tier = tier

/-- The entries of a team-season whose player belongs to a tier now. -/
def tierRoster (db : Auction) (teamSeason : Uuid) (tier : String) : List Entry :=
  db.ofTier tier (db.roster teamSeason)

/-- What some entries cost together, in cents. -/
def amountOf (entries : List Entry) : Int :=
  entries.foldr (fun entry rest => entry.price.cents + rest) 0

/-- The sums and counts over some entries are in the ranges of what is stored. -/
def Fits (entries : List Entry) : Prop :=
  Money.InRange (amountOf entries) ∧ (entries.length : Int) ≤ Int32.maxValue.toInt

instance (entries : List Entry) : Decidable (Fits entries) :=
  inferInstanceAs (Decidable (_ ∧ _))

/-- However far the entries of a team-season are counted, all sums and counts fit. -/
def Countable (db : Auction) (teamSeason : Uuid) : Prop :=
  ∀ seen, seen <+: db.roster teamSeason → Fits seen ∧ ∀ tier, Fits (db.ofTier tier seen)

/-- The stored totals of a team-season are the sums and counts over its roster. -/
def TotalsAgree (db : Auction) (teamSeason : TeamSeason) : Prop :=
  let roster := db.roster teamSeason.id
  teamSeason.totals.spent.cents = amountOf roster ∧
    teamSeason.totals.rtm.toInt = roster.countP (·.rtm) ∧
    teamSeason.totals.free.toInt = roster.countP (·.free) ∧
    teamSeason.totals.players.toInt = roster.length

/-- A stored aggregate has the sum and the count over the roster of its tier. -/
def AggregateAgrees (db : Auction) (row : AggregateRow) : Prop :=
  let roster := db.tierRoster row.teamSeason row.aggregate.code
  row.aggregate.spent.cents = amountOf roster ∧ row.aggregate.players.toInt = roster.length

/-- What the stored view is to say of the rosters can be stored. -/
structure Representable (db : Auction) : Prop where
  totals : ∀ teamSeason ∈ db.teamSeasons, Fits (db.roster teamSeason.id)
  aggregates : ∀ row ∈ db.aggregates, Fits (db.tierRoster row.teamSeason row.aggregate.code)

/-- The stored view says what the roster says: the totals agree, and a team-season has either no
    aggregates or one for every tier, which agree. -/
structure Consistent (db : Auction) : Prop where
  totals : ∀ teamSeason ∈ db.teamSeasons, db.TotalsAgree teamSeason
  aggregates : ∀ row ∈ db.aggregates, db.AggregateAgrees row
  tiers : ∀ teamSeason ∈ db.teamSeasons,
    let stored := (db.aggregates.filter (·.teamSeason = teamSeason.id)).map (·.aggregate.code)
    stored = [] ∨ stored.Perm db.tiers
  codes : db.OwnCodes

/-- Every team-season, counted on its roster, keeps the caps of its season. -/
def WithinCaps (db : Auction) : Prop :=
  ∀ teamSeason ∈ db.teamSeasons, ∀ season, db.season? teamSeason.season = some season →
    let roster := db.roster teamSeason.id
    (roster.length : Int) ≤ season.limits.maxPlayers.toInt ∧
      (roster.countP (·.rtm) : Int) ≤ season.limits.maxRtm.toInt ∧
      (roster.countP (·.free) : Int) ≤ season.limits.maxFree.toInt

end AuctionBudget.Auction
