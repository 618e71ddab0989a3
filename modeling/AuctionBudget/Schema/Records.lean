import AuctionBudget.Schema.Relation

/-! # The relations of an auction

Seasons and teams meet in team-seasons. Players belong to a tier and are bought by team-seasons in
roster entries. Aggregates per tier and the budget rules of a season complete the records.
-/

namespace AuctionBudget.Schema

def seasons : Relation where
  name := "seasons"
  columns :=
    [.identifier, .code, .needed "year", .counter "min_player_amount", .needed "budget_limit",
     .needed "max_players_allowed", .needed "max_rtm_allowed", .needed "max_free_allowed",
     .flag "is_auction_completed" false]

def teams : Relation where
  name := "teams"
  columns := [.identifier, .code, .needed "name"]

/-- A team takes part in a season at most once. -/
def teamSeasons : Relation where
  name := "team_seasons"
  columns :=
    [.identifier, .code, .needed "team_id", .needed "season_id", .counter "total_amount_spent",
     .counter "total_rtm_used", .counter "total_free_used", .counter "total_player",
     .flag "is_rtm_eligible" false]
  references := [⟨"team_id", "teams", .cascade⟩, ⟨"season_id", "seasons", .cascade⟩]
  indexes := [⟨"idx-team_seasons-team_id-season_id-unique", ["team_id", "season_id"], true⟩]

def playerLevels : Relation where
  name := "player_levels"
  columns := [.identifier, .code, .needed "name"]

def players : Relation where
  name := "players"
  columns :=
    [.identifier, .code, .needed "name", .needed "player_level_id", .flag "is_active" true]
  references := [⟨"player_level_id", "player_levels", .refuse⟩]

def rosterEntries : Relation where
  name := "roster_entries"
  columns :=
    [.identifier, .code, .needed "player_id", .needed "team_season_id", .optional "sold_amount",
     .flag "is_free" false, .flag "is_rtm_used" false]
  references :=
    [⟨"player_id", "players", .refuse⟩, ⟨"team_season_id", "team_seasons", .cascade⟩]
  indexes := [⟨"idx-roster_entries-team_season_id", ["team_season_id"], false⟩]

/-- A team-season has at most one aggregate per tier. -/
def levelAggregates : Relation where
  name := "level_aggregates"
  columns :=
    [.identifier, .needed "team_season_id", .needed "player_level_id",
     .counter "total_amount_spent", .counter "total_player_count", .optional "next_player_budget",
     .needed "updated_at"]
  references :=
    [⟨"team_season_id", "team_seasons", .cascade⟩,
     ⟨"player_level_id", "player_levels", .cascade⟩]
  indexes :=
    [⟨"idx-level_aggregates-team_season_id-player_level_id-unique",
      ["team_season_id", "player_level_id"], true⟩]

def rules : Relation where
  name := "rules"
  columns :=
    [.identifier, .needed "season_id", .needed "context", .optional "rule_category",
     .optional "rule_name", .needed "rule_statement", .optional "notation_map",
     .optional "map_names", .flag "is_active" true, .counter "priority", .needed "created_at"]
  references := [⟨"season_id", "seasons", .cascade⟩]
  indexes := [⟨"idx-rules-season_id-context", ["season_id", "context"], false⟩]

/-- All relations; each refers only to ones before it. -/
def records : List Relation :=
  [seasons, teams, teamSeasons, playerLevels, players, rosterEntries, levelAggregates, rules]

end AuctionBudget.Schema
