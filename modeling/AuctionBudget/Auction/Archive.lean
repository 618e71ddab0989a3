import AuctionBudget.Auction.Tables

/-! # Archives

The records of an auction as lines of text. Each line is a JSON array of strings: what kind of
record it is and then its fields. Records come after those they refer to, and reading keeps keys and
references intact.
-/

namespace AuctionBudget.Auction.Archive

def optionalField : Option String → String
  | none => ""
  | some s => "=" ++ s

def readOptional? (field : String) : Option (Option String) :=
  match field.toList with
  | [] => some none
  | '=' :: s => some (some (String.ofList s))
  | _ => none

def amountField (amount : Option Money) : String :=
  optionalField (amount.map fun amount => toString amount.cents)

def readMoney? (field : String) : Option Money :=
  (field.toInt?.filter (Money.InRange ·)).map Money.ofCents

def readCount? (field : String) : Option Int32 :=
  (field.toInt?.filter fun n => Int32.minValue.toInt ≤ n ∧ n ≤ Int32.maxValue.toInt).map Int32.ofInt

def readAmount? (field : String) : Option (Option Money) := do
  match ← readOptional? field with
  | none => return none
  | some cents => (readMoney? cents).map some

def truthField (b : Bool) : String :=
  if b then "yes" else "no"

def readTruth? : String → Option Bool
  | "yes" => some true
  | "no" => some false
  | _ => none

def seasonFields (season : Season) : List String :=
  let limits := season.limits
  ["season", season.id.text, toString limits.year, toString limits.budget.cents,
   toString limits.minAmount.cents, toString limits.maxPlayers, toString limits.maxRtm,
   toString limits.maxFree]

def playerFields (player : Player) : List String :=
  ["player", player.code, player.tier]

def teamSeasonFields (teamSeason : TeamSeason) : List String :=
  let totals := teamSeason.totals
  ["team-season", teamSeason.id.text, teamSeason.code, teamSeason.season.text,
   toString totals.spent.cents, toString totals.rtm, toString totals.free,
   toString totals.players]

def entryFields (entry : Entry) : List String :=
  ["entry", entry.code, entry.player, entry.teamSeason.text, amountField entry.amount,
   truthField entry.free, truthField entry.rtm]

def aggregateFields (row : AggregateRow) : List String :=
  let tier := row.aggregate
  ["aggregate", row.teamSeason.text, tier.code, toString tier.spent.cents, toString tier.players,
   amountField tier.ceiling]

def ruleFields (row : Rule.Row) : List String :=
  ["rule", row.id.text, row.season.text, row.tag, optionalField row.category,
   optionalField row.name, row.statement, optionalField row.shorthand, optionalField row.roots,
   truthField row.active, toString row.priority, toString row.created]

def fields (db : Auction) : List (List String) :=
  db.seasons.map seasonFields ++ db.tiers.map (fun code => ["tier", code]) ++
    db.players.map playerFields ++ db.teamSeasons.map teamSeasonFields ++
    db.entries.map entryFields ++ db.aggregates.map aggregateFields ++ db.rules.map ruleFields

def addAggregate? (db : Auction) (row : AggregateRow) : Option Auction :=
  if Table.has TeamSeason.id row.teamSeason db.teamSeasons &&
      db.tiers.contains row.aggregate.code &&
      !Table.has AggregateRow.key row.key db.aggregates then
    some { db with aggregates := db.aggregates ++ [row] }
  else none

/-- Add the record that some fields hold. -/
def addRecord? (db : Auction) : List String → Option Auction
  | ["season", id, year, budget, minAmount, maxPlayers, maxRtm, maxFree] => do
      db.addSeason? {
        id := ← Uuid.parse? id
        limits := {
          year := ← readCount? year
          budget := ← readMoney? budget
          minAmount := ← readMoney? minAmount
          maxPlayers := ← readCount? maxPlayers
          maxRtm := ← readCount? maxRtm
          maxFree := ← readCount? maxFree } }
  | ["tier", code] => db.addTier? code
  | ["player", code, tier] => db.addPlayer? { code, tier }
  | ["team-season", id, code, season, spent, rtm, free, players] => do
      db.addTeamSeason? {
        id := ← Uuid.parse? id
        code
        season := ← Uuid.parse? season
        totals := {
          spent := ← readMoney? spent
          rtm := ← readCount? rtm
          free := ← readCount? free
          players := ← readCount? players } }
  | ["entry", code, player, teamSeason, amount, free, rtm] => do
      db.addEntry? {
        code, player
        teamSeason := ← Uuid.parse? teamSeason
        amount := ← readAmount? amount
        free := ← readTruth? free
        rtm := ← readTruth? rtm }
  | ["aggregate", teamSeason, code, spent, players, ceiling] => do
      addAggregate? db {
        teamSeason := ← Uuid.parse? teamSeason
        aggregate := {
          code
          spent := ← readMoney? spent
          players := ← readCount? players
          ceiling := ← readAmount? ceiling } }
  | ["rule", id, season, tag, category, name, statement, shorthand, roots, active, priority,
      created] => do
      db.addRule? {
        id := ← Uuid.parse? id
        season := ← Uuid.parse? season
        tag
        category := ← readOptional? category
        name := ← readOptional? name
        statement
        shorthand := ← readOptional? shorthand
        roots := ← readOptional? roots
        active := ← readTruth? active
        priority := ← priority.toInt?
        created := ← created.toInt? }
  | _ => none

/-- The lines that hold all records. -/
def write (db : Auction) : List String :=
  (fields db).map fun record => String.ofList (Json.writeArray (record.map String.toList))

/-- The records that some lines hold. Blank lines hold none. -/
def read? (lines : List String) : Option Auction :=
  (lines.filter fun line => !Text.isAllBlank line.toList).foldlM (fun db line => do
    let record ← Json.readArray? line.toList
    addRecord? db (record.map String.ofList)) .empty

end AuctionBudget.Auction.Archive
