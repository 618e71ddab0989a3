import AuctionBudget.Auction.Snapshot
import AuctionBudget.Auction.Transaction
import AuctionBudget.Rule.Compiled
import AuctionBudget.Timestamp

/-! # The stored rules

Rules are kept per identifier. They are read ascending by season, priority and time of creation, in
the order in which times are kept. Where they are selected by season and tag, only active ones
count. A rule is saved only if its text compiles.
-/

namespace AuctionBudget.Auction

/-- The order of the rules of one season. -/
def ruleBefore (a b : Rule.Row) : Bool :=
  a.priority < b.priority || (a.priority = b.priority && Timestamp.precedes a.created b.created)

/-- The order of all rules. -/
def ruleBeforeInAll (a b : Rule.Row) : Bool :=
  a.season.toNat < b.season.toNat || (a.season = b.season && ruleBefore a b)

/-- The rows of the active rules of a season with a tag, in order. -/
def activeRows (db : Auction) (season : Uuid) (tag : String) : List Rule.Row :=
  Ordered.sortBy ruleBefore <|
    db.rules.filter fun row => row.season = season ∧ row.tag = tag ∧ row.active

/-- Every rule, active or not, in order. -/
def allRules (words : Rule.Words) (db : Auction) : Except Error (List Rule) :=
  (Ordered.sortBy ruleBeforeInAll db.rules).mapM (Rule.Row.rule words)

/-- The active rules of a season with a tag, in order. -/
def rulesTagged (words : Rule.Words) (db : Auction) (season : Uuid) (tag : String) :
    Except Error (List Rule) := do
  let tag ← requireCode "rule context" tag
  (db.activeRows season tag).mapM (Rule.Row.rule words)

/-- The allowances of the active rules of a season with a tag, in order. The first failing rule
    refuses them all. -/
def evaluateRules (words : Rule.Words) (db : Auction) (season : Uuid) (tag : String)
    (context : Context) : Except Error (List Float) := do
  let rules ← db.rulesTagged words season tag
  rules.mapM (·.evaluate context)

/-- Save a rule, in place of one with the same identifier. -/
def keepRule (rule : Rule) : Session Uuid := do
  let tag ← requireCode "rule context" rule.tag
  let rule := { rule with tag }
  let _ ← rule.compile
  Session.transact do
    let _ ← (← get).requireSeason rule.season
    modify fun db => { db with rules := Table.upsert Rule.Row.id (.encode rule) db.rules }
    return rule.id

/-- What a save of a rule answers and leaves. -/
def saveRule (db : Auction) (rule : Rule) : Except Error (Uuid × Auction) :=
  (keepRule rule).outcome db

end AuctionBudget.Auction
