import AuctionBudget.CommandLine.Command
import AuctionBudget.CommandLine.Report

/-! # Carrying out a command

A command that succeeds prints some lines and leaves some records. One that is refused prints
nothing and leaves the records as they were.
-/

namespace AuctionBudget.CommandLine

/-- What a command prints, and the records after it. `fresh` is the identifier of a rule that the
    command adds and `now` the time at which it does. -/
def Command.run (build : Build) (words : Rule.Words) (db : Auction) (fresh : Uuid) (now : Int) :
    Command → Except Error (List String × Auction)
  | .listRules => do
      let rules ← db.allRules words
      return (rules.map ruleLine, db)
  | .addRule draft => do
      let (id, saved) ← db.saveRule (draft.rule fresh now)
      return ([s!"created rule: {id.text}"], saved)
  | .evaluateRules season teamSeason tag => do
      let context ← db.evaluationContext teamSeason
      let rules ← db.rulesTagged words season tag
      return (rules.map fun rule => allowanceLine rule (rule.evaluate context), db)
  | .assign request => do
      let (entry, saved) ← db.saveEntry build request
      return ([s!"saved roster entry: {entry.code}"], saved)
  | .remove entry => do
      let remaining ← db.removeEntry build entry
      return ([s!"removed roster entry: {entry}"], remaining)
  | .recompute teamSeason => do
      let (tiers, recomputed) ← db.recompute build teamSeason
      return (tiers.map tierLine, recomputed)
  | .aggregates teamSeason => do
      let tiers ← db.tierAggregates teamSeason
      return (tiers.map tierLine, db)

end AuctionBudget.CommandLine
