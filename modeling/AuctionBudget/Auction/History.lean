import AuctionBudget.Auction.Roster

/-! # Histories

What happens to an auction over time: saves, removals and recomputations, one after another. An
operation that fails is rolled back.
-/

namespace AuctionBudget.Auction

inductive Operation where
  | save (request : Assignment)
  | remove (code : String)
  | recompute (teamSeason : Uuid)
  deriving DecidableEq

inductive Answer where
  | saved (entry : Entry)
  | removed
  | recomputed (tiers : List TierAggregate)
  deriving DecidableEq

namespace Operation

def session (build : Build) : Operation → Session Answer
  | .save request => .saved <$> Auction.save build request
  | .remove code => (fun _ => .removed) <$> Auction.remove build code
  | .recompute teamSeason => .recomputed <$> Session.transact (pass build teamSeason)

/-- The answer of an operation with the records that it leaves, or why it fails. -/
def outcome (build : Build) (db : Auction) (operation : Operation) :
    Except Error (Answer × Auction) :=
  (operation.session build).outcome db

/-- The answer of an operation, or why it fails. -/
def answer (build : Build) (db : Auction) (operation : Operation) : Except Error Answer :=
  ((operation.session build).call db).1

/-- The records after an operation, whether it fails or not. -/
def perform (build : Build) (db : Auction) (operation : Operation) : Auction :=
  ((operation.session build).call db).2

end Operation

def runAll (build : Build) (db : Auction) (operations : List Operation) : Auction :=
  operations.foldl (Operation.perform build) db

end AuctionBudget.Auction
