import AuctionBudget.Rule.Shorthand
import AuctionBudget.Uuid

/-! # Rules

A budget rule belongs to a season. Its tag says where it is used, its statement is one comparison
written with shorthand.
-/

namespace AuctionBudget

structure Rule where
  id : Uuid
  season : Uuid
  /-- Where the rule is used. -/
  tag : String
  category : Option String
  name : Option String
  /-- One comparison, such as `l1.totalAmountSpent + l2.totalAmountSpent <= 100`. -/
  statement : String
  shorthand : Rule.Shorthand
  /-- The roots whose first segment is a key. -/
  roots : List String
  active : Bool
  priority : Int
  /-- Nanoseconds since the start of 1970. -/
  created : Int
  deriving DecidableEq

/-- The tag of the rules that drive the next-bid ceilings. -/
def Rule.nextBidTag : String := "next_bid_budget"

/-- The category of the rules that apply to every tier. -/
def Rule.commonCategory : String := "common"

end AuctionBudget
