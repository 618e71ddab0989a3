import AuctionBudget.Auction.History
import AuctionBudget.Auction.Integrity
import AuctionBudget.Expr.Grammar
import AuctionBudget.Main
import AuctionBudget.Schema.Migration
import AuctionBudget.Proofs.Auction.Codes
import AuctionBudget.Proofs.Auction.Consistency
import AuctionBudget.Proofs.Auction.Caps
import AuctionBudget.Proofs.Auction.Rebuilt
import AuctionBudget.Proofs.Auction.Allowances
import AuctionBudget.Proofs.Auction.Isolation
import AuctionBudget.Proofs.Auction.Reevaluation
import AuctionBudget.Proofs.Auction.Cache
import AuctionBudget.Proofs.Number.Nearest
import AuctionBudget.Proofs.Number.Unpacked
import AuctionBudget.Proofs.Number.Residue
import AuctionBudget.Proofs.Number.Arithmetic
import AuctionBudget.Proofs.Number.Value
import AuctionBudget.Proofs.Number.Near
import AuctionBudget.Proofs.Number.Order
import AuctionBudget.Proofs.Number.Whole
import AuctionBudget.Proofs.Number.Decimal
import AuctionBudget.Proofs.Rule.Allowance
import AuctionBudget.Proofs.Rule.Ceiling
import AuctionBudget.Proofs.Rule.Minimum
import AuctionBudget.Proofs.Expr.Completeness
import AuctionBudget.Proofs.Expr.Soundness
import AuctionBudget.Proofs.Expr.Formula
import AuctionBudget.Proofs.Expr.Reading
import AuctionBudget.Proofs.Rule.Comparison
import AuctionBudget.Proofs.Rule.Cut
import AuctionBudget.Proofs.Rule.SingleComparison
import AuctionBudget.Proofs.Rule.ReportedTiers
import AuctionBudget.Proofs.Rule.Reindexing
import AuctionBudget.Proofs.Rule.Compiled
import AuctionBudget.Proofs.Auction.Outcome
import AuctionBudget.Proofs.Auction.Owner
import AuctionBudget.Proofs.Json.RoundTrip
import AuctionBudget.Proofs.Rule.Stored
import AuctionBudget.Proofs.Expr.Names
import AuctionBudget.Proofs.Auction.SavedRule
import AuctionBudget.Proofs.Auction.Commute
import AuctionBudget.Proofs.Auction.RuleStore
import AuctionBudget.Proofs.Auction.Budget
import AuctionBudget.Proofs.Rule.Overflow
import AuctionBudget.Proofs.Auction.Assigned
import AuctionBudget.Proofs.Rule.Idempotence
import AuctionBudget.Proofs.Money.Text
import AuctionBudget.Proofs.Number.Identity
import AuctionBudget.Proofs.Number.Joining
import AuctionBudget.Proofs.Number.Combine
import AuctionBudget.Proofs.Expr.Chain
