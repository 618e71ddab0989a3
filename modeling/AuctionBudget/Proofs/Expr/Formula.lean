import AuctionBudget.Expr.Eval
import AuctionBudget.Rule.Path

/-! # Formulas

The left side of a rule as its author thinks of it: decimals as they are written, fields that exist,
and a plus in front of an operand. Its value in a context is the value of its expression.
-/

namespace AuctionBudget

/-- A field that a record has. -/
structure KnownField {α : Type} (reader? : String → Option (α → Float)) where
  name : String
  read : α → Float
  known : reader? name = some read

/-- The value of a field. A missing record reads as zero. -/
def KnownField.of {α : Type} {reader? : String → Option (α → Float)} (field : KnownField reader?)
    (record : Option α) : Float :=
  (record.map field.read).getD 0.0

inductive Formula where
  /-- A decimal by the digits before and behind its point. -/
  | decimal (whole fraction : List Char)
  | team (field : KnownField TeamTotals.reader?)
  | season (field : KnownField SeasonLimits.reader?)
  | tier (code : String) (field : KnownField TierAggregate.reader?)
  | plus (inner : Formula)
  | minus (inner : Formula)
  | binary (op : BinaryOp) (lhs rhs : Formula)

namespace Formula

def expr : Formula → Expr
  | .decimal whole fraction => .literal (Number.ofDigits whole fraction)
  | .team field => .field "team" field.name
  | .season field => .field "season" field.name
  | .tier code field => .lookup Rule.tierRoot code field.name
  | .plus inner => inner.expr
  | .minus inner => .neg inner.expr
  | .binary op lhs rhs => .binary op lhs.expr rhs.expr

/-- What a formula is worth in a context. -/
def value (context : Context) : Formula → Except Expr.EvalFault Float
  | .decimal whole fraction => .ok (Number.ofDigits whole fraction)
  | .team field => .ok (field.of context.team)
  | .season field => .ok (field.of context.season)
  | .tier code field => .ok (field.of (context.tier? code))
  | .plus inner => inner.value context
  | .minus inner => (inner.value context).map (- ·)
  | .binary op lhs rhs => do
      let a ← lhs.value context
      let b ← rhs.value context
      Expr.apply op a b

end Formula
end AuctionBudget
