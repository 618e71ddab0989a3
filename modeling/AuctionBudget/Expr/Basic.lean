import AuctionBudget.Ordered

/-! # Expressions

The left side of a rule: decimals, fields of a record (`team.totalPlayer`), fields of a tier
(`playerLevels[l1].totalPlayerCount`), negation and the four operations.
-/

namespace AuctionBudget

inductive BinaryOp where
  | add
  | sub
  | mul
  | div
  deriving DecidableEq

def BinaryOp.name : BinaryOp → String
  | .add => "Add"
  | .sub => "Sub"
  | .mul => "Mul"
  | .div => "Div"

/-- An expression over the data that rules see. -/
inductive Expr where
  | literal (value : Float)
  /-- `root.field` -/
  | field (root field : String)
  /-- `root[key].field` -/
  | lookup (root key field : String)
  | neg (inner : Expr)
  | binary (op : BinaryOp) (lhs rhs : Expr)
  deriving DecidableEq

namespace Expr

/-- The keys in the order in which they are read. -/
def keys : Expr → List String
  | .literal _ => []
  | .field _ _ => []
  | .lookup _ key _ => [key]
  | .neg inner => inner.keys
  | .binary _ lhs rhs => lhs.keys ++ rhs.keys

/-- The keys, each once and ascending: the tiers that an expression reads. -/
def referencedTiers (e : Expr) : List String :=
  Ordered.sortBy (fun a b => a ≤ b) e.keys.eraseDups

@[simp] theorem mem_referencedTiers {e : Expr} {key : String} :
    key ∈ e.referencedTiers ↔ key ∈ e.keys := by
  simp [referencedTiers]

end Expr
end AuctionBudget
