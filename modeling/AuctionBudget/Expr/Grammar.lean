import AuctionBudget.Expr.Parser

/-! # The grammar of expressions

What it means that a list of tokens spells an expression, without saying how it is read. Chains of
operations nest to the left, `'+'` in front of an operand and parentheses add nothing to the tree.
-/

namespace AuctionBudget.Expr

/-- The four rules of the grammar, from the loosest to the tightest. -/
inductive Level where
  | sum
  | product
  | unary
  | primary
  deriving DecidableEq

/-- A list of tokens spells an expression by a rule of the grammar. -/
inductive Spells : Level → List Token → Expr → Prop where
  | term {ts e} : Spells .product ts e → Spells .sum ts e
  | sum {ts us lhs rhs token op} : Spells .sum ts lhs → token.additive? = some op →
      Spells .product us rhs → Spells .sum (ts ++ token :: us) (.binary op lhs rhs)
  | factor {ts e} : Spells .unary ts e → Spells .product ts e
  | product {ts us lhs rhs token op} : Spells .product ts lhs → token.multiplicative? = some op →
      Spells .unary us rhs → Spells .product (ts ++ token :: us) (.binary op lhs rhs)
  | minus {ts e} : Spells .unary ts e → Spells .unary (.minus :: ts) (.neg e)
  | plus {ts e} : Spells .unary ts e → Spells .unary (.plus :: ts) e
  | operand {ts e} : Spells .primary ts e → Spells .unary ts e
  | number {value} : Spells .primary [.number value] (.literal value)
  | parens {ts e} : Spells .sum ts e → Spells .primary (.lparen :: ts ++ [.rparen]) e
  | lookup {root key last} :
      Spells .primary [.ident root, .key key, .dot, .ident last] (.lookup root key last)
  | field {root last} : Spells .primary [.ident root, .dot, .ident last] (.field root last)

/-- No list of tokens that spells an expression is empty. -/
theorem Spells.ne_nil {level : Level} {ts : List Token} {e : Expr} (h : Spells level ts e) :
    ts ≠ [] := by
  induction h with
  | term _ ih | factor _ ih | operand _ ih => exact ih
  | sum | product | minus | plus | number | parens | lookup | field => simp

end AuctionBudget.Expr
