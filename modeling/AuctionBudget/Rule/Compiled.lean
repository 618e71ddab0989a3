import AuctionBudget.Expr.Eval
import AuctionBudget.Rule.Allowance
import AuctionBudget.Rule.Basic
import AuctionBudget.Rule.Path

/-! # Compiled rules

Compiling a rule replaces its shorthand, cuts the text at its comparison, puts the keys of map paths
into brackets and reads the left side as an expression. A compiled rule yields an allowance for any
context, or the fault of its arithmetic.
-/

namespace AuctionBudget

structure CompiledRule where
  comparison : Rule.Comparison
  expression : Expr
  deriving DecidableEq

namespace CompiledRule

/-- The tiers that the rule reads, ascending. -/
def referencedTiers (compiled : CompiledRule) : List String :=
  compiled.expression.referencedTiers

def total (compiled : CompiledRule) (context : Context) : Except Error Float :=
  compiled.expression.evaluate context

/-- What may still be spent under the rule. -/
def remaining (compiled : CompiledRule) (context : Context) : Except Error Float :=
  (compiled.total context).map
    (Rule.remaining compiled.comparison.threshold compiled.comparison.operator)

end CompiledRule

namespace Rule

def compile (rule : Rule) : Except Error CompiledRule := do
  if Text.isAllBlank rule.statement.toList then
    throw (.invalidInput s!"rule {rule.id.text} has an empty statement")
  let cut ← Comparison.parse (expand rule.shorthand rule.statement)
  let comparison := { cut with left := indexPaths rule.roots cut.left }
  let expression ← Expr.parse comparison.left
  return { comparison, expression }

/-- What may still be spent under an active rule. -/
def evaluate (rule : Rule) (context : Context) : Except Error Float := do
  if !rule.active then throw (.invalidInput s!"rule {rule.id.text} is inactive")
  let compiled ← rule.compile
  compiled.remaining context

end Rule
end AuctionBudget
