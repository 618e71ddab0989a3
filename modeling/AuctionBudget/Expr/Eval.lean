import AuctionBudget.Context
import AuctionBudget.Expr.Parser

/-! # The value of an expression

Operands are evaluated from left to right. Dividing by zero is refused, and so is every operation
whose result is not finite. Decimals and negations are taken as they are.
-/

namespace AuctionBudget.Expr

inductive EvalFault where
  | read (fault : ReadFault)
  | divisionByZero
  /-- An operation left the finite numbers. -/
  | overflow (op : BinaryOp)
  deriving DecidableEq

/-- The kind and wording of each fault: a name that cannot be read is a fault of the rule. -/
def EvalFault.toError : EvalFault → Error
  | .read fault => .malformedRule fault.message
  | .divisionByZero => .evaluation "division by zero"
  | .overflow op => .evaluation s!"arithmetic overflow in {op.name}"

/-- The result of an operation before it is looked at. -/
def rawResult (a b : Float) : BinaryOp → Float
  | .add => a + b
  | .sub => a - b
  | .mul => a * b
  | .div => a / b

def apply (op : BinaryOp) (a b : Float) : Except EvalFault Float :=
  if op = .div ∧ b == 0.0 then .error .divisionByZero
  else if (rawResult a b op).isFinite then .ok (rawResult a b op)
  else .error (.overflow op)

def eval (context : Context) : Expr → Except EvalFault Float
  | .literal value => .ok value
  | .field root name => (context.field root name).mapError .read
  | .lookup root key name => (context.lookup root key name).mapError .read
  | .neg inner => (inner.eval context).map (- ·)
  | .binary op lhs rhs => do
      let a ← lhs.eval context
      let b ← rhs.eval context
      apply op a b

def evaluate (e : Expr) (context : Context) : Except Error Float :=
  (e.eval context).mapError EvalFault.toError

end AuctionBudget.Expr
