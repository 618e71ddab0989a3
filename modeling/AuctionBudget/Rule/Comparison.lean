import AuctionBudget.Error
import AuctionBudget.Number.Binary64
import AuctionBudget.Text.Blank
import AuctionBudget.Text.Cut
import AuctionBudget.Text.Numeric

/-! # Comparisons

A rule is one comparison: an expression, an operator between blanks, and a plain decimal as
threshold. The operators are looked for one after another, each in the whole text, so that `<=`
anywhere goes before `<`. `=` is another spelling of `==`.
-/

namespace AuctionBudget.Rule

/-- How a total is compared with a threshold. -/
inductive Operator where
  | atMost
  | atLeast
  | less
  | greater
  | equal
  deriving DecidableEq

def Operator.symbol : Operator → String
  | .atMost => "<="
  | .atLeast => ">="
  | .less => "<"
  | .greater => ">"
  | .equal => "=="

/-- The spellings of the operators, in the order in which they are looked for. -/
def Operator.spellings : List (String × Operator) :=
  [("<=", .atMost), (">=", .atLeast), ("<", .less), (">", .greater), ("==", .equal), ("=", .equal)]

/-- A rule text cut at its comparison. -/
structure Comparison where
  left : String
  operator : Operator
  threshold : Float
  deriving DecidableEq

namespace Comparison

inductive Fault where
  /-- Nothing but blanks. -/
  | empty
  /-- No operator between blanks. -/
  | noOperator (source : String)
  /-- Nothing in front of the operator. -/
  | noLeft (source : String)
  /-- Something other than a plain decimal behind the operator. -/
  | badThreshold (right : String)
  deriving DecidableEq

/-- The kind and wording of each fault. -/
def Fault.toError : Fault → Error
  | .empty => .invalidInput "rule statement must not be empty"
  | .noOperator source => .malformedRule s!"unsupported rule format: {source}"
  | .noLeft source => .malformedRule s!"missing left expression: {source}"
  | .badThreshold right => .malformedRule s!"threshold is not a number: `{right}`"

def startsBlank : List Char → Bool
  | [] => false
  | c :: _ => Text.isBlank c

/-- What stands before and after the first occurrence of a symbol between two blanks, in a text
    that continues `before`, which is given backwards. -/
def cutAtSymbol? (symbol before : List Char) : List Char → Option (List Char × List Char)
  | [] => none
  | c :: rest =>
      match Text.after? symbol (c :: rest) with
      | some after =>
          if startsBlank before && startsBlank after then some (before.reverse, after)
          else cutAtSymbol? symbol (c :: before) rest
      | none => cutAtSymbol? symbol (c :: before) rest

/-- Cut a text at the first spelling that occurs between blanks. -/
def cutAtOperator? (s : List Char) : Option (List Char × Operator × List Char) :=
  Operator.spellings.findSome? fun (symbol, operator) =>
    (cutAtSymbol? symbol.toList [] s).map fun (before, after) => (before, operator, after)

/-- Read a plain decimal: an optional sign, and digits with at most one point among them. -/
def readThreshold? (s : List Char) : Option Float :=
  let (negative, unsigned) := match s with
    | '-' :: rest => (true, rest)
    | '+' :: rest => (false, rest)
    | _ => (false, s)
  let (whole, fraction) := (Text.cutAt '.' unsigned).getD (unsigned, [])
  if (whole.isEmpty && fraction.isEmpty) ||
      !whole.all Text.isAsciiDigit || !fraction.all Text.isAsciiDigit then none
  else
    let value := Number.ofDigits whole fraction
    some (if negative then -value else value)

def read (source : String) : Except Fault Comparison := do
  let s := source.toList
  if Text.isAllBlank s then throw .empty
  let some (before, operator, after) := cutAtOperator? s | throw (.noOperator source)
  let left := Text.trim before
  let right := Text.trim after
  if left.isEmpty then throw (.noLeft source)
  let some threshold := readThreshold? right | throw (.badThreshold (String.ofList right))
  return { left := String.ofList left, operator, threshold }

def parse (source : String) : Except Error Comparison :=
  (read source).mapError Fault.toError

end Comparison
end AuctionBudget.Rule
