/-! # Refusals

Every operation of the library either answers or refuses with one of a few kinds of error. The kind
says who is at fault: the caller's input, a stored rule, the arithmetic of a rule, a season cap, or
a key that is missing or taken. A build that checks its sums may also stop a call without an answer.
-/

namespace AuctionBudget

/-- Why an operation is refused. -/
inductive Error where
  /-- A text that must not be blank is blank, or a rule that must be active is not. -/
  | invalidInput (detail : String)
  /-- The text of a rule cannot be read. -/
  | malformedRule (detail : String)
  /-- The arithmetic of a rule has no result. -/
  | evaluation (detail : String)
  /-- A season allows no more of something. -/
  | limitExceeded (limit : String) (current max : Int32)
  /-- Nothing is stored under a key. -/
  | keyNotFound (key : String)
  /-- Something is stored under a key already. -/
  | existingKey (key : String)
  /-- A text is no amount of money. -/
  | invalidAmount (detail : String)
  /-- The store itself refused. -/
  | database (detail : String)
  /-- A result left the range of its integers, and the program was built to stop there. -/
  | overflow
  deriving DecidableEq

def Error.message : Error → String
  | .invalidInput detail => s!"Invalid input: {detail}"
  | .malformedRule detail => s!"Malformed rule: {detail}"
  | .evaluation detail => s!"Evaluation error: {detail}"
  | .limitExceeded limit current max =>
      s!"Maximum {limit} player limit reached. Current: {current}, Max allowed: {max}"
  | .keyNotFound key => s!"\"{key}\" key not found!"
  | .existingKey key => s!"\"{key}\" already present!"
  | .invalidAmount detail => s!"Invalid amount: {detail}"
  | .database detail => s!"Custom Error: {detail}"
  | .overflow => "arithmetic overflow"

end AuctionBudget
