import AuctionBudget.Error
import AuctionBudget.Number.Text
import AuctionBudget.Rule.Basic
import AuctionBudget.Context
import AuctionBudget.Text.Quoted

/-! # Reports

What the program prints: a line per rule, per allowance and per tier, and for a refusal one line
that names its kind and shows what is behind it. A sum that a checked build stops at ends the program
with another exit code than a refusal.
-/

namespace AuctionBudget.CommandLine

def padBehind (width : Nat) (s : String) : String :=
  s ++ String.ofList (List.replicate (width - s.length) ' ')

def padBefore (width : Nat) (s : String) : String :=
  String.ofList (List.replicate (width - s.length) ' ') ++ s

def ruleLine (rule : Rule) : String :=
  let inactive := if rule.active then "" else "(inactive) "
  let name := rule.name.getD "-"
  s!"{rule.id.text} [{rule.tag}] p{rule.priority} {inactive}{name}: {rule.statement}"

/-- What a rule allows, or why it allows nothing. -/
def allowanceLine (rule : Rule) : Except Error Float → String
  | .ok allowance => s!"{rule.id.text} {Number.twoPlaces allowance}  {rule.statement}"
  | .error e => s!"{rule.id.text} error: {e.message}  {rule.statement}"

def tierLine (tier : TierAggregate) : String :=
  let players := padBefore 3 (toString tier.players)
  let ceiling := padBefore 10 ((tier.ceiling.map Money.text).getD "-")
  s!"{padBehind 6 tier.code} spent {tier.spent.text} players {players} next bid {ceiling}"

/-- The kind of a refusal with what is behind it. -/
def refusalText : Error → String
  | .invalidInput detail => s!"InvalidInput({Text.quoted detail})"
  | .malformedRule detail => s!"MalformedRule({Text.quoted detail})"
  | .evaluation detail => s!"Evaluation({Text.quoted detail})"
  | .limitExceeded limit current max =>
      "LimitExceeded \x7b limit: " ++ Text.quoted limit ++
        s!", current: {current}, max: {max}" ++ " \x7d"
  | .keyNotFound key => s!"KeyNotFound({Text.quoted key})"
  | .existingKey key => s!"ExistingKey({Text.quoted key})"
  | .invalidAmount detail => s!"InvalidAmount({Text.quoted detail})"
  | .database detail => s!"Database(Custom({Text.quoted detail}))"
  | .overflow => "attempt to add with overflow"

/-- The line that a command which fails ends with. -/
def refusalLine : Error → String
  | .overflow => refusalText .overflow
  | e => s!"Error: {refusalText e}"

def exitCode : Error → UInt32
  | .overflow => 101
  | _ => 1

end AuctionBudget.CommandLine
