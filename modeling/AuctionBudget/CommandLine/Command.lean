import AuctionBudget.Auction.Roster
import AuctionBudget.CommandLine.Arguments

/-! # Commands

What the arguments of the program ask for. Arguments that are not understood in full ask for
nothing.
-/

namespace AuctionBudget.CommandLine

/-- A rule to be added, which has no identifier yet. -/
structure RuleDraft where
  season : Uuid
  tag : String
  category : Option String
  name : Option String
  statement : String
  shorthand : Rule.Shorthand
  roots : List String
  priority : Int
  deriving DecidableEq

/-- The rule of a draft, which is active from the start. -/
def RuleDraft.rule (draft : RuleDraft) (id : Uuid) (created : Int) : Rule where
  id := id
  season := draft.season
  tag := draft.tag
  category := draft.category
  name := draft.name
  statement := draft.statement
  shorthand := draft.shorthand
  roots := draft.roots
  active := true
  priority := draft.priority
  created := created

inductive Command where
  | listRules
  | addRule (draft : RuleDraft)
  /-- The allowances that the rules of a season leave a team-season. -/
  | evaluateRules (season teamSeason : Uuid) (tag : String)
  | assign (request : Auction.Assignment)
  | remove (entry : String)
  | recompute (teamSeason : Uuid)
  | aggregates (teamSeason : Uuid)
  deriving DecidableEq

/-- A whole command line: where to look for settings and records, and the command. -/
structure Invocation where
  settings : String
  database : Option String
  command : Command
  deriving DecidableEq

/-- Digits, with or without a sign in front of them, as a priority of 32 bits. -/
def readPriority? (source : String) : Option Int :=
  let (negative, digits) := match source.toList with
    | '-' :: digits => (true, digits)
    | '+' :: digits => (false, digits)
    | digits => (false, digits)
  if digits.isEmpty || !digits.all Text.isAsciiDigit then none
  else
    let size : Int := Nat.ofDigitChars 10 digits 0
    let priority := if negative then -size else size
    if -2147483648 ≤ priority ∧ priority ≤ 2147483647 then some priority else none

/-- A pattern, an equals sign and a replacement. The pattern may not be blank, and the blanks around
    both do not count. -/
def readShorthandEntry? (source : String) : Option (String × String) := do
  let (pattern, replacement) ← Text.cutAt '=' source.toList
  let pattern := Text.trim pattern
  if pattern.isEmpty then none
  return (String.ofList pattern, String.ofList (Text.trim replacement))

/-- Read the value of an option that may be left out. -/
def readOptional? (read? : String → Option α) : Option String → Option (Option α)
  | none => some none
  | some source => (read? source).map some

/-- `rules add`. -/
def addRule? (arguments : List String) : Option Command := do
  let given ← onlyOptions?
    [("season", .single), ("statement", .single), ("context", .single), ("notation", .repeated),
     ("map-name", .repeated), ("category", .single), ("name", .single), ("priority", .single)]
    arguments
  let season ← (valueOf? given "season").bind Uuid.parse?
  let statement ← valueOf? given "statement"
  let entries ← (valuesOf given "notation").mapM readShorthandEntry?
  let priority ← readOptional? readPriority? (valueOf? given "priority")
  return .addRule {
    season, statement
    tag := (valueOf? given "context").getD Rule.nextBidTag
    category := valueOf? given "category"
    name := valueOf? given "name"
    shorthand := .ofList entries
    roots := valuesOf given "map-name"
    priority := priority.getD 0 }

/-- `rules evaluate`. -/
def evaluateRules? (arguments : List String) : Option Command := do
  let given ← onlyOptions? [("season", .single), ("team-season", .single), ("context", .single)]
    arguments
  let season ← (valueOf? given "season").bind Uuid.parse?
  let teamSeason ← (valueOf? given "team-season").bind Uuid.parse?
  return .evaluateRules season teamSeason ((valueOf? given "context").getD Rule.nextBidTag)

/-- `roster assign`. -/
def assign? (arguments : List String) : Option Command := do
  let given ← onlyOptions?
    [("team-season", .single), ("player", .single), ("amount", .single), ("entry", .single),
     ("free", .flag), ("rtm", .flag)]
    arguments
  let teamSeason ← valueOf? given "team-season"
  let player ← valueOf? given "player"
  let amount ← readOptional? (fun source => (Money.read source).toOption)
    (valueOf? given "amount")
  return .assign {
    teamSeason, player, amount
    entry := valueOf? given "entry"
    free := hasFlag given "free"
    rtm := hasFlag given "rtm" }

/-- `roster remove`. -/
def remove? (arguments : List String) : Option Command := do
  let given ← onlyOptions? [("entry", .single)] arguments
  (valueOf? given "entry").map .remove

/-- A command that names nothing but a team-season. -/
def ofTeamSeason? (command : Uuid → Command) (arguments : List String) : Option Command := do
  let given ← onlyOptions? [("team-season", .single)] arguments
  ((valueOf? given "team-season").bind Uuid.parse?).map command

/-- The command that a word and the arguments behind it ask for. -/
def Command.ofArguments? (word : String) (arguments : List String) : Option Command := do
  match word with
  | "rules" =>
      let (_, what, rest) ← optionsThenWord? [] arguments
      match what with
      | "list" => (onlyOptions? [] rest).map fun _ => .listRules
      | "add" => addRule? rest
      | "evaluate" => evaluateRules? rest
      | _ => none
  | "roster" =>
      let (_, what, rest) ← optionsThenWord? [] arguments
      match what with
      | "assign" => assign? rest
      | "remove" => remove? rest
      | _ => none
  | "recompute" => ofTeamSeason? .recompute arguments
  | "aggregates" => ofTeamSeason? .aggregates arguments
  | _ => none

def defaultSettings : String := "settings"

def Invocation.ofArguments? (arguments : List String) : Option Invocation := do
  let (given, word, rest) ←
    optionsThenWord? [("settings", .single), ("database-url", .single)] arguments
  let command ← Command.ofArguments? word rest
  return {
    settings := (valueOf? given "settings").getD defaultSettings
    database := valueOf? given "database-url"
    command }

end AuctionBudget.CommandLine
