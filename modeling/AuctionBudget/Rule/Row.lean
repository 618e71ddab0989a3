import AuctionBudget.Error
import AuctionBudget.Json.Collection
import AuctionBudget.Rule.Basic

/-! # Stored rules

A rule is stored with its shorthand and its roots as JSON texts. An empty collection is stored as no
text, and a missing or blank text reads as an empty collection. Any other text must be an object of
strings, or an array of strings.
-/

namespace AuctionBudget.Rule

/-- The columns of a stored rule that hold JSON. -/
inductive Column where
  | shorthand
  | roots
  deriving DecidableEq

def Column.name : Column → String
  | .shorthand => "notation_map"
  | .roots => "map_names"

/-- What a JSON parser says about a text that a column should not hold. -/
abbrev Words := Column → String → String

/-- A column of a stored rule that cannot be read, with its text. -/
structure Unreadable where
  rule : Uuid
  column : Column
  text : String
  deriving DecidableEq

def Unreadable.toError (words : Words) (fault : Unreadable) : Error :=
  .malformedRule
    s!"rule {fault.rule.text}: invalid {fault.column.name}: {words fault.column fault.text}"

structure Row where
  id : Uuid
  season : Uuid
  tag : String
  category : Option String
  name : Option String
  statement : String
  shorthand : Option String
  roots : Option String
  active : Bool
  priority : Int
  created : Int
  deriving DecidableEq

namespace Row

/-- Read a column, where a missing or blank text stands for nothing. -/
def readColumn? (empty : α) (read? : List Char → Option α) (column : Option String) : Option α :=
  match column.map fun text => Text.trim text.toList with
  | none | some [] => some empty
  | some s => read? s

/-- The shorthand that a column holds. The last replacement of a pattern counts. -/
def readShorthand? (column : Option String) : Option Shorthand :=
  readColumn? .empty (fun s => (Json.readObject? s).map fun members =>
    .ofList (members.map fun (pattern, replacement) =>
      (String.ofList pattern, String.ofList replacement))) column

def readRoots? (column : Option String) : Option (List String) :=
  readColumn? [] (fun s => (Json.readArray? s).map fun items => items.map String.ofList) column

def shorthandColumn (shorthand : Shorthand) : Option String :=
  if shorthand.entries.isEmpty then none
  else some <| String.ofList <| Json.writeObject <|
    shorthand.entries.map fun (pattern, replacement) => (pattern.toList, replacement.toList)

def rootsColumn (roots : List String) : Option String :=
  if roots.isEmpty then none
  else some <| String.ofList <| Json.writeArray <| roots.map String.toList

def column (row : Row) : Column → Option String
  | .shorthand => row.shorthand
  | .roots => row.roots

/-- The column cannot be read. -/
def unreadable (row : Row) (column : Column) : Unreadable :=
  ⟨row.id, column, Text.trimmed ((row.column column).getD "")⟩

def decode (row : Row) : Except Unreadable Rule := do
  let some shorthand := readShorthand? row.shorthand | throw (row.unreadable .shorthand)
  let some roots := readRoots? row.roots | throw (row.unreadable .roots)
  return {
    id := row.id, season := row.season, tag := row.tag, category := row.category,
    name := row.name, statement := row.statement, shorthand, roots, active := row.active,
    priority := row.priority, created := row.created }

def encode (rule : Rule) : Row where
  id := rule.id
  season := rule.season
  tag := rule.tag
  category := rule.category
  name := rule.name
  statement := rule.statement
  shorthand := shorthandColumn rule.shorthand
  roots := rootsColumn rule.roots
  active := rule.active
  priority := rule.priority
  created := rule.created

/-- The rule that a row holds, or what is reported where it cannot be read. -/
def rule (words : Words) (row : Row) : Except Error Rule :=
  row.decode.mapError (Unreadable.toError words)

end Row
end AuctionBudget.Rule
