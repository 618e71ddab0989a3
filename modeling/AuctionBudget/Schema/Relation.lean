import AuctionBudget.Ordered

/-! # Relations

The shape of stored records: which columns a relation has, which of them tell its rows apart, and to
which other relations its rows refer.
-/

namespace AuctionBudget.Schema

/-- What a column holds where a new row gives no value. -/
inductive Default where
  | integer (n : Int)
  | truth (b : Bool)
  deriving DecidableEq

/-- A default as it stands in the definition of a relation. -/
def Default.text : Default → String
  | .integer n => toString n
  | .truth true => "TRUE"
  | .truth false => "FALSE"

structure Column where
  name : String
  /-- Every row has a value. -/
  required : Bool
  /-- The rows are told apart by this column. -/
  primary : Bool
  /-- No two rows have the same value. -/
  unique : Bool
  default : Option Default
  deriving DecidableEq

namespace Column

def identifier : Column := ⟨"id", true, true, false, none⟩

/-- A column that has a value in every row. -/
def needed (name : String) : Column := ⟨name, true, false, false, none⟩

def optional (name : String) : Column := ⟨name, false, false, false, none⟩

/-- The code that users know a row by. -/
def code : Column := { needed "code" with unique := true }

/-- A number that starts at nothing. -/
def counter (name : String) : Column := { needed name with default := some (.integer 0) }

def flag (name : String) (start : Bool) : Column :=
  { needed name with default := some (.truth start) }

end Column

/-- What happens to the rows that refer to a row that is deleted. -/
inductive OnDelete where
  /-- They are deleted too. -/
  | cascade
  /-- They forbid it. -/
  | refuse
  deriving DecidableEq

def OnDelete.text : OnDelete → String
  | .cascade => "CASCADE"
  | .refuse => "NO ACTION"

/-- A column whose values are identifiers of rows of another relation. -/
structure Reference where
  column : String
  relation : String
  onDelete : OnDelete
  deriving DecidableEq

/-- The column of the other relation that a reference names. -/
def Reference.target (_ : Reference) : String := Column.identifier.name

structure Index where
  name : String
  columns : List String
  unique : Bool
  deriving DecidableEq

structure Relation where
  name : String
  columns : List Column
  references : List Reference := []
  indexes : List Index := []
  deriving DecidableEq

/-- The lists of columns on which no two rows agree, ascending; the primary key is left out. -/
def Relation.keys (relation : Relation) : List (List String) :=
  Ordered.sortBy (fun a b => !decide (b < a)) <|
    (relation.columns.filter (·.unique)).map (fun column => [column.name]) ++
      (relation.indexes.filter (·.unique)).map (·.columns)

end AuctionBudget.Schema
