import AuctionBudget.Schema.Records

/-! # Migrations

A migration makes some relations. A catalog knows which migrations have been applied and which
relations are there. Migrations are applied in order and reverted in the opposite order.
-/

namespace AuctionBudget.Schema

/-- A named step from one schema to the next. -/
structure Migration where
  name : String
  makes : List Relation
  deriving DecidableEq

def migrations : List Migration :=
  [⟨"m20260101_000000_auction", records⟩]

/-- The migrations that have been applied, and the relations that are there. -/
structure Catalog where
  applied : List String
  relations : List Relation
  deriving DecidableEq

namespace Catalog

def empty : Catalog := ⟨[], []⟩

def apply (catalog : Catalog) (migration : Migration) : Catalog where
  applied := catalog.applied ++ [migration.name]
  relations := catalog.relations ++ migration.makes

def revert (catalog : Catalog) (migration : Migration) : Catalog where
  applied := catalog.applied.filter (· ≠ migration.name)
  relations := catalog.relations.filter fun relation =>
    !migration.makes.any (·.name = relation.name)

/-- The migrations that have not been applied. -/
def pending (catalog : Catalog) : List Migration :=
  migrations.filter fun migration => !catalog.applied.contains migration.name

def up (catalog : Catalog) : Catalog :=
  catalog.pending.foldl apply catalog

def down (catalog : Catalog) : Catalog :=
  (migrations.filter fun migration => catalog.applied.contains migration.name).reverse.foldl revert
    catalog

/-- What is there after a start from nothing. -/
def fresh : Catalog :=
  empty.up

end Catalog

inductive Request where
  | up
  | down
  | fresh
  /-- Only look. -/
  | status
  deriving DecidableEq

namespace Request

def usage : String := "Usage: cargo run -p migration -- [up|down|fresh|status]"

/-- The request that the first argument names; everything pending is applied without one. -/
def ofArguments? : List String → Option Request
  | [] | "up" :: _ => some .up
  | "down" :: _ => some .down
  | "fresh" :: _ => some .fresh
  | "status" :: _ => some .status
  | _ => none

def run (catalog : Catalog) : Request → Catalog
  | .up => catalog.up
  | .down => catalog.down
  | .fresh => .fresh
  | .status => catalog

end Request
end AuctionBudget.Schema
