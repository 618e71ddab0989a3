import AuctionBudget.Auction.Basic

/-! # Transactions

A call that writes works on a copy of the records. The copy is committed when the call answers, and
dropped when it fails, whatever was written until then.
-/

namespace AuctionBudget

/-- Steps on the records of a transaction. Steps that fail leave the records as they are by then. -/
abbrev Steps := ExceptT Error (StateM Auction)

/-- The answer of steps with the records that they leave, or why they fail. -/
def Steps.outcome (steps : Steps α) (db : Auction) : Except Error (α × Auction) :=
  match steps.run.run db with
  | (.ok answer, after) => .ok (answer, after)
  | (.error e, _) => .error e

/-- The records that are committed, and those that an open transaction works on. -/
structure Store where
  committed : Auction
  working : Option Auction
  deriving DecidableEq

namespace Store

/-- The records that steps see. -/
def records (store : Store) : Auction :=
  store.working.getD store.committed

def begin (store : Store) : Store :=
  { store with working := some store.committed }

def write (db : Auction) (store : Store) : Store :=
  { store with working := some db }

def commit (store : Store) : Store :=
  ⟨store.records, none⟩

def rollback (store : Store) : Store :=
  { store with working := none }

end Store

/-- Calls on a store. -/
abbrev Session := ExceptT Error (StateM Store)

namespace Session

/-- Take steps in a transaction, which is committed if they answer and rolled back if they fail. -/
def transact (steps : Steps α) : Session α := do
  modify Store.begin
  let (answer, written) := steps.run.run (← get).records
  modify (Store.write written)
  match answer with
  | .ok a =>
      modify Store.commit
      return a
  | .error e =>
      modify Store.rollback
      throw e

/-- The answer of a call where no transaction is open, and the records that are committed then. -/
def call (session : Session α) (db : Auction) : Except Error α × Auction :=
  let (answer, store) := session.run.run ⟨db, none⟩
  (answer, store.committed)

/-- The answer of a call with the records that it commits, or why it fails. -/
def outcome (session : Session α) (db : Auction) : Except Error (α × Auction) :=
  match session.call db with
  | (.ok answer, after) => .ok (answer, after)
  | (.error e, _) => .error e

end Session
end AuctionBudget
