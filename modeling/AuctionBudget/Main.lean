import AuctionBudget.Auction.Archive
import AuctionBudget.CommandLine.Run
import AuctionBudget.CommandLine.Storage
import Std.Time.DateTime.Timestamp

/-! # The program

Reads the command line, the settings and the records, carries out the command, prints what it says
and keeps the records. Refused arguments end it with 2, a refused command with 1. It is built for
release.
-/

namespace AuctionBudget.CommandLine

def usage : List String :=
  ["Usage: auction [--settings NAME] [--database-url URL] COMMAND",
   "",
   "  rules list",
   "  rules add --season ID --statement TEXT [--context TAG] [--notation PATTERN=REPLACEMENT]...",
   "      [--map-name ROOT]... [--category TEXT] [--name TEXT] [--priority N]",
   "  rules evaluate --season ID --team-season ID [--context TAG]",
   "  roster assign --team-season CODE --player CODE [--amount AMOUNT] [--entry CODE]",
   "      [--free] [--rtm]",
   "  roster remove --entry CODE",
   "  recompute --team-season ID",
   "  aggregates --team-season ID"]

def linesOf (path : String) : IO (List String) := do
  try
    return (← IO.FS.lines path).toList
  catch
    | .noFileOrDirectory .. => return []
    | e => throw e

/-- The storage that the command line, the environment and the settings name. -/
def chooseStorage (invocation : Invocation) : IO (Option Storage) := do
  let url := invocation.database <|> (← IO.getEnv "DATABASE_URL")
  let written ← linesOf (invocation.settings ++ ".toml")
  let configured := ((← IO.getEnv "AUCTION__DATABASE__SQLITE").map Storage.file)
    <|> Storage.ofSettings? "" written
  return Storage.choose? url configured

def load : Storage → IO (Option Auction)
  | .memory => return some .empty
  | .file path => return Auction.Archive.read? (← linesOf path)

def keep (db : Auction) : Storage → IO Unit
  | .memory => return
  | .file path =>
      IO.FS.writeFile path (String.join ((Auction.Archive.write db).map (· ++ "\n")))

def freshUuid : IO Uuid := do
  let bytes ← IO.getRandomBytes 16
  let bits := bytes.toList.foldl (fun n byte => 256 * n + byte.toNat) 0
  return .ofRandomBits (BitVec.ofNat 128 bits)

def now : IO Int := do
  return (← Std.Time.Timestamp.now).toNanosecondsSinceUnixEpoch.val

/-- What is said of a column that holds no JSON of its kind. -/
def words (column : Rule.Column) (_text : String) : String :=
  match column with
  | .shorthand => "expected an object of strings"
  | .roots => "expected an array of strings"

/-- Say why the program ends, and end it. -/
def fail (lines : List String) (code : UInt32) : IO UInt32 := do
  for line in lines do IO.eprintln line
  return code

/-- Carry out a command on what a storage holds. -/
def perform (storage : Storage) (command : Command) : IO UInt32 := do
  let some db ← load storage
    | fail [refusalLine (.database "the records cannot be read")] 1
  match command.run .release words db (← freshUuid) (← now) with
  | .error e => fail [refusalLine e] (exitCode e)
  | .ok (lines, after) =>
      if after ≠ db then keep after storage
      for line in lines do IO.println line
      return 0

def program (arguments : List String) : IO UInt32 := do
  let some invocation := Invocation.ofArguments? arguments | fail usage 2
  let some storage ← chooseStorage invocation
    | fail [refusalLine (.database "the connection string names no records")] 1
  perform storage invocation.command

end AuctionBudget.CommandLine

def main (arguments : List String) : IO UInt32 :=
  AuctionBudget.CommandLine.program arguments
