import AuctionBudget.Auction.Recompute

/-! # Changing a roster

A save assigns a player to a team-season. It may name an existing entry, which is then edited in
place, swapped for another player, or moved to another team-season. Saves keep the caps of the
season, and each change recomputes the team-seasons that it touched. A refused change leaves no
trace.
-/

namespace AuctionBudget.Auction

/-- A request to assign a player to a team-season. -/
structure Assignment where
  teamSeason : String
  player : String
  amount : Option Money
  /-- The code of the entry to edit; a new entry without one. -/
  entry : Option String
  free : Bool
  rtm : Bool
  deriving DecidableEq

/-- The entry that a request edits. A blank code names none. -/
def editedEntry (db : Auction) (request : Assignment) : Except Error (Option Entry) :=
  match request.entry.map Text.trimmed with
  | none => .ok none
  | some code => if code.isEmpty then .ok none else (db.requireEntry code).map some

def belowCap (limit : String) (current max : Int32) : Except Error Unit :=
  if max ≤ current then .error (.limitExceeded limit current max) else .ok ()

/-- Keep the caps of the season. `replaced` is the entry of the same team-season that the save edits
    or swaps out; it is counted in the totals already, so its slot and its flags become free. -/
def checkCaps (limits : SeasonLimits) (totals : TeamTotals) (request : Assignment)
    (replaced : Option Entry) : Except Error Unit := do
  if request.rtm && !replaced.any (·.rtm) then belowCap "RTM" totals.rtm limits.maxRtm
  if request.free && !replaced.any (·.free) then belowCap "free" totals.free limits.maxFree
  if replaced.isNone then belowCap "players" totals.players limits.maxPlayers

/-- Add the entry of a save under a code that no other entry has. -/
def insertEntry (request : Assignment) (code player : String) (teamSeason : Uuid) :
    Steps Entry := do
  if Table.has Entry.code code (← get).entries then throw (.existingKey code)
  let entry := { code, player, teamSeason, amount := request.amount, free := request.free,
                 rtm := request.rtm }
  modify fun db => { db with entries := db.entries ++ [entry] }
  return entry

/-- Write the entry of a save, given the code that it gets and the entry that it edits. An entry
    that keeps its code is changed in place and keeps its player and team-season; any other one is
    taken out before the new code is looked for. -/
def writeEntry (request : Assignment) (code player : String) (teamSeason : Uuid) :
    Option Entry → Steps Entry
  | some edited =>
      if edited.code = code then do
        let entry := { edited with amount := request.amount, free := request.free,
                                   rtm := request.rtm }
        modify fun db => { db with entries := Table.update Entry.code code (fun _ => entry) db.entries }
        return entry
      else do
        modify fun db => { db with entries := Table.erase Entry.code edited.code db.entries }
        insertEntry request code player teamSeason
  | none => insertEntry request code player teamSeason

/-- The team-seasons that a save touches: the target, and the one that an entry is moved from. -/
def touched (code : String) (target : Uuid) : Option Entry → List Uuid
  | some edited =>
      if edited.code ≠ code ∧ edited.teamSeason ≠ target then [target, edited.teamSeason]
      else [target]
  | none => [target]

def passes (build : Build) : List Uuid → Steps Unit
  | [] => return
  | id :: rest => do
      let _ ← pass build id
      passes build rest

/-- Assign a player to a team-season, or edit or move an entry. -/
def save (build : Build) (request : Assignment) : Session Entry := do
  let teamSeasonCode ← requireCode "team season code" request.teamSeason
  let playerCode ← requireCode "player code" request.player
  Session.transact do
    let target ← (← get).requireTeamSeasonCoded teamSeasonCode
    let season ← (← get).requireSeason target.season
    let player ← (← get).requirePlayer playerCode
    let code := entryCode player.code target.code
    let edited ← (← get).editedEntry request
    checkCaps season.limits target.totals request (edited.filter (·.teamSeason = target.id))
    let entry ← writeEntry request code player.code target.id edited
    passes build (touched code target.id edited)
    return entry

def remove (build : Build) (code : String) : Session Unit := do
  let code ← requireCode "roster entry code" code
  Session.transact do
    let entry ← (← get).requireEntry code
    modify fun db => { db with entries := Table.erase Entry.code entry.code db.entries }
    passes build [entry.teamSeason]

/-- What a save answers and leaves. -/
def saveEntry (build : Build) (db : Auction) (request : Assignment) :
    Except Error (Entry × Auction) :=
  (save build request).outcome db

/-- What a removal leaves. -/
def removeEntry (build : Build) (db : Auction) (code : String) : Except Error Auction :=
  ((remove build code).outcome db).map (·.2)

end AuctionBudget.Auction
