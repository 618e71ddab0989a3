import AuctionBudget.Auction.History
import AuctionBudget.Proofs.Auction.Pass

/-! # What a save or a removal writes

An accepted save puts one entry in the place of the edited one, if there is any, and leaves all
others alone. Where the entry keeps its code it also keeps its player and its team-season; otherwise
it gets those of the request. Every operation keeps sound records sound.
-/

namespace AuctionBudget.Auction

variable {build : Build} {db written after : Auction} {request : Assignment} {entry : Entry}
variable {code player : String} {teamSeason : Uuid} {edited : Option Entry}

theorem requireCode_eq_ok {label source : String} :
    requireCode label source = .ok code ↔
      Text.isAllBlank source.toList = false ∧ code = Text.trimmed source := by
  unfold requireCode
  cases Text.isAllBlank source.toList <;> simp [eq_comm]

theorem required_eq_ok {α : Type} {missing : String} {found : Option α} {record : α} :
    required missing found = .ok record ↔ found = some record := by
  cases found <;> simp [required]

/-- The numbers of the entry that a request asks for. -/
def Assignment.weight (request : Assignment) : Money × Bool × Bool :=
  (request.amount.getD 0, request.free, request.rtm)

/-- The entries that a save does not edit. -/
def others (db : Auction) : Option Entry → List Entry
  | some edited => Table.erase Entry.code edited.code db.entries
  | none => db.entries

/-- What is written in the place of an edited entry. -/
structure Written (db : Auction) (request : Assignment) (code player : String) (teamSeason : Uuid)
    (edited : Option Entry) (entry : Entry) (written : Auction) : Prop where
  frame : written = { db with entries := written.entries }
  before : db.entries.Perm (edited.toList ++ db.others edited)
  after : written.entries.Perm (entry :: db.others edited)
  coded : entry.code = code
  weight : entry.weight = request.weight
  fresh : ∀ other ∈ db.others edited, other.code ≠ code
  owner : (∃ old, edited = some old ∧ old.code = code ∧ entry.player = old.player ∧
      entry.teamSeason = old.teamSeason) ∨
    ((∀ old, edited = some old → old.code ≠ code) ∧ entry.player = player ∧
      entry.teamSeason = teamSeason)

theorem perm_others (sound : Sound db) (there : ∀ old, edited = some old → old ∈ db.entries) :
    db.entries.Perm (edited.toList ++ db.others edited) := by
  cases edited with
  | none => exact .refl _
  | some old => exact Table.perm_cons_erase sound.entryCodes (there old rfl)

/-- An entry is inserted where no other one has its code. -/
theorem outcome_insertEntry (request : Assignment) (code player : String) (teamSeason : Uuid)
    (db : Auction) : (insertEntry request code player teamSeason).outcome db =
      if Table.has Entry.code code db.entries then .error (.existingKey code)
      else
        let entry := { code, player, teamSeason, amount := request.amount, free := request.free,
                       rtm := request.rtm }
        .ok (entry, { db with entries := db.entries ++ [entry] }) := by
  cases taken : Table.has Entry.code code db.entries with
  | true => simp [insertEntry, taken]
  | false =>
      simp [insertEntry, taken]
      rfl

/-- An entry that keeps its code is changed in place. -/
theorem outcome_writeEntry_of_stays {old : Entry} (stays : old.code = code) :
    (writeEntry request code player teamSeason (some old)).outcome db =
      let entry := { old with amount := request.amount, free := request.free, rtm := request.rtm }
      .ok (entry, { db with entries := Table.update Entry.code code (fun _ => entry) db.entries }) := by
  rw [writeEntry, if_pos stays]
  rfl

/-- An entry that gets another code is inserted after the edited one was taken out. -/
theorem outcome_writeEntry_of_moves (moves : ∀ old, edited = some old → old.code ≠ code) :
    (writeEntry request code player teamSeason edited).outcome db =
      (insertEntry request code player teamSeason).outcome
        { db with entries := db.others edited } := by
  cases edited with
  | none => rfl
  | some old =>
      rw [writeEntry, if_neg (moves old rfl), Steps.outcome_bind, Steps.outcome_modify, ok_bind]
      rfl

/-- A save edits an entry in place, or gives its entry another code. -/
theorem stays_or_moves (edited : Option Entry) (code : String) :
    (∃ old, edited = some old ∧ old.code = code) ∨ ∀ old, edited = some old → old.code ≠ code := by
  by_cases stays : ∃ old, edited = some old ∧ old.code = code
  · exact .inl stays
  · exact .inr fun old here same => stays ⟨old, here, same⟩

theorem writeEntry_ok (sound : Sound db) (there : ∀ old, edited = some old → old ∈ db.entries)
    (answered : (writeEntry request code player teamSeason edited).outcome db =
      .ok (entry, written)) :
    Written db request code player teamSeason edited entry written := by
  have before := perm_others sound there
  rcases stays_or_moves edited code with ⟨old, rfl, stays⟩ | moves
  · rw [outcome_writeEntry_of_stays stays] at answered
    cases answered
    subst stays
    exact {
      frame := rfl
      before
      after := Table.update_perm sound.entryCodes (there old rfl) _
      coded := rfl
      weight := rfl
      fresh := fun other member => (Table.mem_erase.1 member).2
      owner := .inl ⟨old, rfl, rfl, rfl, rfl⟩ }
  · rw [outcome_writeEntry_of_moves moves, outcome_insertEntry] at answered
    split at answered
    · cases answered
    · next absent =>
        cases answered
        exact {
          frame := rfl
          before
          after := List.perm_append_singleton _ _
          coded := rfl
          weight := rfl
          fresh := fun other member same => absent (Table.has_iff.2 ⟨other, member, same⟩)
          owner := .inr ⟨moves, rfl, rfl⟩ }

namespace Written

variable (write : Written db request code player teamSeason edited entry written)

include write

theorem seasons : written.seasons = db.seasons := by rw [write.frame]

theorem tiers : written.tiers = db.tiers := by rw [write.frame]

theorem players : written.players = db.players := by rw [write.frame]

theorem teamSeasons : written.teamSeasons = db.teamSeasons := by rw [write.frame]

theorem aggregates : written.aggregates = db.aggregates := by rw [write.frame]

theorem mem_entries {other : Entry} (member : other ∈ written.entries) :
    other = entry ∨ other ∈ db.entries := by
  rcases List.mem_cons.1 (write.after.mem_iff.1 member) with same | kept
  · exact .inl same
  · exact .inr (write.before.mem_iff.2 (List.mem_append_right _ kept))

/-- The roster of a team-season, in some order. -/
theorem roster (id : Uuid) :
    (written.roster id).Perm ((entry :: db.others edited).filter (·.teamSeason = id)) :=
  write.after.filter _

theorem roster_before (id : Uuid) :
    (db.roster id).Perm ((edited.toList ++ db.others edited).filter (·.teamSeason = id)) :=
  write.before.filter _

theorem sound (sound : Sound db) (playerKnown : (db.player? player).isSome)
    (teamSeasonKnown : (db.teamSeason? teamSeason).isSome) : Sound written := by
  have entryCodes : (written.entries.map Entry.code).Nodup := by
    refine (write.after.map _).nodup_iff.2 ?_
    rw [List.map_cons, List.nodup_cons]
    constructor
    · intro taken
      obtain ⟨other, member, same⟩ := List.mem_map.1 taken
      exact write.fresh other member (same.trans write.coded)
    · have all := (write.before.map Entry.code).nodup_iff.1 sound.entryCodes
      rw [List.map_append] at all
      exact (List.nodup_append.1 all).2.1
  have owned : (db.player? entry.player).isSome ∧ (db.teamSeason? entry.teamSeason).isSome := by
    rcases write.owner with ⟨old, rfl, -, samePlayer, sameTeamSeason⟩ | ⟨-, rfl, rfl⟩
    · have there : old ∈ db.entries := write.before.mem_iff.2 (by simp)
      rw [samePlayer, sameTeamSeason]
      exact ⟨sound.entryPlayer old there, sound.entryTeamSeason old there⟩
    · exact ⟨playerKnown, teamSeasonKnown⟩
  have entryPlayer : ∀ other ∈ written.entries, (db.player? other.player).isSome := by
    intro other member
    rcases write.mem_entries member with rfl | old
    · exact owned.1
    · exact sound.entryPlayer other old
  have entryTeamSeason : ∀ other ∈ written.entries,
      (db.teamSeason? other.teamSeason).isSome := by
    intro other member
    rcases write.mem_entries member with rfl | old
    · exact owned.2
    · exact sound.entryTeamSeason other old
  rw [write.frame]
  exact { sound with entryCodes, entryPlayer, entryTeamSeason }

end Written

theorem mem_touched {id target : Uuid} : id ∈ touched code target edited ↔
    id = target ∨ ∃ old, edited = some old ∧ old.code ≠ code ∧ old.teamSeason = id := by
  cases edited with
  | none => simp [touched]
  | some old =>
      by_cases moves : old.code ≠ code ∧ old.teamSeason ≠ target
      · rw [touched, if_pos moves]
        simp [moves.1, @eq_comm _ id]
      · simp only [touched, if_neg moves, List.mem_singleton, Option.some.injEq, exists_eq_left']
        constructor
        · exact .inl
        · rintro (here | ⟨different, rfl⟩)
          · exact here
          · by_contra away
            exact moves ⟨different, away⟩

/-- The code that a request gives to the entry of its player in a team-season. -/
def Assignment.codeIn (request : Assignment) (target : TeamSeason) : String :=
  entryCode (Text.trimmed request.player) target.code

/-- What an accepted save found, and what it wrote before the passes. -/
structure Accepted (db : Auction) (request : Assignment) (entry : Entry) (written : Auction) where
  target : TeamSeason
  season : Season
  edited : Option Entry
  teamSeasonNamed : Text.isAllBlank request.teamSeason.toList = false
  playerNamed : Text.isAllBlank request.player.toList = false
  targetFound : db.teamSeasonCoded? (Text.trimmed request.teamSeason) = some target
  seasonFound : db.season? target.season = some season
  playerFound : (db.player? (Text.trimmed request.player)).isSome
  editedFound : db.editedEntry request = .ok edited
  caps : checkCaps season.limits target.totals request
    (edited.filter (·.teamSeason = target.id)) = .ok ()
  wrote : (writeEntry request (request.codeIn target) (Text.trimmed request.player) target.id
    edited).outcome db = .ok (entry, written)

/-- A save, step by step. -/
theorem saveEntry_eq (build : Build) (db : Auction) (request : Assignment) :
    db.saveEntry build request = (do
      let teamSeasonCode ← requireCode "team season code" request.teamSeason
      let playerCode ← requireCode "player code" request.player
      let target ← db.requireTeamSeasonCoded teamSeasonCode
      let season ← db.requireSeason target.season
      let player ← db.requirePlayer playerCode
      let edited ← db.editedEntry request
      checkCaps season.limits target.totals request (edited.filter (·.teamSeason = target.id))
      let code := entryCode player.code target.code
      let (entry, written) ← (writeEntry request code player.code target.id edited).outcome db
      let ((), after) ← (passes build (touched code target.id edited)).outcome written
      return (entry, after)) := by
  simp only [saveEntry, save, Session.outcome_check_bind, Session.outcome_transact,
    Steps.outcome_bind, Steps.outcome_get, Steps.outcome_lift, Steps.outcome_pure, ok_bind,
    map_bind_eq]
  rfl

theorem saveEntry_ok (answered : db.saveEntry build request = .ok (entry, after)) :
    ∃ written, ∃ save : Accepted db request entry written,
      (passes build (touched (request.codeIn save.target) save.target.id save.edited)).outcome
        written = .ok ((), after) := by
  rw [saveEntry_eq] at answered
  obtain ⟨_, teamSeasonCode, answered⟩ := bind_eq_ok.1 answered
  obtain ⟨_, playerCode, answered⟩ := bind_eq_ok.1 answered
  obtain ⟨target, targetFound, answered⟩ := bind_eq_ok.1 answered
  obtain ⟨season, seasonFound, answered⟩ := bind_eq_ok.1 answered
  obtain ⟨player, playerFound, answered⟩ := bind_eq_ok.1 answered
  obtain ⟨edited, editedFound, answered⟩ := bind_eq_ok.1 answered
  obtain ⟨⟨⟩, caps, answered⟩ := bind_eq_ok.1 answered
  obtain ⟨⟨_, written⟩, wrote, answered⟩ := bind_eq_ok.1 answered
  obtain ⟨⟨⟨⟩, _⟩, passes, answered⟩ := bind_eq_ok.1 answered
  cases answered
  obtain ⟨teamSeasonNamed, rfl⟩ := requireCode_eq_ok.1 teamSeasonCode
  obtain ⟨playerNamed, rfl⟩ := requireCode_eq_ok.1 playerCode
  have playerFound := required_eq_ok.1 playerFound
  have named : player.code = Text.trimmed request.player :=
    (Table.mem_of_find?_eq_some playerFound).2
  rw [named] at wrote passes
  exact ⟨written, {
    target, season, edited, teamSeasonNamed, playerNamed
    targetFound := required_eq_ok.1 targetFound
    seasonFound := required_eq_ok.1 seasonFound
    playerFound := by simp [playerFound]
    editedFound, caps, wrote }, passes⟩

theorem editedEntry_ok {old : Entry} (found : db.editedEntry request = .ok (some old)) :
    old ∈ db.entries := by
  unfold editedEntry at found
  split at found
  · cases found
  · split at found
    · cases found
    · obtain ⟨same, read, ⟨⟩⟩ := map_eq_ok.1 found
      exact (Table.mem_of_find?_eq_some (required_eq_ok.1 read)).1

namespace Accepted

variable (save : Accepted db request entry written)

include save

theorem target_mem : save.target ∈ db.teamSeasons :=
  (Table.mem_of_find?_eq_some save.targetFound).1

theorem targetKnown : (db.teamSeason? save.target.id).isSome :=
  isSome_teamSeason?_iff.2 ⟨_, save.target_mem, rfl⟩

theorem edited_mem (old : Entry) (same : save.edited = some old) : old ∈ db.entries :=
  editedEntry_ok (same ▸ save.editedFound)

theorem write (sound : Sound db) : Written db request (save.target |> request.codeIn)
    (Text.trimmed request.player) save.target.id save.edited entry written :=
  writeEntry_ok sound save.edited_mem save.wrote

theorem sound (sound : Sound db) : Sound written :=
  (save.write sound).sound sound save.playerFound save.targetKnown

end Accepted

/-- The records without an entry. -/
def without (db : Auction) (old : Entry) : Auction :=
  { db with entries := Table.erase Entry.code old.code db.entries }

/-- A removal, step by step. -/
theorem removeEntry_eq (build : Build) (db : Auction) (code : String) :
    db.removeEntry build code = (do
      let code ← requireCode "roster entry code" code
      let entry ← db.requireEntry code
      let ((), after) ← (passes build [entry.teamSeason]).outcome (db.without entry)
      return after) := by
  simp only [removeEntry, remove, Session.outcome_check_bind, Session.outcome_transact,
    Steps.outcome_bind, Steps.outcome_get, Steps.outcome_lift, Steps.outcome_modify, ok_bind,
    map_bind_eq, map_bind]
  rfl

theorem removeEntry_ok {source : String} (answered : db.removeEntry build source = .ok after) :
    ∃ old ∈ db.entries, old.code = Text.trimmed source ∧
      (passes build [old.teamSeason]).outcome (db.without old) = .ok ((), after) := by
  rw [removeEntry_eq] at answered
  obtain ⟨_, named, answered⟩ := bind_eq_ok.1 answered
  obtain ⟨old, found, answered⟩ := bind_eq_ok.1 answered
  obtain ⟨⟨⟨⟩, _⟩, passes, answered⟩ := bind_eq_ok.1 answered
  cases answered
  obtain ⟨-, rfl⟩ := requireCode_eq_ok.1 named
  obtain ⟨there, same⟩ := Table.mem_of_find?_eq_some (required_eq_ok.1 found)
  exact ⟨old, there, same, passes⟩

theorem sound_without (sound : Sound db) (old : Entry) : Sound (db.without old) :=
  { sound with
    entryCodes := Table.nodup_erase sound.entryCodes
    entryPlayer := fun entry member => sound.entryPlayer entry (Table.mem_erase.1 member).1
    entryTeamSeason := fun entry member =>
      sound.entryTeamSeason entry (Table.mem_erase.1 member).1 }

theorem roster_without_sublist (db : Auction) (old : Entry) (id : Uuid) :
    ((db.without old).roster id).Sublist (db.roster id) :=
  List.Sublist.filter _ List.filter_sublist

theorem roster_without_of_ne (sound : Sound db) {old : Entry} (member : old ∈ db.entries)
    {id : Uuid} (away : old.teamSeason ≠ id) :
    ((db.without old).roster id).Perm (db.roster id) := by
  have before := (Table.perm_cons_erase sound.entryCodes member).filter (·.teamSeason = id)
  rw [List.filter_cons_of_neg (by simpa using away)] at before
  exact before.symm

/-- What an operation writes, and which team-seasons it passes over afterwards. -/
inductive Effect (build : Build) (db : Auction) : Operation → Auction → List Uuid → Prop
  | refused {operation : Operation} (answered : (operation.outcome build db).isOk = false) :
      Effect build db operation db []
  | saved {request : Assignment} {entry : Entry} {written : Auction}
      (answered : (db.saveEntry build request).isOk = true)
      (save : Accepted db request entry written) :
      Effect build db (.save request) written
        (touched (request.codeIn save.target) save.target.id save.edited)
  | removed {source : String} {old : Entry} (member : old ∈ db.entries) :
      Effect build db (.remove source) (db.without old) [old.teamSeason]
  | recomputed (id : Uuid) : Effect build db (.recompute id) db [id]

namespace Operation

variable {operation : Operation}

theorem outcome_save (build : Build) (db : Auction) (request : Assignment) :
    (save request).outcome build db =
      (db.saveEntry build request).map fun (entry, after) => (.saved entry, after) :=
  Session.outcome_map ..

theorem outcome_remove (build : Build) (db : Auction) (code : String) :
    (remove code).outcome build db =
      (db.removeEntry build code).map fun after => (.removed, after) := by
  rw [outcome, session, Session.outcome_map, removeEntry]
  cases (Auction.remove build code).outcome db <;> rfl

theorem outcome_recompute (build : Build) (db : Auction) (teamSeason : Uuid) :
    (recompute teamSeason).outcome build db =
      (db.recompute build teamSeason).map fun (tiers, after) => (.recomputed tiers, after) :=
  Session.outcome_map ..

/-- Every operation is checked before its transaction begins, or is one transaction. -/
theorem atomic_session (build : Build) (operation : Operation) : (operation.session build).Atomic := by
  cases operation with
  | save request =>
      refine Session.Atomic.map ?_ _
      exact .check_bind _ fun _ => .check_bind _ fun _ => Session.atomic_transact _
  | remove code =>
      refine Session.Atomic.map ?_ _
      exact .check_bind _ fun _ => Session.atomic_transact _
  | recompute teamSeason => exact (Session.atomic_transact _).map _

/-- The records after an operation that fails are those before it. -/
theorem perform_of_error {error : Error} (answered : operation.outcome build db = .error error) :
    operation.perform build db = db := by
  rw [perform, (atomic_session build operation).call_eq]
  simp only [outcome] at answered
  rw [answered]

theorem perform_of_ok {answer : Answer} (answered : operation.outcome build db = .ok (answer, after)) :
    operation.perform build db = after := by
  rw [perform, (atomic_session build operation).call_eq]
  simp only [outcome] at answered
  rw [answered]

theorem answer_eq (build : Build) (db : Auction) (operation : Operation) :
    operation.answer build db = (operation.outcome build db).map (·.1) := by
  rw [answer, (atomic_session build operation).call_eq, outcome]
  cases (operation.session build).outcome db <;> rfl

end Operation

/-- Everything an operation does to sound records. -/
theorem exists_effect (build : Build) (sound : Sound db) (operation : Operation) :
    ∃ written ids, Effect build db operation written ids ∧
      Refreshed written ids (operation.perform build db) ∧ Sound (operation.perform build db) ∧
      ∀ id ∈ ids, written.Computes build id := by
  cases answered : operation.outcome build db with
  | error e =>
      rw [Operation.perform_of_error answered]
      exact ⟨db, [], .refused (by rw [answered]; rfl), .none db, sound, nofun⟩
  | ok result =>
      rw [Operation.perform_of_ok answered]
      cases operation with
      | save request =>
          rw [Operation.outcome_save] at answered
          obtain ⟨⟨entry, after⟩, saved, rfl⟩ := map_eq_ok.1 answered
          obtain ⟨written, save, passes⟩ := saveEntry_ok saved
          have soundWritten := save.sound sound
          obtain ⟨pass, soundAfter⟩ := passes_ok soundWritten passes
          exact ⟨written, _, .saved (by rw [saved]; rfl) save, pass, soundAfter,
            computes_of_passes soundWritten passes⟩
      | remove source =>
          rw [Operation.outcome_remove] at answered
          obtain ⟨after, removed, rfl⟩ := map_eq_ok.1 answered
          obtain ⟨old, member, -, passes⟩ := removeEntry_ok removed
          have soundWritten := sound_without sound old
          obtain ⟨pass, soundAfter⟩ := passes_ok soundWritten passes
          exact ⟨_, _, .removed member, pass, soundAfter, computes_of_passes soundWritten passes⟩
      | recompute id =>
          rw [Operation.outcome_recompute] at answered
          obtain ⟨⟨tiers, after⟩, recomputed, rfl⟩ := map_eq_ok.1 answered
          obtain ⟨pass, soundAfter, -⟩ := recompute_ok sound recomputed
          obtain ⟨-, computes⟩ := computes_of_recompute sound recomputed
          exact ⟨db, _, .recomputed id, pass, soundAfter, by simpa using computes⟩

/-- Every operation keeps sound records sound. -/
theorem sound_perform (build : Build) (sound : Sound db) (operation : Operation) :
    Sound (operation.perform build db) := by
  obtain ⟨_, _, _, _, soundAfter, _⟩ := exists_effect build sound operation
  exact soundAfter

namespace Effect

variable {operation : Operation} {ids : List Uuid}

/-- An operation writes entries only. -/
theorem frame (sound : Sound db) (effect : Effect build db operation written ids) :
    written = { db with entries := written.entries } := by
  cases effect with
  | refused | recomputed => rfl
  | saved _ save => exact (save.write sound).frame
  | removed => rfl

end Effect

end AuctionBudget.Auction
