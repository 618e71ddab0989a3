import AuctionBudget.Proofs.Auction.Caps

/-! # The outcome of a save

A save is accepted just when what it names exists, the season has room for it, and the code of its
entry is free or that of the entry that it edits. The entries are then the old ones with the entry
of the save in the place of the edited one. Nothing else changes but the views of the target and of
the team-season that the edited entry belonged to.
-/

namespace AuctionBudget.Auction

variable {build : Build} {db written after : Auction} {request : Assignment} {entry old : Entry}
variable {code player : String} {teamSeason id : Uuid} {edited : Option Entry}
variable {target : TeamSeason} {season : Season} {ids : List Uuid}

theorem trimmed_ne_empty_iff {source : String} :
    Text.trimmed source ≠ "" ↔ Text.isAllBlank source.toList = false := by
  rw [Text.trimmed, ne_eq, String.ofList_eq_empty_iff, Text.trim_eq_nil_iff, Bool.not_eq_true]

/-- The code of the entry that a request edits. A blank one names none. -/
def Assignment.editedCode? (request : Assignment) : Option String :=
  (request.entry.map Text.trimmed).filter (· ≠ "")

theorem editedEntry_eq (db : Auction) (request : Assignment) : db.editedEntry request =
    match request.editedCode? with
    | none => .ok none
    | some code => (db.requireEntry code).map some := by
  unfold editedEntry Assignment.editedCode?
  cases request.entry.map Text.trimmed with
  | none => rfl
  | some code =>
      by_cases blank : code = ""
      · simp [blank, Option.filter]
      · simp [blank, Option.filter]

theorem editedEntry_eq_ok (sound : Sound db) : db.editedEntry request = .ok edited ↔
    edited.map Entry.code = request.editedCode? ∧ ∀ old, edited = some old → old ∈ db.entries := by
  rw [editedEntry_eq]
  cases request.editedCode? with
  | none => cases edited <;> simp
  | some code =>
      simp only [map_eq_ok, requireEntry, required_eq_ok, entry?,
        Table.find?_eq_some_iff sound.entryCodes]
      cases edited with
      | none => simp
      | some old => simp [and_comm]

/-- The team-season and the season that a request is for. -/
structure Assignment.For (request : Assignment) (db : Auction) (target : TeamSeason)
    (season : Season) : Prop where
  known : target ∈ db.teamSeasons
  named : target.code = Text.trimmed request.teamSeason
  seasonKnown : season ∈ db.seasons
  seasonNamed : season.id = target.season

/-- The entry that a request edits, where it belongs to the target already. -/
structure Replaces (db : Auction) (request : Assignment) (target : TeamSeason) (old : Entry) :
    Prop where
  there : old ∈ db.entries
  named : request.editedCode? = some old.code
  here : old.teamSeason = target.id

theorem replaces_iff (sound : Sound db) (found : db.editedEntry request = .ok edited) :
    Replaces db request target old ↔ edited.filter (·.teamSeason = target.id) = some old := by
  obtain ⟨named, there⟩ := (editedEntry_eq_ok sound).1 found
  rw [Option.filter_eq_some_iff, decide_eq_true_eq]
  constructor
  · rintro ⟨member, same, here⟩
    obtain ⟨other, rfl, sameCode⟩ := Option.map_eq_some_iff.1 (named.trans same)
    rw [List.inj_on_of_nodup_map sound.entryCodes (there other rfl) member sameCode]
    exact ⟨rfl, here⟩
  · rintro ⟨rfl, here⟩
    exact ⟨there old rfl, named.symm, here⟩

/-- What a request needs besides a free code: its codes are there and name something, and there is
    room under every cap, counting the entry that it replaces as gone. -/
structure Admissible (db : Auction) (request : Assignment) (target : TeamSeason)
    (limits : SeasonLimits) : Prop where
  teamSeasonNamed : Text.trimmed request.teamSeason ≠ ""
  playerNamed : Text.trimmed request.player ≠ ""
  player : ∃ player ∈ db.players, player.code = Text.trimmed request.player
  entry : ∀ code, request.editedCode? = some code → ∃ old ∈ db.entries, old.code = code
  rtm : request.rtm = true → (∃ old, Replaces db request target old ∧ old.rtm = true) ∨
    target.totals.rtm < limits.maxRtm
  free : request.free = true → (∃ old, Replaces db request target old ∧ old.free = true) ∨
    target.totals.free < limits.maxFree
  players : (∃ old, Replaces db request target old) ∨ target.totals.players < limits.maxPlayers

theorem spare_or_iff {replaced : Option Entry} {flag : Entry → Bool} {room : Prop} :
    (replaced.any flag = false → room) ↔ (∃ old, replaced = some old ∧ flag old = true) ∨ room := by
  rw [← Option.any_eq_true]
  cases replaced.any flag <;> simp

theorem room_iff (sound : Sound db) (found : db.editedEntry request = .ok edited)
    {limits : SeasonLimits} :
    Room limits target.totals request (edited.filter (·.teamSeason = target.id)) ↔
      (request.rtm = true → (∃ old, Replaces db request target old ∧ old.rtm = true) ∨
        target.totals.rtm < limits.maxRtm) ∧
      (request.free = true → (∃ old, Replaces db request target old ∧ old.free = true) ∨
        target.totals.free < limits.maxFree) ∧
      ((∃ old, Replaces db request target old) ∨ target.totals.players < limits.maxPlayers) := by
  simp only [replaces_iff sound found]
  have slot {room : Prop} {replaced : Option Entry} :
      (replaced = none → room) ↔ (∃ old, replaced = some old) ∨ room := by
    cases replaced <;> simp
  constructor
  · rintro ⟨rtm, free, players⟩
    exact ⟨fun asked => spare_or_iff.1 (rtm asked), fun asked => spare_or_iff.1 (free asked),
      slot.1 players⟩
  · rintro ⟨rtm, free, players⟩
    exact ⟨fun asked => spare_or_iff.2 (rtm asked), fun asked => spare_or_iff.2 (free asked),
      slot.2 players⟩

/-- A code that a save may give to its entry: that of the edited entry, or one that is free. -/
def Available (db : Auction) (request : Assignment) (code : String) : Prop :=
  request.editedCode? = some code ∨ ∀ other ∈ db.entries, other.code ≠ code

/-- The entries with that of a save in the place of the edited one. -/
def Assignment.entriesIn (request : Assignment) (db : Auction) (target : TeamSeason) : List Entry :=
  let code := request.codeIn target
  if request.editedCode? = some code then
    db.entries.map fun old =>
      if old.code = code then
        { old with amount := request.amount, free := request.free, rtm := request.rtm }
      else old
  else
    db.entries.filter (fun old => request.editedCode? ≠ some old.code) ++
      [{ code, player := Text.trimmed request.player, teamSeason := target.id,
         amount := request.amount, free := request.free, rtm := request.rtm }]

/-- All sums fit that a save has to count: those over the target, and those over the team-season
    that the edited entry is moved from. -/
def CountableAfter (db : Auction) (request : Assignment) (target : TeamSeason) : Prop :=
  ∀ id, (id = target.id ∨ ∃ old ∈ db.entries, request.editedCode? = some old.code ∧
      old.code ≠ request.codeIn target ∧ old.teamSeason = id) →
    ({ db with entries := request.entriesIn db target } : Auction).Countable id

/-- The entry gets the numbers of the request. -/
theorem writeEntry_numbers
    (wrote : (writeEntry request code player teamSeason edited).outcome db = .ok (entry, written)) :
    entry.amount = request.amount ∧ entry.free = request.free ∧ entry.rtm = request.rtm := by
  rcases stays_or_moves edited code with ⟨old, rfl, stays⟩ | moves
  · rw [outcome_writeEntry_of_stays stays] at wrote
    cases wrote
    exact ⟨rfl, rfl, rfl⟩
  · rw [outcome_writeEntry_of_moves moves, outcome_insertEntry] at wrote
    split at wrote
    · cases wrote
    · cases wrote
      exact ⟨rfl, rfl, rfl⟩

/-- Taking out the edited entry leaves a code free just when it was before. -/
theorem has_others (moves : ∀ old, edited = some old → old.code ≠ code) :
    Table.has Entry.code code (db.others edited) = Table.has Entry.code code db.entries := by
  cases edited with
  | none => rfl
  | some old =>
      rw [others, Table.has, Table.find?_erase, if_neg fun same => moves old rfl same.symm, Table.has]

theorem others_eq (named : edited.map Entry.code = request.editedCode?) :
    db.others edited = db.entries.filter fun old => request.editedCode? ≠ some old.code := by
  rw [← named]
  cases edited with
  | none => simp [others]
  | some old => simp [others, Table.erase, eq_comm]

/-- An available code lets the entry be written in the place of the edited one. -/
theorem exists_writeEntry (sound : Sound db) (found : db.editedEntry request = .ok edited)
    (available : Available db request (request.codeIn target)) :
    ∃ entry, (writeEntry request (request.codeIn target) (Text.trimmed request.player) target.id
      edited).outcome db = .ok (entry, { db with entries := request.entriesIn db target }) := by
  obtain ⟨named, there⟩ := (editedEntry_eq_ok sound).1 found
  rcases stays_or_moves edited (request.codeIn target) with ⟨old, rfl, stays⟩ | moves
  · rw [outcome_writeEntry_of_stays stays]
    have inPlace : request.editedCode? = some (request.codeIn target) := by
      rw [← named, ← stays]
      rfl
    have changed : Table.update Entry.code (request.codeIn target) (fun _ => { old with
        amount := request.amount, free := request.free, rtm := request.rtm }) db.entries =
          request.entriesIn db target := by
      rw [Assignment.entriesIn, if_pos inPlace]
      refine List.map_congr_left fun other member => ?_
      by_cases here : other.code = request.codeIn target
      · have same : other = old :=
          List.inj_on_of_nodup_map sound.entryCodes member (there old rfl) (here.trans stays.symm)
        rw [same]
      · rw [if_neg here, if_neg here]
    rw [← changed]
    exact ⟨_, rfl⟩
  · have apart : request.editedCode? ≠ some (request.codeIn target) := by
      intro inPlace
      obtain ⟨old, here, same⟩ := Option.map_eq_some_iff.1 (named.trans inPlace)
      exact moves old here same
    have free : Table.has Entry.code (request.codeIn target) db.entries = false := by
      rw [Bool.eq_false_iff, ne_eq, Table.has_iff]
      rintro ⟨other, member, same⟩
      exact (available.resolve_left apart) other member same
    rw [outcome_writeEntry_of_moves moves, outcome_insertEntry, has_others moves, free, others_eq named,
      Assignment.entriesIn, if_neg apart]
    exact ⟨_, rfl⟩

theorem writeEntry_of_not_available (sound : Sound db)
    (found : db.editedEntry request = .ok edited) (taken : ¬ Available db request code) :
    (writeEntry request code player teamSeason edited).outcome db = .error (.existingKey code) := by
  obtain ⟨named, -⟩ := (editedEntry_eq_ok sound).1 found
  have moves : ∀ old, edited = some old → old.code ≠ code := by
    rintro old rfl same
    exact taken (.inl (by rw [← named, ← same]; rfl))
  have present : Table.has Entry.code code db.entries = true := by
    by_contra absent
    exact taken (.inr fun other member same => absent (Table.has_iff.2 ⟨other, member, same⟩))
  rw [outcome_writeEntry_of_moves moves, outcome_insertEntry, has_others moves, present]
  rfl

/-- A move to a code that is taken fails after the edited entry was taken out. It is the transaction
    that brings it back. -/
theorem run_writeEntry_of_taken (moves : old.code ≠ code)
    (taken : Table.has Entry.code code db.entries = true) :
    (writeEntry request code player teamSeason (some old)).run.run db =
      (.error (.existingKey code), db.without old) := by
  have movesAway : ∀ edited, some old = some edited → edited.code ≠ code := by
    rintro _ ⟨⟩
    exact moves
  have still : Table.has Entry.code code (Table.erase Entry.code old.code db.entries) = true :=
    (has_others movesAway).trans taken
  rw [writeEntry, if_neg moves]
  rw [run_modify_bind, insertEntry, run_get_bind]
  simp [still]
  rfl

/-- An accepted save gave its entry an available code. -/
theorem Written.available (write : Written db request code player teamSeason edited entry written)
    (named : edited.map Entry.code = request.editedCode?) : Available db request code := by
  rcases stays_or_moves edited code with ⟨old, rfl, same⟩ | moves
  · exact .inl (by rw [← named, ← same]; rfl)
  · refine .inr fun other member same => ?_
    rcases List.mem_append.1 (write.before.mem_iff.1 member) with edits | kept
    · exact moves other (by simpa using edits) same
    · exact write.fresh other kept same

/-- A request that is admissible has its entry written, and then its passes made. -/
theorem saveEntry_of_admissible (build : Build) (sound : Sound db) (isFor : request.For db target season)
    (admissible : Admissible db request target season.limits) :
    ∃ edited, db.editedEntry request = .ok edited ∧
      db.saveEntry build request =
        (do
          let (entry, written) ← (writeEntry request (request.codeIn target)
            (Text.trimmed request.player) target.id edited).outcome db
          let ((), after) ← (passes build (touched (request.codeIn target) target.id edited)).outcome
            written
          return (entry, after)) := by
  obtain ⟨edited, named, there⟩ : ∃ edited : Option Entry,
      edited.map Entry.code = request.editedCode? ∧
        ∀ old, edited = some old → old ∈ db.entries := by
    cases named : request.editedCode? with
    | none => exact ⟨none, rfl, by simp⟩
    | some code =>
        obtain ⟨old, member, rfl⟩ := admissible.entry code named
        exact ⟨some old, rfl, by rintro _ ⟨⟩; exact member⟩
  have found := (editedEntry_eq_ok sound).2 ⟨named, there⟩
  refine ⟨edited, found, ?_⟩
  have teamSeasonCode : requireCode "team season code" request.teamSeason =
      .ok (Text.trimmed request.teamSeason) :=
    requireCode_eq_ok.2 ⟨trimmed_ne_empty_iff.1 admissible.teamSeasonNamed, rfl⟩
  have playerCode : requireCode "player code" request.player = .ok (Text.trimmed request.player) :=
    requireCode_eq_ok.2 ⟨trimmed_ne_empty_iff.1 admissible.playerNamed, rfl⟩
  have targetFound : db.requireTeamSeasonCoded (Text.trimmed request.teamSeason) = .ok target :=
    required_eq_ok.2 ((Table.find?_eq_some_iff sound.teamSeasonCodes).2 ⟨isFor.known, isFor.named⟩)
  have seasonFound : db.requireSeason target.season = .ok season :=
    required_eq_ok.2
      ((Table.find?_eq_some_iff sound.seasonIds).2 ⟨isFor.seasonKnown, isFor.seasonNamed⟩)
  obtain ⟨player, playerKnown, playerNamed⟩ := admissible.player
  have playerFound : db.requirePlayer (Text.trimmed request.player) = .ok player :=
    required_eq_ok.2
      ((Table.find?_eq_some_iff sound.playerCodes).2 ⟨playerKnown, playerNamed⟩)
  have caps := checkCaps_eq_ok.2 ((room_iff sound found).2
    ⟨admissible.rtm, admissible.free, admissible.players⟩)
  simp only [saveEntry_eq, teamSeasonCode, playerCode, targetFound, seasonFound, playerFound, found,
    caps, ok_bind, playerNamed, Assignment.codeIn]

theorem Accepted.isFor (save : Accepted db request entry written) :
    request.For db save.target save.season where
  known := save.target_mem
  named := (Table.mem_of_find?_eq_some save.targetFound).2
  seasonKnown := (Table.mem_of_find?_eq_some save.seasonFound).1
  seasonNamed := (Table.mem_of_find?_eq_some save.seasonFound).2

theorem Accepted.admissible (save : Accepted db request entry written) (sound : Sound db) :
    Admissible db request save.target save.season.limits := by
  obtain ⟨named, there⟩ := (editedEntry_eq_ok sound).1 save.editedFound
  obtain ⟨rtm, free, players⟩ := (room_iff sound save.editedFound).1 (checkCaps_eq_ok.1 save.caps)
  exact {
    teamSeasonNamed := trimmed_ne_empty_iff.2 save.teamSeasonNamed
    playerNamed := trimmed_ne_empty_iff.2 save.playerNamed
    player := Table.isSome_find?_iff.1 save.playerFound
    entry := by
      intro code same
      obtain ⟨old, here, sameCode⟩ := Option.map_eq_some_iff.1 (named.trans same)
      exact ⟨old, there old here, sameCode⟩
    rtm, free, players }

/-- Requests for one team-season and season are for no others. -/
theorem Assignment.For.unique {target' : TeamSeason} {season' : Season} (sound : Sound db)
    (first : request.For db target season) (second : request.For db target' season') :
    target = target' ∧ season = season' := by
  have same : target = target' := List.inj_on_of_nodup_map sound.teamSeasonCodes first.known
    second.known (first.named.trans second.named.symm)
  subst same
  exact ⟨rfl, List.inj_on_of_nodup_map sound.seasonIds first.seasonKnown second.seasonKnown
    (first.seasonNamed.trans second.seasonNamed.symm)⟩

/-- The passes of a save run over the target, and over the team-season that the edited entry is moved
    from. -/
theorem forall_touched_iff (found : db.editedEntry request = .ok edited) (sound : Sound db)
    {condition : Uuid → Prop} :
    (∀ id ∈ touched (request.codeIn target) target.id edited, condition id) ↔
      ∀ id, (id = target.id ∨ ∃ old ∈ db.entries, request.editedCode? = some old.code ∧
        old.code ≠ request.codeIn target ∧ old.teamSeason = id) → condition id := by
  obtain ⟨named, there⟩ := (editedEntry_eq_ok sound).1 found
  refine forall_congr' fun id => imp_congr_left (mem_touched.trans (or_congr_right ?_))
  constructor
  · rintro ⟨old, rfl, moves, here⟩
    exact ⟨old, there old rfl, named.symm, moves, here⟩
  · rintro ⟨old, member, edits, moves, here⟩
    obtain ⟨other, same, code⟩ := Option.map_eq_some_iff.1 (named.trans edits)
    rw [List.inj_on_of_nodup_map sound.entryCodes (there other same) member code] at same
    exact ⟨old, same, moves, here⟩

/-- What an admissible request for an available code comes to: its passes, over the written entry. -/
theorem saveEntry_of_available (build : Build) (sound : Sound db) (isFor : request.For db target season)
    (admissible : Admissible db request target season.limits)
    (available : Available db request (request.codeIn target)) :
    ∃ edited entry, db.editedEntry request = .ok edited ∧
      Sound ({ db with entries := request.entriesIn db target } : Auction) ∧
      (∀ id ∈ touched (request.codeIn target) target.id edited, (db.teamSeason? id).isSome) ∧
      db.saveEntry build request =
        ((passes build (touched (request.codeIn target) target.id edited)).outcome
          { db with entries := request.entriesIn db target }).map fun ((), after) =>
            (entry, after) := by
  obtain ⟨edited, found, steps⟩ := saveEntry_of_admissible build sound isFor admissible
  obtain ⟨entry, wrote⟩ := exists_writeEntry sound found available
  have there := ((editedEntry_eq_ok sound).1 found).2
  have write := writeEntry_ok sound there wrote
  have playerKnown : (db.player? (Text.trimmed request.player)).isSome :=
    Table.isSome_find?_iff.2 admissible.player
  have targetKnown : (db.teamSeason? target.id).isSome :=
    isSome_teamSeason?_iff.2 ⟨target, isFor.known, rfl⟩
  refine ⟨edited, entry, found, write.sound sound playerKnown targetKnown, ?_, ?_⟩
  · intro id member
    rcases mem_touched.1 member with rfl | ⟨old, same, -, rfl⟩
    · exact targetKnown
    · exact sound.entryTeamSeason old (there old same)
  · rw [steps, wrote, ok_bind]
    dsimp only
    cases (passes build (touched (request.codeIn target) target.id edited)).outcome
      { db with entries := request.entriesIn db target } <;> rfl

theorem exists_saveEntry (sound : Sound db) (isFor : request.For db target season)
    (admissible : Admissible db request target season.limits)
    (available : Available db request (request.codeIn target))
    (countable : build = .checked → CountableAfter db request target) :
    ∃ entry after, db.saveEntry build request = .ok (entry, after) := by
  obtain ⟨edited, entry, found, soundWritten, known, steps⟩ :=
    saveEntry_of_available build sound isFor admissible available
  have computes : ∀ id ∈ touched (request.codeIn target) target.id edited,
      ({ db with entries := request.entriesIn db target } : Auction).Computes build id :=
    (forall_touched_iff found sound).2 fun id here checked => countable checked id here
  obtain ⟨after, passed⟩ := exists_passes soundWritten known computes
  exact ⟨entry, after, by rw [steps, passed]; rfl⟩

/-- A checked build refuses a save that it cannot count. -/
theorem saveEntry_of_not_countable (sound : Sound db) (isFor : request.For db target season)
    (admissible : Admissible db request target season.limits)
    (available : Available db request (request.codeIn target))
    (stops : ¬ (build = .checked → CountableAfter db request target)) :
    db.saveEntry build request = .error .overflow := by
  obtain ⟨edited, entry, found, soundWritten, known, steps⟩ :=
    saveEntry_of_available build sound isFor admissible available
  have stops : ¬ ∀ id ∈ touched (request.codeIn target) target.id edited,
      ({ db with entries := request.entriesIn db target } : Auction).Computes build id := by
    intro computes
    refine stops fun checked id here => ?_
    exact (forall_touched_iff found sound).1 computes id here checked
  rw [steps, passes_of_not_computes soundWritten known stops]
  rfl

theorem saveEntry_of_not_available (build : Build) (sound : Sound db)
    (isFor : request.For db target season)
    (admissible : Admissible db request target season.limits)
    (taken : ¬ Available db request (request.codeIn target)) :
    db.saveEntry build request = .error (.existingKey (request.codeIn target)) := by
  obtain ⟨edited, found, steps⟩ := saveEntry_of_admissible build sound isFor admissible
  rw [steps, writeEntry_of_not_available sound found taken]
  rfl

/-- The conditions under which a save is accepted. -/
theorem saveEntry_accepted_iff (sound : Sound db) (build : Build) (request : Assignment) :
    (∃ entry after, db.saveEntry build request = .ok (entry, after)) ↔
      ∃ target season, request.For db target season ∧
        Admissible db request target season.limits ∧
        Available db request (request.codeIn target) ∧
        (build = .checked → CountableAfter db request target) := by
  constructor
  · rintro ⟨entry, after, answered⟩
    obtain ⟨written, save, -⟩ := saveEntry_ok answered
    have admissible := save.admissible sound
    have available := (save.write sound).available ((editedEntry_eq_ok sound).1 save.editedFound).1
    refine ⟨save.target, save.season, save.isFor, admissible, available, ?_⟩
    by_contra stops
    cases (saveEntry_of_not_countable sound save.isFor admissible available stops).symm.trans answered
  · rintro ⟨target, season, isFor, admissible, available, countable⟩
    exact exists_saveEntry sound isFor admissible available countable

/-- The entries under their codes, after one was put in the place of the edited one. -/
theorem Written.entry? (write : Written db request code player teamSeason edited entry written)
    (sound : Sound db) (distinct : (written.entries.map Entry.code).Nodup) (key : String) :
    written.entry? key = if key = code then some entry
      else if edited.map Entry.code = some key then none else db.entry? key := by
  have mem {other : Entry} :
      other ∈ written.entries ↔ other = entry ∨ other ∈ db.others edited := by
    rw [write.after.mem_iff, List.mem_cons]
  by_cases new : key = code
  · rw [if_pos new]
    exact (Table.find?_eq_some_iff distinct).2 ⟨mem.2 (.inl rfl), write.coded.trans new.symm⟩
  rw [if_neg new]
  by_cases gone : edited.map Entry.code = some key
  · rw [if_pos gone]
    obtain ⟨old, rfl, rfl⟩ := Option.map_eq_some_iff.1 gone
    refine Table.find?_eq_none_iff.2 fun other member => ?_
    rcases mem.1 member with rfl | kept
    · exact fun same => new (same.symm.trans write.coded)
    · exact (Table.mem_erase.1 kept).2
  · rw [if_neg gone]
    have kept (other : Entry) (here : other.code = key) :
        other ∈ written.entries ↔ other ∈ db.entries := by
      have notNew : other ≠ entry := fun same => new (by rw [← here, same, write.coded])
      have notOld : other ∉ edited.toList := fun same =>
        gone (by rw [Option.mem_toList.1 same, ← here]; rfl)
      rw [mem, write.before.mem_iff, List.mem_append]
      simp only [notNew, notOld, false_or]
    refine Option.ext fun other => ?_
    rw [Auction.entry?, Auction.entry?, Table.find?_eq_some_iff distinct,
      Table.find?_eq_some_iff sound.entryCodes]
    constructor
    · rintro ⟨member, here⟩
      exact ⟨(kept other here).1 member, here⟩
    · rintro ⟨member, here⟩
      exact ⟨(kept other here).2 member, here⟩

/-- A team-season that no pass runs over stays as it is stored. -/
theorem Refreshed.teamSeason?_of_not_mem (pass : Refreshed db ids after) (outside : id ∉ ids) :
    after.teamSeason? id = db.teamSeason? id := by
  rw [teamSeason?, Table.find?, pass.teamSeasons, List.find?_map]
  have keyed : ((fun t : TeamSeason => decide (t.id = id)) ∘ fun t =>
      if t.id ∈ ids then { t with totals := tally (db.roster t.id) } else t) =
        fun t => decide (t.id = id) := by
    funext t
    by_cases inside : t.id ∈ ids <;> simp [inside]
  rw [keyed]
  cases found : db.teamSeasons.find? fun t => decide (t.id = id) with
  | none => exact found.symm
  | some t =>
      have here : t.id = id := by simpa using List.find?_some found
      rw [Option.map_some, if_neg (here ▸ outside)]
      exact found.symm

/-- What an accepted save leaves: the entry with the numbers of the request in the place of the
    edited one, and everything as it was but the views of two team-seasons. -/
structure Saved (db : Auction) (request : Assignment) (target : TeamSeason) (entry : Entry)
    (after : Auction) : Prop where
  numbers : entry.amount = request.amount ∧ entry.free = request.free ∧ entry.rtm = request.rtm
  entries : ∀ code, after.entry? code =
    if code = request.codeIn target then some entry
    else if request.editedCode? = some code then none
    else db.entry? code
  distinct : (after.entries.map Entry.code).Nodup
  inserted : request.editedCode? ≠ some (request.codeIn target) →
    entry.player = Text.trimmed request.player ∧ entry.teamSeason = target.id
  inPlace : request.editedCode? = some (request.codeIn target) →
    ∃ old, db.entry? (request.codeIn target) = some old ∧
      entry.player = old.player ∧ entry.teamSeason = old.teamSeason
  seasons : after.seasons = db.seasons
  tiers : after.tiers = db.tiers
  players : after.players = db.players
  rules : after.rules = db.rules
  teamSeasons : after.teamSeasons.map (fun t => (t.id, t.code, t.season)) =
    db.teamSeasons.map fun t => (t.id, t.code, t.season)
  views : ∀ id, id ≠ target.id →
    (∀ old ∈ db.entries, request.editedCode? = some old.code → old.teamSeason ≠ id) →
    after.teamSeason? id = db.teamSeason? id ∧ after.aggregatesOf id = db.aggregatesOf id

theorem Accepted.saved (save : Accepted db request entry written) (sound : Sound db)
    (pass : Refreshed written
      (touched (request.codeIn save.target) save.target.id save.edited) after)
    (soundAfter : Sound after) : Saved db request save.target entry after := by
  have write := save.write sound
  obtain ⟨named, there⟩ := (editedEntry_eq_ok sound).1 save.editedFound
  have distinct : (written.entries.map Entry.code).Nodup := pass.entries ▸ soundAfter.entryCodes
  exact {
    numbers := writeEntry_numbers save.wrote
    entries := by
      intro code
      rw [← named, ← write.entry? sound distinct, Auction.entry?, Auction.entry?, pass.entries]
    distinct := soundAfter.entryCodes
    inserted := by
      intro moves
      rcases write.owner with ⟨old, same, code, -⟩ | ⟨-, owner⟩
      · exact absurd (by rw [← named, same, ← code]; rfl) moves
      · exact owner
    inPlace := by
      intro stays
      obtain ⟨old, same, code⟩ := Option.map_eq_some_iff.1 (named.trans stays)
      rcases write.owner with ⟨_, same', -, owner⟩ | ⟨moves, -⟩
      · cases same.symm.trans same'
        exact ⟨old, (Table.find?_eq_some_iff sound.entryCodes).2 ⟨there old same, code⟩, owner⟩
      · exact absurd code (moves old same)
    seasons := pass.seasons.trans write.seasons
    tiers := pass.tiers.trans write.tiers
    players := pass.players.trans write.players
    rules := pass.rules.trans (by rw [write.frame])
    teamSeasons := by
      rw [pass.map_teamSeasons (fun t => (t.id, t.code, t.season)) fun _ _ => rfl,
        write.teamSeasons]
    views := by
      intro id notTarget notEdited
      have outside : id ∉ touched (request.codeIn save.target) save.target.id save.edited := by
        rw [mem_touched]
        rintro (here | ⟨old, same, -, here⟩)
        · exact notTarget here
        · exact notEdited old (there old same) (by rw [← named, same]; rfl) here
      rw [pass.teamSeason?_of_not_mem outside, pass.kept id outside, teamSeason?, teamSeason?,
        write.teamSeasons, aggregatesOf, aggregatesOf, write.aggregates]
      exact ⟨rfl, rfl⟩ }

theorem saved_of_saveEntry (sound : Sound db)
    (answered : db.saveEntry build request = .ok (entry, after)) :
    ∃ target season, request.For db target season ∧ Saved db request target entry after := by
  obtain ⟨written, save, passed⟩ := saveEntry_ok answered
  obtain ⟨pass, soundAfter⟩ := passes_ok (save.sound sound) passed
  exact ⟨save.target, save.season, save.isFor, save.saved sound pass soundAfter⟩

/-- A save is accepted just when its request is admissible and the code of its entry available, and,
    in a checked build, the rosters that it changes can be counted. Then the entry is put in the
    place of the edited one and nothing else changes but two views. Otherwise nothing changes,
    whatever was written until the save failed. -/
theorem saveEntry_outcome (sound : Sound db) (build : Build) (request : Assignment) :
    ((∃ entry after, db.saveEntry build request = .ok (entry, after)) ↔
      ∃ target season, request.For db target season ∧
        Admissible db request target season.limits ∧
        Available db request (request.codeIn target) ∧
        (build = .checked → CountableAfter db request target)) ∧
    (∀ entry after, db.saveEntry build request = .ok (entry, after) →
      (Operation.save request).perform build db = after ∧
      ∃ target season, request.For db target season ∧ Saved db request target entry after) ∧
    ((db.saveEntry build request).isOk = false →
      (Operation.save request).perform build db = db) := by
  refine ⟨saveEntry_accepted_iff sound build request, ?_, ?_⟩
  · intro entry after answered
    have outcome : (Operation.save request).outcome build db = .ok (.saved entry, after) := by
      rw [Operation.outcome_save, answered]
      rfl
    exact ⟨Operation.perform_of_ok outcome, saved_of_saveEntry sound answered⟩
  · intro refused
    cases answered : db.saveEntry build request with
    | error error =>
        have outcome : (Operation.save request).outcome build db = .error error := by
          rw [Operation.outcome_save, answered]
          rfl
        exact Operation.perform_of_error outcome
    | ok result => simp [answered, Except.isOk, Except.toBool] at refused

/-- On a full roster `px` takes the place of `p`, and the right to match is used. -/
theorem saveEntry_swap_on_full : Sound besidesFull ∧
    ∃ entry after target season,
      besidesFull.saveEntry .checked { repricing "x1" with rtm := true } = .ok (entry, after) ∧
      Assignment.For { repricing "x1" with rtm := true } besidesFull target season ∧
      Saved besidesFull { repricing "x1" with rtm := true } target entry after := by
  obtain ⟨-, effect, -⟩ :=
    saveEntry_outcome sound_besidesFull .checked { repricing "x1" with rtm := true }
  have accepted :
      (besidesFull.saveEntry .checked { repricing "x1" with rtm := true }).isOk = true := by
    decide +kernel
  cases answered : besidesFull.saveEntry .checked { repricing "x1" with rtm := true } with
  | error => simp [answered, Except.isOk, Except.toBool] at accepted
  | ok result =>
      obtain ⟨-, target, season, isFor, saved⟩ := effect result.1 result.2 answered
      exact ⟨sound_besidesFull, result.1, result.2, target, season, rfl, isFor, saved⟩

end AuctionBudget.Auction
