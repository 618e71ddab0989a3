import AuctionBudget.Proofs.Auction.Outcome

/-! # What a team-season sees

Operations share the seasons, the tiers, the players and the rules. Beyond these an operation on a
team-season reads only what belongs to the team-season, and it leaves alone what belongs to others.
With what belongs to others taken away, it answers the same and leaves the same behind.
-/

namespace AuctionBudget

/-- The team-season with its totals, or, where it is another one, without them. -/
def TeamSeason.seenFrom (id : Uuid) (teamSeason : TeamSeason) : TeamSeason :=
  if teamSeason.id = id then teamSeason else { teamSeason with totals := .zero }

namespace TeamSeason

variable {id : Uuid} {teamSeason : TeamSeason}

theorem seenFrom_of_eq (here : teamSeason.id = id) : teamSeason.seenFrom id = teamSeason :=
  if_pos here

@[simp] theorem id_seenFrom : (teamSeason.seenFrom id).id = teamSeason.id := by
  unfold seenFrom
  split <;> rfl

@[simp] theorem code_seenFrom : (teamSeason.seenFrom id).code = teamSeason.code := by
  unfold seenFrom
  split <;> rfl

end TeamSeason

namespace Auction

variable {build : Build} {db after : Auction} {request : Assignment} {id other : Uuid}
variable {operation : Operation} {code player : String} {edited : Option Entry}

/-- The records without the totals, entries and aggregates of other team-seasons. -/
def focus (db : Auction) (id : Uuid) : Auction :=
  { db with
    teamSeasons := db.teamSeasons.map (TeamSeason.seenFrom id)
    entries := db.roster id
    aggregates := db.aggregates.filter (·.teamSeason = id) }

theorem roster_focus (db : Auction) (id : Uuid) : (db.focus id).roster id = db.roster id := by
  simp [roster, focus]

theorem teamSeason?_focus (db : Auction) (id : Uuid) :
    (db.focus id).teamSeason? id = db.teamSeason? id := by
  rw [teamSeason?, focus, Table.find?_map fun _ => TeamSeason.id_seenFrom]
  cases found : db.teamSeason? id with
  | none => rw [teamSeason?] at found; rw [found]; rfl
  | some teamSeason =>
      have here := (Table.mem_of_find?_eq_some found).2
      rw [teamSeason?] at found
      rw [found, Option.map_some, TeamSeason.seenFrom_of_eq here]

theorem storedCeiling?_focus (db : Auction) (id : Uuid) (tier : String) :
    (db.focus id).storedCeiling? id tier = db.storedCeiling? id tier := by
  simp only [storedCeiling?, focus, List.find?_filter]
  congr 2
  funext row
  by_cases here : row.teamSeason = id <;> simp [here]

theorem storeView_focus (db : Auction) (id : Uuid) (totals : TeamTotals)
    (tiers : List TierAggregate) :
    (db.focus id).storeView id totals tiers = (db.storeView id totals tiers).focus id := by
  have teamSeasons :
      Table.update TeamSeason.id id ({ · with totals })
        (db.teamSeasons.map (TeamSeason.seenFrom id)) =
      (Table.update TeamSeason.id id ({ · with totals }) db.teamSeasons).map
        (TeamSeason.seenFrom id) := by
    rw [Table.update, Table.update, List.map_map, List.map_map]
    refine List.map_congr_left fun teamSeason _ => ?_
    by_cases here : teamSeason.id = id
    · simp [TeamSeason.seenFrom, here]
    · simp [TeamSeason.seenFrom, here]
  have own : ∀ row ∈ tiers.map (AggregateRow.mk id), decide (row.teamSeason = id) = true := by
    intro row member
    obtain ⟨tier, -, rfl⟩ := List.mem_map.1 member
    exact decide_eq_true rfl
  simp only [storeView_eq, focus, teamSeasons, roster,
    Table.filter_foldl_upsert_of_pos (teamSeason_of_key id) own]

/-- A pass sees nothing of other team-seasons. -/
theorem recompute_focus (build : Build) (db : Auction) (id : Uuid) :
    (db.focus id).recompute build id =
      (db.recompute build id).map fun (tiers, after) => (tiers, after.focus id) := by
  have lines : (db.focus id).rosterLines id = db.rosterLines id := by
    rw [rosterLines, rosterLines, roster_focus]
    rfl
  have context (totals : RosterTotals) (limits : SeasonLimits) :
      (db.focus id).passContext id totals limits = db.passContext id totals limits := by
    simp only [passContext, storedCeiling?_focus]
    rfl
  simp only [recompute_eq_steps, map_bind, requireTeamSeason, teamSeason?_focus, lines, context,
    storeView_focus]
  rfl

/-- One pass makes a row of passes. -/
theorem outcome_passes_singleton (build : Build) (id : Uuid) (db : Auction) :
    (passes build [id]).outcome db =
      (db.recompute build id).map fun (_, after) => ((), after) := by
  rw [outcome_passes_cons]
  cases db.recompute build id <;> rfl

theorem passes_focus (build : Build) (db : Auction) (id : Uuid) :
    (passes build [id]).outcome (db.focus id) =
      ((passes build [id]).outcome db).map fun (_, after) => ((), after.focus id) := by
  rw [outcome_passes_singleton, outcome_passes_singleton, recompute_focus]
  cases db.recompute build id <;> rfl

/-- A pass leaves alone what belongs to others. -/
theorem focus_recompute_of_ne {tiers : List TierAggregate} (away : id ≠ other)
    (answered : db.recompute build id = .ok (tiers, after)) : after.focus other = db.focus other := by
  obtain ⟨totals, rfl⟩ := exists_storeView answered
  have teamSeasons :
      (Table.update TeamSeason.id id ({ · with totals }) db.teamSeasons).map
        (TeamSeason.seenFrom other) = db.teamSeasons.map (TeamSeason.seenFrom other) := by
    rw [Table.update, List.map_map]
    refine List.map_congr_left fun teamSeason _ => ?_
    by_cases here : teamSeason.id = id
    · simp [TeamSeason.seenFrom, here, away]
    · simp [here]
  have foreign : ∀ row ∈ tiers.map (AggregateRow.mk id), decide (row.teamSeason = other) = false := by
    intro row member
    obtain ⟨tier, -, rfl⟩ := List.mem_map.1 member
    exact decide_eq_false away
  simp only [storeView_eq, focus, teamSeasons, roster,
    Table.filter_foldl_upsert_of_not (teamSeason_of_key other) foreign]

theorem focus_passes_of_ne (away : id ≠ other)
    (answered : (passes build [id]).outcome db = .ok ((), after)) :
    after.focus other = db.focus other := by
  rw [outcome_passes_singleton] at answered
  obtain ⟨⟨tiers, between⟩, recomputed, same⟩ := map_eq_ok.1 answered
  cases same
  exact focus_recompute_of_ne away recomputed

namespace Operation

/-- The code of the entry that an operation names. A blank code names none. -/
def entryNamed? : Operation → Option String
  | .save request => request.editedCode?
  | .remove code => some (Text.trimmed code) |>.filter (· ≠ "")
  | .recompute _ => none

/-- The operation asks for no other team-season than this one. -/
def IsFor (db : Auction) (id : Uuid) : Operation → Prop
  | .save request => ∀ teamSeason ∈ db.teamSeasons,
      teamSeason.code = Text.trimmed request.teamSeason → teamSeason.id = id
  | .remove _ => True
  | .recompute other => other = id

/-- The operation is for a team-season, and the entry that it names is one of its roster. -/
structure StaysAt (db : Auction) (id : Uuid) (operation : Operation) : Prop where
  isFor : operation.IsFor db id
  entry : ∀ code, operation.entryNamed? = some code → ∃ old ∈ db.roster id, old.code = code

theorem staysAt_focus : operation.StaysAt (db.focus id) id ↔ operation.StaysAt db id := by
  have isFor : operation.IsFor (db.focus id) id ↔ operation.IsFor db id := by
    cases operation <;> simp [IsFor, focus]
  constructor
  · rintro ⟨asks, entry⟩
    exact ⟨isFor.1 asks, by rwa [roster_focus] at entry⟩
  · rintro ⟨asks, entry⟩
    exact ⟨isFor.2 asks, by rwa [roster_focus]⟩

theorem StaysAt.of_focus_eq (stays : operation.StaysAt db id) (same : after.focus id = db.focus id) :
    operation.StaysAt after id := by
  rwa [← staysAt_focus, same, staysAt_focus]

end Operation

theorem mem_roster {entry : Entry} :
    entry ∈ db.roster id ↔ entry ∈ db.entries ∧ entry.teamSeason = id := by
  simp [roster]

theorem entry?_focus (sound : Sound db) (named : ∃ old ∈ db.roster id, old.code = code) :
    entry? (db.focus id) code = db.entry? code := by
  obtain ⟨old, here, rfl⟩ := named
  have rosterCodes : ((db.roster id).map Entry.code).Nodup :=
    sound.entryCodes.sublist (List.filter_sublist.map Entry.code)
  have kept : entry? (db.focus id) old.code = some old :=
    (Table.find?_eq_some_iff rosterCodes).2 ⟨here, rfl⟩
  rw [kept]
  exact ((Table.find?_eq_some_iff sound.entryCodes).2 ⟨roster_subset here, rfl⟩).symm

theorem editedEntry_focus (sound : Sound db)
    (named : ∀ code, request.editedCode? = some code → ∃ old ∈ db.roster id, old.code = code) :
    (db.focus id).editedEntry request = db.editedEntry request := by
  rw [editedEntry_eq, editedEntry_eq]
  cases edits : request.editedCode? with
  | none => rfl
  | some code => simp only [requireEntry, entry?_focus sound (named code edits)]

theorem editedEntry_mem_roster (sound : Sound db)
    (named : ∀ code, request.editedCode? = some code → ∃ old ∈ db.roster id, old.code = code)
    (found : db.editedEntry request = .ok edited) : ∀ old, edited = some old → old ∈ db.roster id := by
  rintro old rfl
  rw [← editedEntry_focus sound named] at found
  exact editedEntry_ok found

theorem teamSeasonCoded?_focus
    (only : ∀ teamSeason ∈ db.teamSeasons, teamSeason.code = code → teamSeason.id = id) :
    (db.focus id).teamSeasonCoded? code = db.teamSeasonCoded? code := by
  rw [teamSeasonCoded?, focus, Table.find?_map fun _ => TeamSeason.code_seenFrom]
  cases found : Table.find? TeamSeason.code code db.teamSeasons with
  | none => rw [teamSeasonCoded?, found]; rfl
  | some teamSeason =>
      obtain ⟨member, same⟩ := Table.mem_of_find?_eq_some found
      rw [teamSeasonCoded?, found, Option.map_some,
        TeamSeason.seenFrom_of_eq (only teamSeason member same)]

/-- Every entry with a code belongs to one team-season. -/
def CodeStaysAt (db : Auction) (id : Uuid) (code : String) : Prop :=
  ∀ old ∈ db.entries, old.code = code → old.teamSeason = id

/-- A code that stays at a team-season is taken just when an entry of the team-season has it. -/
theorem has_filter {entries : List Entry} (known : entries ⊆ db.entries)
    (stays : db.CodeStaysAt id code) :
    Table.has Entry.code code (entries.filter (·.teamSeason = id)) =
      Table.has Entry.code code entries := by
  rw [Bool.eq_iff_iff, Table.has_iff, Table.has_iff]
  constructor
  · rintro ⟨old, member, same⟩
    exact ⟨old, (List.mem_filter.1 member).1, same⟩
  · rintro ⟨old, member, same⟩
    have here := stays old (known member) same
    exact ⟨old, List.mem_filter.2 ⟨member, decide_eq_true here⟩, same⟩

theorem others_subset (db : Auction) (edited : Option Entry) : db.others edited ⊆ db.entries := by
  intro entry member
  cases edited with
  | none => exact member
  | some old => exact (Table.mem_erase.1 member).1

/-- The code that a save gives to its entry belongs to its team-season, where codes are distinct. -/
theorem codeStaysAt (sound : Sound db) (own : db.OwnCodes) (distinct : db.DistinctCodes)
    {target : TeamSeason} (playerKnown : (db.player? player).isSome)
    (known : target ∈ db.teamSeasons) : db.CodeStaysAt target.id (entryCode player target.code) :=
  fun _ member same => (eq_of_entryCode_eq sound own distinct playerKnown known member same).2

theorem others_focus (db : Auction) (id : Uuid) (edited : Option Entry) :
    (db.focus id).others edited = (db.others edited).filter (·.teamSeason = id) := by
  cases edited with
  | none => rfl
  | some old => exact List.filter_comm _ _ db.entries

/-- The roster of another team-season keeps its entries when an entry of this one goes. -/
theorem filter_others_of_ne (sound : Sound db) (away : id ≠ other)
    (there : ∀ old, edited = some old → old ∈ db.roster id) :
    (db.others edited).filter (·.teamSeason = other) = db.roster other := by
  cases edited with
  | none => rfl
  | some old =>
      obtain ⟨member, here⟩ := mem_roster.1 (there old rfl)
      rw [others, Table.erase, List.filter_filter]
      refine List.filter_congr fun entry entryMember => ?_
      by_cases same : entry.code = old.code
      · have : entry = old := List.inj_on_of_nodup_map sound.entryCodes entryMember member same
        simp [this, here, away]
      · simp [same]

/-- An entry that is changed in place is changed in the roster of its team-season. -/
theorem filter_update (stays : db.CodeStaysAt id code) {entry : Entry}
    (here : entry.teamSeason = id) :
    (Table.update Entry.code code (fun _ => entry) db.entries).filter (·.teamSeason = id) =
      Table.update Entry.code code (fun _ => entry) (db.roster id) := by
  rw [Table.update, List.filter_map, roster, Table.update]
  refine congrArg _ (List.filter_congr fun old member => ?_)
  by_cases same : old.code = code
  · simp [same, here, stays old member same]
  · simp [same]

theorem filter_update_of_ne (stays : db.CodeStaysAt id code) (away : id ≠ other) {entry : Entry}
    (here : entry.teamSeason = id) :
    (Table.update Entry.code code (fun _ => entry) db.entries).filter (·.teamSeason = other) =
      db.roster other := by
  have untouched : ∀ old ∈ db.roster other, old.code ≠ code := by
    intro old member same
    obtain ⟨there, belongs⟩ := mem_roster.1 member
    exact away ((stays old there same).symm.trans belongs)
  rw [Table.update, List.filter_map, roster]
  have kept : db.entries.filter ((fun entry : Entry => decide (entry.teamSeason = other)) ∘
      fun old => if old.code = code then entry else old) = db.roster other := by
    refine List.filter_congr fun old member => ?_
    by_cases same : old.code = code
    · simp [same, here, stays old member same]
    · simp [same]
  rw [kept]
  conv_rhs => rw [← List.map_id (db.entries.filter _)]
  exact List.map_congr_left fun old member => if_neg (untouched old member)

/-- Writing an entry sees nothing of other team-seasons. -/
theorem writeEntry_focus (stays : db.CodeStaysAt id code)
    (there : ∀ old, edited = some old → old ∈ db.roster id) :
    (writeEntry request code player id edited).outcome (db.focus id) =
      ((writeEntry request code player id edited).outcome db).map
        fun (entry, written) => (entry, written.focus id) := by
  rcases stays_or_moves edited code with ⟨old, rfl, rfl⟩ | moves
  · have here := (mem_roster.1 (there old rfl)).2
    rw [outcome_writeEntry_of_stays rfl, outcome_writeEntry_of_stays rfl]
    simp only [Except.map, focus]
    congr 3
    refine (filter_update stays ?_).symm
    exact here
  · rw [outcome_writeEntry_of_moves moves, outcome_writeEntry_of_moves moves, outcome_insertEntry,
      outcome_insertEntry]
    simp only [others_focus, has_filter (db.others_subset edited) stays]
    split
    · rfl
    · simp [Except.map, focus, roster]

/-- Writing an entry leaves alone what belongs to others. -/
theorem focus_writeEntry_of_ne (sound : Sound db) (stays : db.CodeStaysAt id code)
    (there : ∀ old, edited = some old → old ∈ db.roster id) (away : id ≠ other) {entry : Entry}
    {written : Auction}
    (wrote : (writeEntry request code player id edited).outcome db = .ok (entry, written)) :
    written.focus other = db.focus other := by
  rcases stays_or_moves edited code with ⟨old, rfl, rfl⟩ | moves
  · have here := (mem_roster.1 (there old rfl)).2
    rw [outcome_writeEntry_of_stays rfl] at wrote
    cases wrote
    simp only [focus]
    congr 1
    refine filter_update_of_ne stays away ?_
    exact here
  · rw [outcome_writeEntry_of_moves moves, outcome_insertEntry] at wrote
    split at wrote
    · cases wrote
    · cases wrote
      simp [focus, roster, filter_others_of_ne sound away there, away]

/-- A save that edits an entry of its team-season passes over no other. -/
theorem touched_of_mem_roster (there : ∀ old, edited = some old → old ∈ db.roster id) :
    touched code id edited = [id] := by
  cases edited with
  | none => rfl
  | some old => exact if_neg fun moves => moves.2 (mem_roster.1 (there old rfl)).2

section Operations

variable (sound : Sound db) (own : db.OwnCodes) (distinct : db.DistinctCodes)

include sound own distinct

theorem saveEntry_focus (stays : (Operation.save request).StaysAt db id) :
    (db.focus id).saveEntry build request =
      (db.saveEntry build request).map fun (entry, after) => (entry, after.focus id) := by
  simp only [saveEntry_eq, map_bind]
  refine bind_congr_of_ok fun _ named => ?_
  obtain ⟨-, rfl⟩ := requireCode_eq_ok.1 named
  refine bind_congr_of_ok fun _ _ => ?_
  rw [requireTeamSeasonCoded, teamSeasonCoded?_focus stays.isFor]
  refine bind_congr_of_ok fun target found => ?_
  obtain ⟨known, code⟩ := Table.mem_of_find?_eq_some (required_eq_ok.1 found)
  have here : target.id = id := stays.isFor target known code
  subst here
  refine bind_congr_of_ok fun season _ => bind_congr_of_ok fun player found => ?_
  have playerKnown : (db.player? player.code).isSome := by
    obtain ⟨member, -⟩ := Table.mem_of_find?_eq_some (required_eq_ok.1 found)
    exact Table.isSome_find?_iff.2 ⟨player, member, rfl⟩
  rw [editedEntry_focus sound stays.entry]
  refine bind_congr_of_ok fun edited found => bind_congr_of_ok fun _ _ => ?_
  have there := editedEntry_mem_roster sound stays.entry found
  rw [writeEntry_focus (codeStaysAt sound own distinct playerKnown known) there,
    touched_of_mem_roster there, map_bind_eq]
  refine bind_congr_of_ok fun (entry, written) _ => ?_
  rw [passes_focus, map_bind_eq]
  cases (passes build [target.id]).outcome written <;> rfl

theorem focus_saveEntry_of_ne (stays : (Operation.save request).StaysAt db id) (away : id ≠ other)
    {entry : Entry} (answered : db.saveEntry build request = .ok (entry, after)) :
    after.focus other = db.focus other := by
  obtain ⟨written, save, passes⟩ := saveEntry_ok answered
  have here : save.target.id = id :=
    stays.isFor save.target save.target_mem (Table.mem_of_find?_eq_some save.targetFound).2
  subst here
  have there := editedEntry_mem_roster sound stays.entry save.editedFound
  rw [touched_of_mem_roster there] at passes
  have code := codeStaysAt sound own distinct save.playerFound save.target_mem
  exact (focus_passes_of_ne away passes).trans
    (focus_writeEntry_of_ne sound code there away save.wrote)

end Operations

section Removal

variable {source : String} (stays : (Operation.remove source).StaysAt db id)

theorem entryNamed?_remove (written : Text.isAllBlank source.toList = false) :
    (Operation.remove source).entryNamed? = some (Text.trimmed source) := by
  simpa [Operation.entryNamed?, Option.filter] using trimmed_ne_empty_iff.2 written

include stays

/-- What a removal takes out belongs to its team-season. -/
theorem removed_mem_roster (sound : Sound db) (written : Text.isAllBlank source.toList = false)
    {old : Entry} (found : db.requireEntry (Text.trimmed source) = .ok old) :
    old ∈ db.roster id := by
  rw [requireEntry, ← entry?_focus sound (stays.entry _ (entryNamed?_remove written))] at found
  exact (Table.mem_of_find?_eq_some (required_eq_ok.1 found)).1

theorem removeEntry_focus (sound : Sound db) :
    (db.focus id).removeEntry build source = (db.removeEntry build source).map (·.focus id) := by
  simp only [removeEntry_eq, map_bind]
  refine bind_congr_of_ok fun _ named => ?_
  obtain ⟨written, rfl⟩ := requireCode_eq_ok.1 named
  rw [requireEntry, entry?_focus sound (stays.entry _ (entryNamed?_remove written))]
  refine bind_congr_of_ok fun old found => ?_
  obtain ⟨-, here⟩ := mem_roster.1 (removed_mem_roster stays sound written found)
  subst here
  have erased : (db.focus old.teamSeason).without old = (db.without old).focus old.teamSeason := by
    have entries := others_focus db old.teamSeason (some old)
    simp only [others] at entries
    simp only [without, entries]
    rfl
  rw [erased, passes_focus, map_bind_eq]
  cases (passes build [old.teamSeason]).outcome (db.without old) <;> rfl

theorem focus_removeEntry_of_ne (sound : Sound db) (away : id ≠ other)
    (answered : db.removeEntry build source = .ok after) : after.focus other = db.focus other := by
  rw [removeEntry_eq] at answered
  obtain ⟨_, named, answered⟩ := bind_eq_ok.1 answered
  obtain ⟨old, found, answered⟩ := bind_eq_ok.1 answered
  obtain ⟨⟨⟨⟩, _⟩, passes, answered⟩ := bind_eq_ok.1 answered
  cases answered
  obtain ⟨written, rfl⟩ := requireCode_eq_ok.1 named
  have member := removed_mem_roster stays sound written found
  obtain ⟨-, rfl⟩ := mem_roster.1 member
  have there : ∀ removed, some old = some removed → removed ∈ db.roster old.teamSeason := by
    rintro _ ⟨⟩
    exact member
  have kept : (db.without old).focus other = db.focus other := by
    have entries := filter_others_of_ne sound away there
    simp only [others] at entries
    simp only [focus, without, roster, entries]
  exact (focus_passes_of_ne away passes).trans kept

end Removal

end Auction
end AuctionBudget
