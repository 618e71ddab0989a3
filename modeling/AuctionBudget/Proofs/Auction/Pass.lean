import AuctionBudget.Auction.Roster
import AuctionBudget.Proofs.Auction.Count
import AuctionBudget.Proofs.Auction.Transaction
import AuctionBudget.Proofs.Keyed

/-! # What a recomputation does

In sound records a pass over an existing team-season is refused only by a checked build, and only
where a sum over its roster does not fit. It stores the totals of the roster and puts one aggregate
per tier in the place of older ones, and leaves everything else as it was. `Refreshed` says this of a
whole row of passes.
-/

namespace AuctionBudget.Auction

variable {build : Build} {db after : Auction} {id : Uuid} {ids : List Uuid}
variable {tiers : List TierAggregate}

theorem teamSeason?_eq_some_iff (sound : Sound db) {teamSeason : TeamSeason} :
    db.teamSeason? id = some teamSeason ↔ teamSeason ∈ db.teamSeasons ∧ teamSeason.id = id :=
  Table.find?_eq_some_iff sound.teamSeasonIds

theorem isSome_teamSeason?_iff :
    (db.teamSeason? id).isSome ↔ ∃ teamSeason ∈ db.teamSeasons, teamSeason.id = id :=
  Table.isSome_find?_iff

theorem isSome_teamSeason?_congr
    (same : after.teamSeasons.map TeamSeason.id = db.teamSeasons.map TeamSeason.id) :
    (after.teamSeason? id).isSome ↔ (db.teamSeason? id).isSome := by
  simp only [isSome_teamSeason?_iff, ← List.mem_map, same]

/-- The tier that the player of an entry belongs to now. -/
def tierOf (db : Auction) (entry : Entry) : String :=
  ((db.player? entry.player).map Player.tier).getD ""

/-- The roster of a team-season with the tier of every player. -/
def linesOf (db : Auction) (id : Uuid) : List (Entry × String) :=
  (db.roster id).map fun entry => (entry, db.tierOf entry)

/-- The context that the rules of a pass see: the numbers of the roster, and the ceilings of the pass
    before. -/
def ruleContext (db : Auction) (id : Uuid) (season : Season) : Context where
  team := some (tally (db.roster id))
  season := some season.limits
  tiers := db.tierCodes.map fun code =>
    { tierCount code (db.tierRoster id code) with ceiling := db.storedCeiling? id code }

/-- What the next-bid rules of a season yield in a pass. -/
def passAllowances (db : Auction) (id : Uuid) (season : Season) : List (Rule.Scope × Float) :=
  db.nextBidAllowances season.id (db.ruleContext id season)

/-- The aggregate of a tier that a pass stores. -/
def freshTier (db : Auction) (id : Uuid) (season : Season) (code : String) : TierAggregate :=
  { tierCount code (db.tierRoster id code) with
    ceiling := some (.ofUnits
      (Rule.ceiling season.limits.budget.units (db.passAllowances id season) code)) }

/-- The aggregates that a pass stores. -/
def freshTiers (db : Auction) (id : Uuid) (season : Season) : List TierAggregate :=
  db.tierCodes.map (db.freshTier id season)

theorem roster_subset {entry : Entry} (member : entry ∈ db.roster id) : entry ∈ db.entries :=
  (List.mem_filter.1 member).1

theorem rosterLines_eq (sound : Sound db) (id : Uuid) : db.rosterLines id = .ok (db.linesOf id) := by
  refine mapM_eq_ok fun entry member => ?_
  have known := sound.entryPlayer entry (roster_subset member)
  cases found : db.player? entry.player with
  | none => simp [found] at known
  | some player => simp [tierOf, found, required, bind, Except.bind, pure, Except.pure]

/-- The entries of a tier, told by the tiers of their players. -/
theorem ofTier_eq (sound : Sound db) {entries : List Entry} (known : entries ⊆ db.entries)
    (tier : String) : db.ofTier tier entries = entries.filter (db.tierOf · = tier) := by
  refine List.filter_congr fun entry member => ?_
  have known := sound.entryPlayer entry (known member)
  cases found : db.player? entry.player with
  | none => simp [found] at known
  | some player => simp [tierOf, found]

theorem tierRoster_eq (sound : Sound db) (id : Uuid) (code : String) :
    db.tierRoster id code = (db.roster id).filter (db.tierOf · = code) :=
  ofTier_eq sound (fun _ => roster_subset) code

theorem countable_iff (sound : Sound db) :
    db.Countable id ↔ ∀ seen, seen <+: db.roster id → FitAll db.tierOf seen := by
  refine forall_congr' fun seen => forall_congr' fun early => ?_
  have known : seen ⊆ db.entries := fun _ member => roster_subset (early.subset member)
  simp only [FitAll, ofTier_eq sound known]

/-- What is to be stored of a roster is in the range of what can be stored. -/
def RosterFits (db : Auction) (id : Uuid) : Prop :=
  Fits (db.roster id) ∧ ∀ tier, Fits (db.tierRoster id tier)

theorem Countable.rosterFits (countable : db.Countable id) : db.RosterFits id :=
  countable _ (List.prefix_refl _)

/-- Where no price is negative, all sums on the way fit just when the last ones do. -/
theorem countable_iff_fits (nonneg : ∀ entry ∈ db.roster id, 0 ≤ entry.price.cents) :
    db.Countable id ↔ Fits (db.roster id) := by
  constructor
  · intro countable
    exact (countable _ (List.prefix_refl _)).1
  · intro fits seen early
    refine ⟨fits.sublist nonneg early.sublist, fun tier => ?_⟩
    exact fits.sublist nonneg (List.filter_sublist.trans early.sublist)

/-- A pass over a team-season gets through all sums: a release build always does. -/
def Computes (db : Auction) (build : Build) (id : Uuid) : Prop :=
  build = .checked → db.Countable id

theorem computes_release (db : Auction) (id : Uuid) : db.Computes .release id :=
  nofun

/-- A pass counts the roster, as long as its sums fit. -/
theorem ofLines_linesOf (sound : Sound db) (computes : db.Computes build id) :
    ∃ totals, Counted db.tierOf (db.roster id) totals ∧
      RosterTotals.ofLines build (db.linesOf id) = .ok totals :=
  ofLines_ok build db.tierOf (db.roster id) fun checked => (countable_iff sound).1 (computes checked)

theorem passContext_eq (sound : Sound db) {totals : RosterTotals}
    (counted : Counted db.tierOf (db.roster id) totals) (season : Season) :
    db.passContext id totals season.limits = db.ruleContext id season := by
  simp only [passContext, ruleContext, counted.team, counted.tier, tierRoster_eq sound]

/-- Store the totals of a team-season and its aggregates. -/
def storeView (db : Auction) (id : Uuid) (totals : TeamTotals) (tiers : List TierAggregate) :
    Auction :=
  tiers.foldl (storeAggregate id) (db.storeTotals id totals)

theorem recompute_eq_outcome (build : Build) (db : Auction) (id : Uuid) :
    db.recompute build id = (pass build id).outcome db :=
  Session.outcome_transact _ db

/-- A pass, step by step. -/
theorem recompute_eq_steps (build : Build) (db : Auction) (id : Uuid) :
    db.recompute build id = (do
      let found ← db.requireTeamSeason id
      let season ← db.requireSeason found.season
      let lines ← db.rosterLines id
      let totals ← RosterTotals.ofLines build lines
      let allowances := db.nextBidAllowances season.id (db.passContext id totals season.limits)
      let tiers := db.tierCodes.map fun code => { totals.tier code with
        ceiling := some (.ofUnits (Rule.ceiling season.limits.budget.units allowances code)) }
      return (tiers, db.storeView id totals.team tiers)) := by
  simp only [recompute_eq_outcome, pass, Steps.outcome_bind, Steps.outcome_get, Steps.outcome_lift,
    Steps.outcome_modify, Steps.outcome_pure, ok_bind, map_bind_eq]
  rfl

/-- A pass refuses a team-season that is missing. -/
theorem recompute_of_missing (missing : db.teamSeason? id = none) :
    db.recompute build id = .error (.keyNotFound "team season not exists") := by
  rw [recompute_eq_steps, requireTeamSeason, missing]
  rfl

/-- What a pass does once it found the team-season and counted its roster. -/
theorem recompute_of_found (sound : Sound db) {teamSeason : TeamSeason} {season : Season}
    (found : db.teamSeason? id = some teamSeason)
    (seasonFound : db.season? teamSeason.season = some season) :
    db.recompute build id = (RosterTotals.ofLines build (db.linesOf id)).map fun totals =>
      let tiers := db.tierCodes.map fun code => { totals.tier code with
        ceiling := some (.ofUnits (Rule.ceiling season.limits.budget.units
          (db.nextBidAllowances season.id (db.passContext id totals season.limits)) code)) }
      (tiers, db.storeView id totals.team tiers) := by
  simp only [recompute_eq_steps, requireTeamSeason, found, requireSeason, seasonFound, required,
    rosterLines_eq sound, ok_bind]
  cases RosterTotals.ofLines build (db.linesOf id) <;> rfl

/-- A pass stores a view of its team-season with the tiers that it answers. -/
theorem exists_storeView (answered : db.recompute build id = .ok (tiers, after)) :
    ∃ totals, after = db.storeView id totals tiers := by
  rw [recompute_eq_steps] at answered
  obtain ⟨found, -, answered⟩ := bind_eq_ok.1 answered
  obtain ⟨season, -, answered⟩ := bind_eq_ok.1 answered
  obtain ⟨lines, -, answered⟩ := bind_eq_ok.1 answered
  obtain ⟨totals, -, answered⟩ := bind_eq_ok.1 answered
  cases answered
  exact ⟨totals.team, rfl⟩

/-- The answer of a pass that gets through. -/
theorem recompute_eq (sound : Sound db) {teamSeason : TeamSeason} {season : Season}
    (found : db.teamSeason? id = some teamSeason)
    (seasonFound : db.season? teamSeason.season = some season) (computes : db.Computes build id) :
    db.recompute build id = .ok (db.freshTiers id season,
      db.storeView id (tally (db.roster id)) (db.freshTiers id season)) := by
  obtain ⟨totals, counted, ran⟩ := ofLines_linesOf sound computes
  rw [recompute_of_found sound found seasonFound, ran]
  simp only [Except.map, passContext_eq sound counted, counted.team, counted.tier,
    ← tierRoster_eq sound]
  rfl

/-- A checked build stops a pass where a sum over the roster does not fit. -/
theorem recompute_of_not_computes (sound : Sound db) (known : (db.teamSeason? id).isSome)
    (stops : ¬ db.Computes build id) : db.recompute build id = .error .overflow := by
  obtain ⟨rfl, stops⟩ := Classical.not_imp.1 stops
  obtain ⟨teamSeason, found⟩ := Option.isSome_iff_exists.1 known
  have listed := ((teamSeason?_eq_some_iff sound).1 found).1
  obtain ⟨season, seasonFound⟩ := Option.isSome_iff_exists.1 (sound.teamSeasonSeason _ listed)
  rw [recompute_of_found sound found seasonFound, linesOf, ofLines_error]
  · rfl
  · rwa [← countable_iff sound]

/-- The stored aggregates of a team-season, in the order in which they are stored. -/
def aggregatesOf (db : Auction) (id : Uuid) : List TierAggregate :=
  (db.aggregates.filter (·.teamSeason = id)).map (·.aggregate)

theorem mem_aggregatesOf {tier : TierAggregate} :
    tier ∈ db.aggregatesOf id ↔ (⟨id, tier⟩ : AggregateRow) ∈ db.aggregates := by
  constructor
  · intro member
    obtain ⟨⟨other, tier⟩, kept, rfl⟩ := List.mem_map.1 member
    obtain ⟨there, same⟩ := List.mem_filter.1 kept
    have here : other = id := by simpa using same
    exact here ▸ there
  · intro member
    exact List.mem_map.2 ⟨_, List.mem_filter.2 ⟨member, by simp⟩, rfl⟩

/-- The aggregates cover every tier and say what the roster of a team-season says. -/
def CountsTiers (db : Auction) (id : Uuid) (tiers : List TierAggregate) : Prop :=
  (tiers.map (·.code)).Perm db.tiers ∧
    ∀ tier ∈ tiers, (tier.spent, tier.players) = headCount (db.tierRoster id tier.code)

theorem countsTiers_freshTiers (db : Auction) (id : Uuid) (season : Season) :
    db.CountsTiers id (db.freshTiers id season) := by
  constructor
  · have codes : (db.freshTiers id season).map (·.code) = db.tierCodes := by
      simp [freshTiers, freshTier, tierCount, Function.comp_def]
    rw [codes]
    exact Ordered.sortBy_perm _ _
  · intro tier member
    obtain ⟨code, -, rfl⟩ := List.mem_map.1 member
    rfl

/-- The records after passes over some team-seasons: their view is fresh, and the rest is as it
    was. -/
structure Refreshed (db : Auction) (ids : List Uuid) (after : Auction) : Prop where
  seasons : after.seasons = db.seasons
  tiers : after.tiers = db.tiers
  players : after.players = db.players
  entries : after.entries = db.entries
  rules : after.rules = db.rules
  teamSeasons : after.teamSeasons = db.teamSeasons.map fun teamSeason =>
    if teamSeason.id ∈ ids then { teamSeason with totals := tally (db.roster teamSeason.id) }
    else teamSeason
  kept : ∀ id ∉ ids, after.aggregatesOf id = db.aggregatesOf id
  fresh : ∀ id ∈ ids, db.CountsTiers id (after.aggregatesOf id)

/-- Storing a view puts its rows into the table of aggregates one by one. -/
theorem storeView_eq (db : Auction) (id : Uuid) (totals : TeamTotals) (tiers : List TierAggregate) :
    db.storeView id totals tiers = { db with
      teamSeasons := Table.update TeamSeason.id id ({ · with totals }) db.teamSeasons
      aggregates := (tiers.map (AggregateRow.mk id)).foldl
        (fun rows row => Table.upsert AggregateRow.key row rows) db.aggregates } := by
  have stored (db : Auction) : tiers.foldl (storeAggregate id) db = { db with
      aggregates := (tiers.map (AggregateRow.mk id)).foldl
        (fun rows row => Table.upsert AggregateRow.key row rows) db.aggregates } := by
    induction tiers generalizing db with
    | nil => rfl
    | cons tier rest ih =>
        rw [List.foldl_cons, ih]
        rfl
  rw [storeView, stored]
  rfl

theorem teamSeason_of_key (id : Uuid) (row other : AggregateRow) (same : row.key = other.key) :
    decide (row.teamSeason = id) = decide (other.teamSeason = id) := by
  have here : row.teamSeason = other.teamSeason := congrArg Prod.fst same
  rw [here]

/-- Storing the view of a team-season leaves the rows of all others alone. -/
theorem aggregatesOf_storeView_of_ne {other : Uuid} (away : other ≠ id) (totals : TeamTotals)
    (tiers : List TierAggregate) :
    (db.storeView id totals tiers).aggregatesOf other = db.aggregatesOf other := by
  rw [aggregatesOf, storeView_eq, Table.filter_foldl_upsert_of_not (teamSeason_of_key other),
    aggregatesOf]
  intro row member
  obtain ⟨tier, -, rfl⟩ := List.mem_map.1 member
  exact decide_eq_false away.symm

/-- An aggregate for every tier takes the place of all older ones of a team-season. -/
theorem aggregatesOf_storeView (sound : Sound db) (totals : TeamTotals)
    (complete : (tiers.map (·.code)).Perm db.tiers) :
    ((db.storeView id totals tiers).aggregatesOf id).Perm tiers := by
  have codes : ((tiers.map (AggregateRow.mk id)).map AggregateRow.key).Nodup := by
    rw [List.map_map]
    exact List.Nodup.of_map Prod.snd
      (by simpa [Function.comp_def, AggregateRow.key] using complete.nodup_iff.2 sound.tiers)
  have before : ((db.aggregates.filter (·.teamSeason = id)).map AggregateRow.key).Nodup :=
    sound.aggregateKeys.sublist (List.filter_sublist.map _)
  have covered : ∀ row ∈ db.aggregates.filter (·.teamSeason = id),
      row.key ∈ (tiers.map (AggregateRow.mk id)).map AggregateRow.key := by
    intro row member
    obtain ⟨there, here⟩ := List.mem_filter.1 member
    obtain ⟨tier, fresh, code⟩ :=
      List.mem_map.1 (complete.mem_iff.2 (sound.aggregateTier row there))
    have same : row.teamSeason = id := by simpa using here
    refine List.mem_map.2 ⟨⟨id, tier⟩, List.mem_map_of_mem fresh, ?_⟩
    rw [AggregateRow.key, AggregateRow.key, same, code]
  rw [aggregatesOf, storeView_eq, Table.filter_foldl_upsert_of_pos (teamSeason_of_key id)]
  · simpa [List.map_map, Function.comp_def] using
      (Table.foldl_upsert_perm codes before covered).map AggregateRow.aggregate
  · intro row member
    obtain ⟨tier, -, rfl⟩ := List.mem_map.1 member
    exact decide_eq_true rfl

theorem CountsTiers.perm {these those : List TierAggregate} (counts : db.CountsTiers id these)
    (same : those.Perm these) : db.CountsTiers id those :=
  ⟨(same.map _).trans counts.1, fun tier member => counts.2 tier (same.mem_iff.1 member)⟩

theorem refreshed_storeView (sound : Sound db)
    (counts : db.CountsTiers id tiers) :
    Refreshed db [id] (db.storeView id (tally (db.roster id)) tiers) where
  seasons := by rw [storeView_eq]
  tiers := by rw [storeView_eq]
  players := by rw [storeView_eq]
  entries := by rw [storeView_eq]
  rules := by rw [storeView_eq]
  teamSeasons := by
    rw [storeView_eq]
    refine List.map_congr_left fun teamSeason _ => ?_
    by_cases here : teamSeason.id = id
    · simp [here]
    · simp [here]
  kept := by
    intro other outside
    exact aggregatesOf_storeView_of_ne (by simpa using outside) _ tiers
  fresh := by
    intro other inside
    obtain rfl := List.mem_singleton.1 inside
    exact counts.perm (aggregatesOf_storeView sound _ counts.1)

theorem Refreshed.none (db : Auction) : Refreshed db [] db where
  seasons := rfl
  tiers := rfl
  players := rfl
  entries := rfl
  rules := rfl
  teamSeasons := by simp
  kept := fun _ _ => rfl
  fresh := by simp

namespace Refreshed

theorem roster (pass : Refreshed db ids after) (id : Uuid) : after.roster id = db.roster id := by
  simp only [Auction.roster, pass.entries]

theorem tierRoster (pass : Refreshed db ids after) (id : Uuid) (code : String) :
    after.tierRoster id code = db.tierRoster id code := by
  simp only [Auction.tierRoster, ofTier, pass.roster, player?, pass.players]

theorem countsTiers (pass : Refreshed db ids after) :
    after.CountsTiers id tiers ↔ db.CountsTiers id tiers := by
  simp only [CountsTiers, pass.tierRoster, pass.tiers]

theorem map_teamSeasons (pass : Refreshed db ids after) {Value : Type} (value : TeamSeason → Value)
    (keeps : ∀ teamSeason totals, value { teamSeason with totals } = value teamSeason) :
    after.teamSeasons.map value = db.teamSeasons.map value := by
  rw [pass.teamSeasons, List.map_map]
  refine List.map_congr_left fun teamSeason _ => ?_
  by_cases inside : teamSeason.id ∈ ids
  · simp [inside, keeps]
  · simp [inside]

/-- Passes one after another are one row of passes. -/
theorem trans {last : Auction} {more : List Uuid} (first : Refreshed db ids after)
    (second : Refreshed after more last) : Refreshed db (ids ++ more) last where
  seasons := second.seasons.trans first.seasons
  tiers := second.tiers.trans first.tiers
  players := second.players.trans first.players
  entries := second.entries.trans first.entries
  rules := second.rules.trans first.rules
  teamSeasons := by
    rw [second.teamSeasons, first.teamSeasons, List.map_map]
    refine List.map_congr_left fun teamSeason _ => ?_
    by_cases early : teamSeason.id ∈ ids <;> by_cases late : teamSeason.id ∈ more <;>
      simp [early, late, first.roster]
  kept := by
    intro id outside
    obtain ⟨notEarly, notLate⟩ := not_or.1 fun h => outside (List.mem_append.2 h)
    exact (second.kept id notLate).trans (first.kept id notEarly)
  fresh := by
    intro id inside
    by_cases late : id ∈ more
    · exact first.countsTiers.1 (second.fresh id late)
    · rw [second.kept id late]
      exact first.fresh id ((List.mem_append.1 inside).resolve_right late)

end Refreshed

theorem Sound.storeView (sound : Sound db) (known : (db.teamSeason? id).isSome)
    (totals : TeamTotals) (counts : db.CountsTiers id tiers) :
    Sound (db.storeView id totals tiers) := by
  have ids : (Table.update TeamSeason.id id ({ · with totals }) db.teamSeasons).map TeamSeason.id =
      db.teamSeasons.map TeamSeason.id := Table.map_update fun _ _ _ => rfl
  have codes : (Table.update TeamSeason.id id ({ · with totals }) db.teamSeasons).map
      TeamSeason.code = db.teamSeasons.map TeamSeason.code := Table.map_update fun _ _ _ => rfl
  have seasons : (Table.update TeamSeason.id id ({ · with totals }) db.teamSeasons).map
      TeamSeason.season = db.teamSeasons.map TeamSeason.season := Table.map_update fun _ _ _ => rfl
  have rows : ∀ row ∈ (tiers.map (AggregateRow.mk id)).foldl
      (fun rows row => Table.upsert AggregateRow.key row rows) db.aggregates,
      row ∈ db.aggregates ∨ row.teamSeason = id ∧ row.aggregate ∈ tiers := by
    intro row member
    rcases Table.mem_foldl_upsert member with new | old
    · obtain ⟨tier, there, rfl⟩ := List.mem_map.1 new
      exact .inr ⟨rfl, there⟩
    · exact .inl old
  rw [storeView_eq]
  exact {
    seasonIds := sound.seasonIds
    tiers := sound.tiers
    playerCodes := sound.playerCodes
    teamSeasonIds := ids ▸ sound.teamSeasonIds
    teamSeasonCodes := codes ▸ sound.teamSeasonCodes
    entryCodes := sound.entryCodes
    aggregateKeys := Table.nodup_foldl_upsert _ sound.aggregateKeys
    ruleIds := sound.ruleIds
    playerTier := sound.playerTier
    teamSeasonSeason := by
      intro teamSeason member
      obtain ⟨old, there, same⟩ := List.mem_map.1 (seasons ▸ List.mem_map_of_mem member)
      exact same ▸ sound.teamSeasonSeason old there
    entryPlayer := sound.entryPlayer
    entryTeamSeason := fun entry member =>
      (isSome_teamSeason?_congr ids).2 (sound.entryTeamSeason entry member)
    aggregateTeamSeason := by
      intro row member
      refine (isSome_teamSeason?_congr ids).2 ?_
      rcases rows row member with old | ⟨rfl, -⟩
      · exact sound.aggregateTeamSeason row old
      · exact known
    aggregateTier := by
      intro row member
      rcases rows row member with old | ⟨-, new⟩
      · exact sound.aggregateTier row old
      · exact counts.1.mem_iff.1 (List.mem_map_of_mem new)
    ruleSeason := sound.ruleSeason }

/-- In sound records a pass over a team-season that is there is refused by an overflow only. -/
theorem exists_recompute (sound : Sound db) (known : (db.teamSeason? id).isSome)
    (computes : db.Computes build id) :
    ∃ tiers after, db.recompute build id = .ok (tiers, after) := by
  obtain ⟨teamSeason, found⟩ := Option.isSome_iff_exists.1 known
  have listed := ((teamSeason?_eq_some_iff sound).1 found).1
  obtain ⟨season, seasonFound⟩ := Option.isSome_iff_exists.1 (sound.teamSeasonSeason _ listed)
  exact ⟨_, _, recompute_eq sound found seasonFound computes⟩

theorem computes_of_recompute (sound : Sound db)
    (answered : db.recompute build id = .ok (tiers, after)) :
    (db.teamSeason? id).isSome ∧ db.Computes build id := by
  have known : (db.teamSeason? id).isSome := by
    cases found : db.teamSeason? id with
    | none => simp [recompute_of_missing found] at answered
    | some teamSeason => rfl
  refine ⟨known, ?_⟩
  by_contra stops
  simp [recompute_of_not_computes sound known stops] at answered

theorem recompute_ok (sound : Sound db)
    (answered : db.recompute build id = .ok (tiers, after)) :
    Refreshed db [id] after ∧ Sound after ∧ (after.aggregatesOf id).Perm tiers := by
  obtain ⟨known, computes⟩ := computes_of_recompute sound answered
  obtain ⟨teamSeason, found⟩ := Option.isSome_iff_exists.1 known
  have listed := ((teamSeason?_eq_some_iff sound).1 found).1
  obtain ⟨season, seasonFound⟩ := Option.isSome_iff_exists.1 (sound.teamSeasonSeason _ listed)
  rw [recompute_eq sound found seasonFound computes] at answered
  cases answered
  have counts := db.countsTiers_freshTiers id season
  exact ⟨refreshed_storeView sound counts, sound.storeView known _ counts,
    aggregatesOf_storeView sound _ counts.1⟩

theorem outcome_passes_cons (build : Build) (id : Uuid) (rest : List Uuid) (db : Auction) :
    (passes build (id :: rest)).outcome db =
      db.recompute build id >>= fun (_, between) => (passes build rest).outcome between := by
  rw [passes, Steps.outcome_bind, recompute_eq_outcome]

theorem passes_ok (sound : Sound db) (answered : (passes build ids).outcome db = .ok ((), after)) :
    Refreshed db ids after ∧ Sound after := by
  induction ids generalizing db with
  | nil =>
      cases answered
      exact ⟨.none _, sound⟩
  | cons id rest ih =>
      rw [outcome_passes_cons] at answered
      obtain ⟨⟨tiers, between⟩, first, later⟩ := bind_eq_ok.1 answered
      obtain ⟨pass, soundBetween, -⟩ := recompute_ok sound first
      obtain ⟨passes, soundAfter⟩ := ih soundBetween later
      exact ⟨pass.trans passes, soundAfter⟩

/-- Passes change nothing that tells whether another pass gets through. -/
theorem Refreshed.computes_iff (pass : Refreshed db ids after) :
    after.Computes build id ↔ db.Computes build id := by
  simp only [Computes, Countable, ofTier, pass.roster, player?, pass.players]

theorem computes_of_passes (sound : Sound db)
    (answered : (passes build ids).outcome db = .ok ((), after)) :
    ∀ id ∈ ids, db.Computes build id := by
  induction ids generalizing db with
  | nil => nofun
  | cons id rest ih =>
      rw [outcome_passes_cons] at answered
      obtain ⟨⟨tiers, between⟩, first, later⟩ := bind_eq_ok.1 answered
      obtain ⟨pass, soundBetween, -⟩ := recompute_ok sound first
      refine List.forall_mem_cons.2 ⟨(computes_of_recompute sound first).2, fun other member => ?_⟩
      exact pass.computes_iff.1 (ih soundBetween later other member)

theorem exists_passes (sound : Sound db) (known : ∀ id ∈ ids, (db.teamSeason? id).isSome)
    (computes : ∀ id ∈ ids, db.Computes build id) :
    ∃ after, (passes build ids).outcome db = .ok ((), after) := by
  induction ids generalizing db with
  | nil => exact ⟨db, rfl⟩
  | cons id rest ih =>
      obtain ⟨tiers, between, first⟩ :=
        exists_recompute sound (known id List.mem_cons_self) (computes id List.mem_cons_self)
      obtain ⟨pass, soundBetween, -⟩ := recompute_ok sound first
      have same := pass.map_teamSeasons TeamSeason.id fun _ _ => rfl
      obtain ⟨after, later⟩ := ih soundBetween
        (fun other member =>
          (isSome_teamSeason?_congr same).2 (known other (List.mem_cons_of_mem _ member)))
        (fun other member => pass.computes_iff.2 (computes other (List.mem_cons_of_mem _ member)))
      refine ⟨after, ?_⟩
      rw [outcome_passes_cons, first]
      exact later

theorem passes_of_not_computes (sound : Sound db)
    (known : ∀ id ∈ ids, (db.teamSeason? id).isSome)
    (stops : ¬ ∀ id ∈ ids, db.Computes build id) :
    (passes build ids).outcome db = .error .overflow := by
  induction ids generalizing db with
  | nil => exact absurd (by simp) stops
  | cons id rest ih =>
      rw [outcome_passes_cons]
      by_cases computes : db.Computes build id
      · obtain ⟨tiers, between, first⟩ := exists_recompute sound (known id List.mem_cons_self) computes
        obtain ⟨pass, soundBetween, -⟩ := recompute_ok sound first
        have same := pass.map_teamSeasons TeamSeason.id fun _ _ => rfl
        rw [first, ok_bind]
        refine ih soundBetween (fun other member =>
          (isSome_teamSeason?_congr same).2 (known other (List.mem_cons_of_mem _ member))) ?_
        intro all
        refine stops (List.forall_mem_cons.2 ⟨computes, fun other member => ?_⟩)
        exact pass.computes_iff.1 (all other member)
      · rw [recompute_of_not_computes sound (known id List.mem_cons_self) computes]
        rfl

end AuctionBudget.Auction
