import AuctionBudget.Proofs.Auction.Codes
import Mathlib.Data.List.Induction

/-! # The stored view over a history

The totals and aggregates of every team-season say what its roster says, and operations keep it so,
with two exceptions. A save may edit an entry of another team-season in place, since two pairs of a
player and a team-season may share a code. The pass runs over the team-season that was asked for, so
the view of the other one becomes stale just when the edit changes a number that it counts. And a
release build wraps sums around that cannot be stored, where a checked build refuses the operation.
-/

namespace AuctionBudget.Auction

variable {build : Build} {db other written after : Auction} {request : Assignment} {entry : Entry}
variable {operation : Operation} {ids : List Uuid} {id : Uuid}

instance (db : Auction) (teamSeason : TeamSeason) : Decidable (db.TotalsAgree teamSeason) :=
  inferInstanceAs (Decidable (_ ∧ _))

instance (db : Auction) (row : AggregateRow) : Decidable (db.AggregateAgrees row) :=
  inferInstanceAs (Decidable (_ ∧ _))

/-- The stored totals of one team-season say what its roster says. -/
def CountsRoster (db : Auction) (id : Uuid) : Prop :=
  ∀ teamSeason ∈ db.teamSeasons, teamSeason.id = id →
    teamSeason.totals = tally (db.roster id)

/-- The stored view of one team-season says what its roster says, wrapped around as it is stored. -/
structure ViewAgrees (db : Auction) (id : Uuid) : Prop where
  totals : db.CountsRoster id
  counts : ∀ tier ∈ db.aggregatesOf id,
    (tier.spent, tier.players) = headCount (db.tierRoster id tier.code)
  tiers : (db.aggregatesOf id).map (·.code) = [] ∨ ((db.aggregatesOf id).map (·.code)).Perm db.tiers

/-- Every view agrees, and every entry has its own code. -/
structure UpToDate (db : Auction) : Prop where
  views : ∀ id, db.ViewAgrees id
  codes : db.OwnCodes

theorem countsRoster_of_totalsAgree (agree : ∀ teamSeason ∈ db.teamSeasons, db.TotalsAgree teamSeason)
    (id : Uuid) : db.CountsRoster id := by
  rintro teamSeason member rfl
  exact (totalsAgree_iff.1 (agree teamSeason member)).1

theorem aggregatesOf_eq_nil (sound : Sound db)
    (unknown : ∀ teamSeason ∈ db.teamSeasons, teamSeason.id ≠ id) : db.aggregatesOf id = [] := by
  refine List.eq_nil_iff_forall_not_mem.2 fun tier member => ?_
  have known := sound.aggregateTeamSeason _ (mem_aggregatesOf.1 member)
  obtain ⟨teamSeason, there, same⟩ := isSome_teamSeason?_iff.1 known
  exact unknown teamSeason there same

/-- Records are consistent when they are up to date and nothing had to be wrapped around. -/
theorem consistent_iff (sound : Sound db) : Consistent db ↔ UpToDate db ∧ Representable db := by
  constructor
  · intro consistent
    refine ⟨⟨fun id => ⟨countsRoster_of_totalsAgree consistent.totals id, ?_, ?_⟩,
      consistent.codes⟩, ?_, ?_⟩
    · intro tier member
      exact (aggregateAgrees_iff.1 (consistent.aggregates _ (mem_aggregatesOf.1 member))).1
    · by_cases known : ∃ teamSeason ∈ db.teamSeasons, teamSeason.id = id
      · obtain ⟨teamSeason, member, rfl⟩ := known
        simpa [aggregatesOf, List.map_map, Function.comp_def] using
          consistent.tiers teamSeason member
      · refine .inl ?_
        rw [aggregatesOf_eq_nil sound fun teamSeason member same =>
          known ⟨teamSeason, member, same⟩, List.map_nil]
    · intro teamSeason member
      exact (totalsAgree_iff.1 (consistent.totals teamSeason member)).2
    · intro row member
      exact (aggregateAgrees_iff.1 (consistent.aggregates row member)).2
  · rintro ⟨⟨views, own⟩, representable⟩
    refine ⟨?_, ?_, ?_, own⟩
    · intro teamSeason member
      have counts := (views teamSeason.id).totals teamSeason member rfl
      exact totalsAgree_iff.2 ⟨counts, representable.totals teamSeason member⟩
    · intro row member
      have counts := (views row.teamSeason).counts row.aggregate (mem_aggregatesOf.2 member)
      exact aggregateAgrees_iff.2 ⟨counts, representable.aggregates row member⟩
    · intro teamSeason member
      simpa [aggregatesOf, List.map_map, Function.comp_def] using (views teamSeason.id).tiers

theorem Refreshed.countsRoster (pass : Refreshed db ids after) (inside : id ∈ ids) :
    after.CountsRoster id := by
  rintro teamSeason member rfl
  rw [pass.teamSeasons] at member
  obtain ⟨old, -, same⟩ := List.mem_map.1 member
  by_cases here : old.id ∈ ids
  · rw [if_pos here] at same
    subst same
    rw [pass.roster]
  · rw [if_neg here] at same
    subst same
    exact absurd inside here

theorem Refreshed.countsRoster_iff (pass : Refreshed db ids after) (outside : id ∉ ids) :
    after.CountsRoster id ↔ db.CountsRoster id := by
  have stays (teamSeason : TeamSeason) (here : teamSeason.id = id) :
      teamSeason ∈ after.teamSeasons ↔ teamSeason ∈ db.teamSeasons := by
    subst here
    rw [pass.teamSeasons]
    constructor
    · intro member
      obtain ⟨old, there, same⟩ := List.mem_map.1 member
      by_cases inside : old.id ∈ ids
      · rw [if_pos inside] at same
        exact absurd (same ▸ inside) outside
      · rw [if_neg inside] at same
        exact same ▸ there
    · intro member
      exact List.mem_map.2 ⟨teamSeason, member, if_neg outside⟩
  unfold CountsRoster
  rw [pass.roster]
  constructor
  · exact fun all teamSeason member here => all teamSeason ((stays _ here).2 member) here
  · exact fun all teamSeason member here => all teamSeason ((stays _ here).1 member) here

/-- A pass brings the view of its team-season up to date. -/
theorem Refreshed.viewAgrees (pass : Refreshed db ids after) (inside : id ∈ ids) :
    after.ViewAgrees id where
  totals := pass.countsRoster inside
  counts := (pass.countsTiers.2 (pass.fresh id inside)).2
  tiers := .inr (pass.countsTiers.2 (pass.fresh id inside)).1

/-- A pass leaves all other views alone. -/
theorem Refreshed.viewAgrees_iff (pass : Refreshed db ids after) (outside : id ∉ ids) :
    after.ViewAgrees id ↔ db.ViewAgrees id := by
  have totals := pass.countsRoster_iff outside
  constructor
  · rintro ⟨total, counts, tiers⟩
    simp only [pass.kept id outside, pass.tierRoster, pass.tiers] at counts tiers
    exact ⟨totals.1 total, counts, tiers⟩
  · rintro ⟨total, counts, tiers⟩
    refine ⟨totals.2 total, ?_, ?_⟩
    · simpa only [pass.kept id outside, pass.tierRoster] using counts
    · simpa only [pass.kept id outside, pass.tiers] using tiers

/-- What an entry adds to a view: its numbers, under its player. -/
def purchase (entry : Entry) : String × Money × Bool × Bool :=
  (entry.player, entry.weight)

/-- The rosters of a team-season hold the same purchases, perhaps under other codes. -/
def RosterAlike (db other : Auction) (id : Uuid) : Prop :=
  ((other.roster id).map purchase).Perm ((db.roster id).map purchase)

theorem RosterAlike.of_perm (same : (other.roster id).Perm (db.roster id)) :
    db.RosterAlike other id :=
  same.map purchase

theorem RosterAlike.weights (alike : db.RosterAlike other id) :
    ((other.roster id).map Entry.weight).Perm ((db.roster id).map Entry.weight) := by
  simpa [List.map_map, Function.comp_def, purchase] using alike.map Prod.snd

theorem RosterAlike.tierWeights (alike : db.RosterAlike other id)
    (players : other.players = db.players) (tier : String) :
    ((other.tierRoster id tier).map Entry.weight).Perm
      ((db.tierRoster id tier).map Entry.weight) := by
  let among (bought : String × Money × Bool × Bool) : Bool :=
    (db.player? bought.1).any fun player => player.tier = tier
  have told (entries : List Entry) : (db.ofTier tier entries).map Entry.weight =
      ((entries.map purchase).filter among).map Prod.snd := by
    rw [List.filter_map, List.map_map]
    rfl
  have samePlayers : other.tierRoster id tier = db.ofTier tier (other.roster id) := by
    simp only [tierRoster, ofTier, player?, players]
  rw [samePlayers, tierRoster, told, told]
  exact (alike.filter among).map Prod.snd

theorem countsRoster_congr {entries : List Entry} (frame : written = { db with entries })
    (alike : db.RosterAlike written id) : written.CountsRoster id ↔ db.CountsRoster id := by
  have teamSeasons : written.teamSeasons = db.teamSeasons := by rw [frame]
  unfold CountsRoster
  rw [teamSeasons, tally_congr alike.weights]

/-- A view depends on what was bought, not on the entries themselves. -/
theorem viewAgrees_congr {entries : List Entry} (frame : written = { db with entries })
    (alike : db.RosterAlike written id) : written.ViewAgrees id ↔ db.ViewAgrees id := by
  have totals := countsRoster_congr frame alike
  have players : written.players = db.players := by rw [frame]
  have tiers : written.tiers = db.tiers := by rw [frame]
  have aggregates : written.aggregatesOf id = db.aggregatesOf id := by
    simp only [aggregatesOf, frame]
  have counts (tier : String) :
      headCount (written.tierRoster id tier) = headCount (db.tierRoster id tier) :=
    headCount_congr (alike.tierWeights players tier)
  constructor
  · rintro ⟨total, count, tier⟩
    simp only [aggregates, counts, tiers] at count tier
    exact ⟨totals.1 total, count, tier⟩
  · rintro ⟨total, count, tier⟩
    refine ⟨totals.2 total, ?_, ?_⟩
    · simpa only [aggregates, counts] using count
    · simpa only [aggregates, tiers] using tier

section InPlace

variable {code player : String} {teamSeason : Uuid} {old : Entry}

/-- The entries of a team-season that a save does not edit. -/
theorem Written.roster_cons
    (write : Written db request code player teamSeason (some old) entry written)
    (stays : entry.teamSeason = old.teamSeason) :
    ∃ rest, (db.roster old.teamSeason).Perm (old :: rest) ∧
      (written.roster old.teamSeason).Perm (entry :: rest) := by
  refine ⟨(db.others (some old)).filter (·.teamSeason = old.teamSeason), ?_, ?_⟩
  · have before := write.roster_before old.teamSeason
    rwa [Option.toList_some, List.singleton_append, List.filter_cons_of_pos (by simp)] at before
  · have after := write.roster old.teamSeason
    rwa [List.filter_cons_of_pos (by simpa using stays)] at after

theorem Written.roster_of_ne {edited : Option Entry}
    (write : Written db request code player teamSeason edited entry written)
    (away : entry.teamSeason ≠ id) (notOld : ∀ old, edited = some old → old.teamSeason ≠ id) :
    (written.roster id).Perm (db.roster id) := by
  have after := write.roster id
  rw [List.filter_cons_of_neg (by simpa using away)] at after
  refine after.trans (List.Perm.symm ?_)
  have before := write.roster_before id
  cases edited with
  | none => exact before
  | some old =>
      rwa [Option.toList_some, List.singleton_append,
        List.filter_cons_of_neg (by simpa using notOld old rfl)] at before

/-- An edit in place that keeps all numbers keeps what was bought. -/
theorem Written.rosterAlike_of_weight
    (write : Written db request code player teamSeason (some old) entry written)
    (samePlayer : entry.player = old.player) (stays : entry.teamSeason = old.teamSeason)
    (same : old.weight = request.weight) : db.RosterAlike written old.teamSeason := by
  obtain ⟨rest, before, after⟩ := write.roster_cons stays
  have bought : purchase entry = purchase old := by
    rw [purchase, purchase, samePlayer, write.weight, same]
  have numbers := after.map purchase
  rw [List.map_cons, bought, ← List.map_cons] at numbers
  exact numbers.trans (before.map purchase).symm

/-- An edit in place that changes a number makes the stored totals wrong. -/
theorem Written.not_viewAgrees
    (write : Written db request code player teamSeason (some old) entry written) (sound : Sound db)
    (stays : entry.teamSeason = old.teamSeason) (changes : old.weight ≠ request.weight)
    (agrees : db.ViewAgrees old.teamSeason) : ¬ written.ViewAgrees old.teamSeason := by
  intro agreesAfter
  obtain ⟨rest, before, after⟩ := write.roster_cons stays
  have there : old ∈ db.entries := write.before.mem_iff.2 (by simp)
  obtain ⟨owner, member, here⟩ :=
    isSome_teamSeason?_iff.1 (sound.entryTeamSeason old there)
  have stored := agrees.totals owner member here
  have storedAfter := agreesAfter.totals owner (write.teamSeasons ▸ member) here
  rw [stored, tally_congr (before.map _), tally_congr (after.map _)] at storedAfter
  exact changes ((tally_cons_inj.1 storedAfter).trans write.weight)

end InPlace

/-- The edited entry belongs to another team-season than the target and has the target's code all
    the same, and the request changes a number of it. -/
structure Strays (request : Assignment) (target : TeamSeason) (old : Entry) : Prop where
  sameCode : old.code = request.codeIn target
  elsewhere : old.teamSeason ≠ target.id
  changes : old.weight ≠ request.weight

/-- An accepted save that edits a stray entry. -/
def StrayEdit (build : Build) (db : Auction) : Operation → Prop
  | .save request => (db.saveEntry build request).isOk = true ∧ ∃ target old,
      db.teamSeasonCoded? (Text.trimmed request.teamSeason) = some target ∧
      db.editedEntry request = .ok (some old) ∧ Strays request target old
  | .remove _ => False
  | .recompute _ => False

theorem Accepted.strayEdit_iff (save : Accepted db request entry written)
    (answered : (db.saveEntry build request).isOk = true) :
    db.StrayEdit build (.save request) ↔
      ∃ old, save.edited = some old ∧ Strays request save.target old := by
  constructor
  · rintro ⟨-, target, old, targetFound, editedFound, strays⟩
    have sameTarget := targetFound.symm.trans save.targetFound
    have sameEdited := editedFound.symm.trans save.editedFound
    cases sameTarget
    exact ⟨old, by injection sameEdited with same; exact same.symm, strays⟩
  · rintro ⟨old, same, strays⟩
    exact ⟨answered, save.target, old, save.targetFound, same ▸ save.editedFound, strays⟩

/-- A roster outside the passes of a save holds the same purchases, unless the save edits a stray
    entry. -/
theorem Accepted.rosterAlike (save : Accepted db request entry written) (sound : Sound db)
    (outside : id ∉ touched (request.codeIn save.target) save.target.id save.edited)
    (regular : ∀ old, save.edited = some old → ¬ Strays request save.target old) :
    db.RosterAlike written id := by
  have write := save.write sound
  have target : save.target.id ≠ id := fun here => outside (mem_touched.2 (.inl here.symm))
  rcases write.owner with ⟨old, same, code, samePlayer, stays⟩ | ⟨moves, -, teamSeason⟩
  · by_cases here : old.teamSeason = id
    · subst here
      have kept : old.weight = request.weight := by
        by_contra changes
        exact regular old same ⟨code, target.symm, changes⟩
      rw [same] at write
      exact write.rosterAlike_of_weight samePlayer stays kept
    · refine .of_perm (write.roster_of_ne (stays ▸ here) ?_)
      intro other sameOther
      rw [same] at sameOther
      cases sameOther
      exact here
  · refine .of_perm (write.roster_of_ne (teamSeason ▸ target) ?_)
    exact fun old same here => outside (mem_touched.2 (.inr ⟨old, same, moves old same, here⟩))

/-- A stray edit makes the view of the entry's team-season wrong. -/
theorem Accepted.not_viewAgrees (save : Accepted db request entry written) (sound : Sound db)
    {old : Entry} (same : save.edited = some old) (strays : Strays request save.target old)
    (agrees : db.ViewAgrees old.teamSeason) : ¬ written.ViewAgrees old.teamSeason := by
  have write := save.write sound
  rw [same] at write
  rcases write.owner with ⟨_, ⟨⟩, -, -, stays⟩ | ⟨moves, -, -⟩
  · exact write.not_viewAgrees sound stays strays.changes agrees
  · exact absurd strays.sameCode (moves old rfl)

/-- A regular operation keeps what was bought wherever it makes no pass. -/
theorem Effect.rosterAlike (effect : Effect build db operation written ids) (sound : Sound db)
    (regular : ¬ db.StrayEdit build operation) (outside : id ∉ ids) : db.RosterAlike written id := by
  cases effect with
  | refused | recomputed => exact .of_perm (.refl _)
  | @removed source old member =>
      have away : old.teamSeason ≠ id := fun here => outside (List.mem_singleton.2 here.symm)
      exact .of_perm (roster_without_of_ne sound member away)
  | @saved request entry written answered save =>
      refine save.rosterAlike sound outside fun old same strays => regular ?_
      exact (save.strayEdit_iff answered).2 ⟨old, same, strays⟩

/-- A stray edit makes a view wrong over which no pass is made. -/
theorem Effect.not_viewAgrees (effect : Effect build db operation written ids) (sound : Sound db)
    (stray : db.StrayEdit build operation) (views : ∀ id, db.ViewAgrees id) :
    ∃ id ∉ ids, ¬ written.ViewAgrees id := by
  cases effect with
  | refused answered =>
      cases operation with
      | save request =>
          rw [Operation.outcome_save, isOk_map, stray.1] at answered
          cases answered
      | remove | recompute => cases stray
  | removed | recomputed => cases stray
  | @saved request entry written answered save =>
      obtain ⟨old, same, strays⟩ := (save.strayEdit_iff answered).1 stray
      have outside : old.teamSeason ∉
          touched (request.codeIn save.target) save.target.id save.edited := by
        rw [same, touched, if_neg fun moves => moves.1 strays.sameCode]
        simpa using strays.elsewhere
      exact ⟨_, outside, save.not_viewAgrees sound same strays (views _)⟩

/-- A single operation keeps records up to date just when it is no stray edit. -/
theorem upToDate_perform_iff (build : Build) (sound : Sound db) (current : UpToDate db)
    (operation : Operation) :
    UpToDate (operation.perform build db) ↔ ¬ db.StrayEdit build operation := by
  obtain ⟨written, ids, effect, pass, -⟩ := exists_effect build sound operation
  constructor
  · intro agrees stray
    obtain ⟨id, outside, wrong⟩ := effect.not_viewAgrees sound stray current.views
    exact wrong ((pass.viewAgrees_iff outside).1 (agrees.views id))
  · intro regular
    refine ⟨fun id => ?_, ownCodes_perform build sound current.codes operation⟩
    -- Passes mend the views that they run over, so only the others can become stale.
    by_cases inside : id ∈ ids
    · exact pass.viewAgrees inside
    · refine (pass.viewAgrees_iff inside).2 ?_
      exact (viewAgrees_congr (effect.frame sound) (effect.rosterAlike sound regular inside)).2
        (current.views id)

/-- A checked build keeps what is stored within its range: an operation that is no stray edit counts
    every roster that it changes. -/
theorem representable_perform (sound : Sound db) (representable : Representable db)
    (operation : Operation) (regular : ¬ db.StrayEdit .checked operation) :
    Representable (operation.perform .checked db) := by
  obtain ⟨written, ids, effect, pass, -, computes⟩ := exists_effect .checked sound operation
  have counted : ∀ id ∈ ids, written.RosterFits id :=
    fun id inside => (computes id inside rfl).rosterFits
  have frame := effect.frame sound
  have players : written.players = db.players := by rw [frame]
  have aggregates : written.aggregates = db.aggregates := by rw [frame]
  constructor
  · intro teamSeason member
    rw [pass.roster]
    by_cases inside : teamSeason.id ∈ ids
    · exact (counted _ inside).1
    · obtain ⟨old, there, same, -⟩ := pass.exists_teamSeason member
      rw [effect.teamSeasons sound] at there
      rw [← same] at inside ⊢
      have alike := effect.rosterAlike sound regular inside
      exact (fits_congr alike.weights).2 (representable.totals old there)
  · intro row member
    rw [pass.tierRoster]
    by_cases inside : row.teamSeason ∈ ids
    · exact (counted _ inside).2 row.aggregate.code
    · have stored : row.aggregate ∈ db.aggregatesOf row.teamSeason := by
        have there := pass.kept row.teamSeason inside ▸ mem_aggregatesOf.2 member
        rwa [aggregatesOf, aggregates] at there
      have alike := effect.rosterAlike sound regular inside
      exact (fits_congr (alike.tierWeights players _)).2
        (representable.aggregates row (mem_aggregatesOf.1 stored))

/-- A single operation keeps consistent records consistent just when it is no stray edit and leaves
    nothing that cannot be stored. -/
theorem consistent_perform_iff (build : Build) (sound : Sound db) (consistent : Consistent db)
    (operation : Operation) : Consistent (operation.perform build db) ↔
      ¬ db.StrayEdit build operation ∧ Representable (operation.perform build db) := by
  have current := ((consistent_iff sound).1 consistent).1
  rw [consistent_iff (sound_perform build sound operation),
    upToDate_perform_iff build sound current operation]

theorem runAll_append (build : Build) (db : Auction) (before : List Operation)
    (operation : Operation) : db.runAll build (before ++ [operation]) =
      operation.perform build (db.runAll build before) := by
  simp only [runAll, List.foldl_append, List.foldl_cons, List.foldl_nil]

/-- What every operation keeps, a history keeps. -/
theorem runAll_invariant {motive : Auction → Prop}
    (step : ∀ db operation, motive db → motive (Operation.perform build db operation))
    (start : motive db) (operations : List Operation) : motive (db.runAll build operations) := by
  induction operations using List.reverseRecOn with
  | nil => exact start
  | append_singleton before operation ih =>
      rw [runAll_append]
      exact step _ operation ih

theorem sound_runAll (build : Build) (sound : Sound db) (operations : List Operation) :
    Sound (db.runAll build operations) :=
  runAll_invariant (motive := Sound) (fun _ operation sound => sound_perform build sound operation)
    sound operations

theorem distinctCodes_runAll (build : Build) (sound : Sound db) (distinct : db.DistinctCodes)
    (operations : List Operation) : (db.runAll build operations).DistinctCodes := by
  refine (runAll_invariant (motive := fun db => Sound db ∧ db.DistinctCodes) ?_
    ⟨sound, distinct⟩ operations).2
  rintro db operation ⟨sound, distinct⟩
  exact ⟨sound_perform build sound operation, distinctCodes_perform build sound distinct operation⟩

/-- Where codes are distinct there are no stray edits. -/
theorem not_strayEdit (sound : Sound db) (own : db.OwnCodes) (distinct : db.DistinctCodes)
    (operation : Operation) : ¬ db.StrayEdit build operation := by
  intro stray
  cases operation with
  | save request =>
      obtain ⟨answered, target, old, targetFound, editedFound, strays⟩ := stray
      cases saved : db.saveEntry build request with
      | error => simp [saved, Except.isOk, Except.toBool] at answered
      | ok result =>
          obtain ⟨written, save, -⟩ := saveEntry_ok saved
          exact strays.elsewhere (eq_of_entryCode_eq sound own distinct save.playerFound
            (Table.mem_of_find?_eq_some targetFound).1 (editedEntry_ok editedFound)
            strays.sameCode).2
  | remove | recompute => exact stray

/-- Where codes are distinct the records of a history stay up to date. -/
theorem upToDate_runAll (build : Build) (sound : Sound db) (current : UpToDate db)
    (distinct : db.DistinctCodes) (operations : List Operation) :
    UpToDate (db.runAll build operations) := by
  refine (runAll_invariant (motive := fun db => Sound db ∧ db.DistinctCodes ∧ UpToDate db) ?_
    ⟨sound, distinct, current⟩ operations).2.2
  rintro db operation ⟨sound, distinct, current⟩
  refine ⟨sound_perform build sound operation, distinctCodes_perform build sound distinct operation, ?_⟩
  exact (upToDate_perform_iff build sound current operation).2
    (not_strayEdit sound current.codes distinct operation)

/-- No operation of a history is a stray edit. -/
def Regular (build : Build) (db : Auction) (operations : List Operation) : Prop :=
  ∀ before operation, before ++ [operation] <+: operations →
    ¬ (db.runAll build before).StrayEdit build operation

/-- The records of a history are consistent at every point just when none of its operations is a
    stray edit and all rosters on the way can be stored. A checked build sees to the latter. Where
    codes are distinct there are no stray edits. -/
theorem consistent_history_iff (sound : Sound db) (consistent : Consistent db) (build : Build)
    (operations : List Operation) :
    ((∀ before, before <+: operations → Consistent (db.runAll build before)) ↔
      Regular build db operations ∧
        ∀ before, before <+: operations → Representable (db.runAll build before)) ∧
    (build = .checked → Regular build db operations →
      ∀ before, before <+: operations → Representable (db.runAll build before)) ∧
    (db.DistinctCodes → Regular build db operations ∧
      (Consistent (db.runAll build operations) ↔ Representable (db.runAll build operations))) := by
  have step (before : List Operation) (operation : Operation)
      (agrees : Consistent (db.runAll build before)) :
      Consistent (db.runAll build (before ++ [operation])) ↔
        ¬ (db.runAll build before).StrayEdit build operation ∧
          Representable (db.runAll build (before ++ [operation])) := by
    rw [runAll_append]
    exact consistent_perform_iff build (sound_runAll build sound before) agrees operation
  have current := ((consistent_iff sound).1 consistent).1
  refine ⟨⟨fun all => ⟨?_, ?_⟩, ?_⟩, ?_, fun distinct => ⟨?_, ?_⟩⟩
  · intro before operation early
    have earlier := (List.prefix_append before [operation]).trans early
    exact ((step before operation (all before earlier)).1 (all _ early)).1
  · intro before early
    exact ((consistent_iff (sound_runAll build sound before)).1 (all before early)).2
  · rintro ⟨regular, storable⟩ before early
    induction before using List.reverseRecOn with
    | nil => exact consistent
    | append_singleton before operation ih =>
        have agrees := ih ((List.prefix_append before [operation]).trans early)
        exact (step before operation agrees).2 ⟨regular before operation early, storable _ early⟩
  · rintro rfl regular before early
    induction before using List.reverseRecOn with
    | nil => exact ((consistent_iff sound).1 consistent).2
    | append_singleton before operation ih =>
        have storable := ih ((List.prefix_append before [operation]).trans early)
        rw [runAll_append]
        exact representable_perform (sound_runAll .checked sound before) storable operation
          (regular before operation early)
  · intro before operation early
    exact not_strayEdit (sound_runAll build sound before)
      (upToDate_runAll build sound current distinct before).codes
      (distinctCodes_runAll build sound distinct before) operation
  · rw [consistent_iff (sound_runAll build sound operations)]
    exact and_iff_right (upToDate_runAll build sound current distinct operations)

/-- Players `p` and `px`, of whom `p` was bought in team-season `x1`, and a second team-season. -/
def besides (code : String) : Auction where
  seasons := [{
    id := .ofNat 1
    limits :=
      { year := 2025, budget := ⟨10000⟩, minAmount := ⟨200⟩, maxPlayers := 5, maxRtm := 5,
        maxFree := 5 } }]
  tiers := ["t"]
  players := [⟨"p", "t"⟩, ⟨"px", "t"⟩]
  teamSeasons :=
    [⟨.ofNat 1, "x1", .ofNat 1, ⟨⟨100⟩, 0, 0, 1⟩⟩, ⟨.ofNat 2, code, .ofNat 1, .zero⟩]
  entries := [⟨"px1", "p", .ofNat 1, some ⟨100⟩, false, false⟩]
  aggregates := [⟨.ofNat 1, ⟨"t", ⟨100⟩, 1, some ⟨10000⟩⟩⟩]
  rules := []

/-- A new amount for `px` in a team-season, given to the entry `px1`. -/
def repricing (teamSeason : String) : Assignment where
  teamSeason
  player := "px"
  amount := some ⟨900⟩
  entry := some "px1"
  free := false
  rtm := false

theorem sound_besides {code : String} (either : code = "1" ∨ code = "2") :
    Sound (besides code) := by
  rcases either with rfl | rfl <;> constructor <;> decide

theorem consistent_besides {code : String} (either : code = "1" ∨ code = "2") :
    Consistent (besides code) := by
  have own : ∀ entry ∈ (besides code).entries, ∃ teamSeason ∈ (besides code).teamSeasons,
      teamSeason.id = entry.teamSeason ∧ entry.code = entryCode entry.player teamSeason.code := by
    rcases either with rfl | rfl <;> decide
  constructor
  · rcases either with rfl | rfl <;> decide
  · rcases either with rfl | rfl <;> decide
  · rcases either with rfl | rfl <;> simp only <;> decide
  · exact fun entry member => (ownCode_iff (sound_besides either)).2 (own entry member)

/-- `px` in `1` has the code of `p` in `x1`, and its new amount makes the totals of `x1` wrong. -/
theorem not_consistent_repricing : Sound (besides "1") ∧ Consistent (besides "1") ∧
    ¬ Consistent ((besides "1").runAll .release [.save (repricing "1")]) := by
  have sound := sound_besides (.inl rfl)
  have consistent := consistent_besides (.inl rfl)
  have stray : (besides "1").StrayEdit .release (.save (repricing "1")) := by
    refine ⟨by decide +kernel, ⟨.ofNat 2, "1", .ofNat 1, .zero⟩,
      ⟨"px1", "p", .ofNat 1, some ⟨100⟩, false, false⟩, by decide +kernel, by rfl, ?_⟩
    exact { sameCode := by decide +kernel, elsewhere := by decide, changes := by decide }
  exact ⟨sound, consistent, fun agrees =>
    ((consistent_perform_iff .release sound consistent (.save (repricing "1"))).1 agrees).1 stray⟩

/-- Without the shared code the entry of `p` is swapped out, and both views are right. -/
theorem consistent_repricing : Sound (besides "2") ∧ Consistent (besides "2") ∧
    (besides "2").DistinctCodes ∧
    Consistent ((besides "2").runAll .checked [.save (repricing "2"), .remove "px2"]) := by
  have sound := sound_besides (.inr rfl)
  have consistent := consistent_besides (.inr rfl)
  have distinct : (besides "2").DistinctCodes := by
    unfold DistinctCodes
    decide
  obtain ⟨all, storable, regular⟩ := consistent_history_iff sound consistent .checked
    [.save (repricing "2"), .remove "px2"]
  have noStray := (regular distinct).1
  exact ⟨sound, consistent, distinct,
    all.2 ⟨noStray, storable rfl noStray⟩ _ (List.prefix_refl _)⟩

end AuctionBudget.Auction
