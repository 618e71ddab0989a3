import AuctionBudget.Proofs.Auction.Allowances

/-! # The stored view as a cache

Whatever view is stored, a pass counts the same, since it counts the roster. Its ceilings are the
same as well, as long as no next-bid rule reads a ceiling that is stored differently: such a rule
sees the ceilings of the pass before, and with it a second pass may not repeat the first one.
-/

namespace AuctionBudget.Auction

open Rule (Row)

variable {build : Build} {db other after : Auction} {teamSeason : TeamSeason} {season : Season}
variable {id : Uuid} {code : String}

/-- The records without their stored view. -/
def sources (db : Auction) : Auction :=
  { db with
    teamSeasons := db.teamSeasons.map ({ · with totals := .zero })
    aggregates := [] }

/-- The next-bid rules that apply to a tier read the same ceilings in both stored views. -/
def CeilingsAlike (db other : Auction) (id season : Uuid) (code : String) : Prop :=
  ∀ row ∈ db.activeRows season Rule.nextBidTag, row.AppliesTo code → ∀ key ∈ row.ceilingKeys,
    (other.storedCeiling? id key).getD 0 = (db.storedCeiling? id key).getD 0

theorem roster_of_sources (same : other.sources = db.sources) (id : Uuid) :
    other.roster id = db.roster id := by
  have entries : other.entries = db.entries := (congrArg Auction.entries same :)
  rw [roster, roster, entries]

theorem tierRoster_of_sources (same : other.sources = db.sources) (id : Uuid) (code : String) :
    other.tierRoster id code = db.tierRoster id code := by
  have players : other.players = db.players := (congrArg Auction.players same :)
  simp only [tierRoster, ofTier, roster_of_sources same, player?, players]

/-- Whether a pass gets through does not depend on the stored view. -/
theorem computes_of_sources (same : other.sources = db.sources) :
    other.Computes build id ↔ db.Computes build id := by
  have players : other.players = db.players := (congrArg Auction.players same :)
  simp only [Computes, Countable, ofTier, roster_of_sources same, player?, players]

theorem tierCodes_of_sources (same : other.sources = db.sources) : other.tierCodes = db.tierCodes := by
  have tiers : other.tiers = db.tiers := (congrArg Auction.tiers same :)
  rw [tierCodes, tierCodes, tiers]

theorem activeRows_of_sources (same : other.sources = db.sources) (season : Uuid) (tag : String) :
    other.activeRows season tag = db.activeRows season tag := by
  have rules : other.rules = db.rules := (congrArg Auction.rules same :)
  rw [activeRows, activeRows, rules]

/-- The same team-seasons are there, perhaps with other totals. -/
theorem exists_teamSeason_of_sources (same : other.sources = db.sources)
    (member : teamSeason ∈ db.teamSeasons) :
    ∃ totals, { teamSeason with totals } ∈ other.teamSeasons := by
  have bare : { teamSeason with totals := .zero } ∈ other.sources.teamSeasons := by
    rw [same]
    exact List.mem_map_of_mem (f := fun t : TeamSeason => { t with totals := .zero }) member
  obtain ⟨old, there, equal⟩ := List.mem_map.1 bare
  refine ⟨old.totals, ?_⟩
  have whole : { teamSeason with totals := old.totals } = old := by
    cases old
    cases teamSeason
    simp_all
  rwa [whole]

/-- A row that reads the same ceilings yields the same for a tier. -/
theorem allowanceFor?_of_sources (sound : Sound db) (soundOther : Sound other)
    (same : other.sources = db.sources) (alike : db.CeilingsAlike other id season.id code) {row : Row}
    (member : row ∈ db.activeRows season.id Rule.nextBidTag) :
    allowanceFor? (other.ruleContext id season) code row =
      allowanceFor? (db.ruleContext id season) code row := by
  by_cases applies : row.AppliesTo code
  · have team : (other.ruleContext id season).team = (db.ruleContext id season).team := by
      simp only [ruleContext, roster_of_sources same]
    have counts (key : String) :
        (other.ruleContext id season).counts key = (db.ruleContext id season).counts key := by
      rw [counts_ruleContext sound, counts_ruleContext soundOther, tierRoster_of_sources same]
    have yields : scopedAllowance? (other.ruleContext id season) row =
        scopedAllowance? (db.ruleContext id season) row := by
      refine scopedAllowance?_congr team rfl counts fun key reads => ?_
      rw [ceilingAt_ruleContext sound, ceilingAt_ruleContext soundOther]
      exact alike row member applies key reads
    rw [allowanceFor?, allowanceFor?, yields]
  · have nothing (context : Context) : allowanceFor? context code row = none := by
      refine Option.eq_none_iff_forall_ne_some.2 fun allowance yields => applies ?_
      obtain ⟨scope, found, inScope⟩ := allowanceFor?_eq_some_iff.1 yields
      obtain ⟨rule, compiled, decodes, compiles, -, rfl⟩ := scopedAllowance?_eq_some_iff.1 found
      exact ⟨rule, compiled, decodes, compiles, inScope⟩
    rw [nothing, nothing]

theorem freshTier_of_sources (sound : Sound db) (soundOther : Sound other)
    (same : other.sources = db.sources) (alike : db.CeilingsAlike other id season.id code) :
    other.freshTier id season code = db.freshTier id season code := by
  refine freshTier_congr (tierRoster_of_sources same id code) ?_
  rw [activeRows_of_sources same]
  exact List.filterMap_congr fun row member =>
    allowanceFor?_of_sources sound soundOther same alike member

theorem freshTiers_of_sources (sound : Sound db) (soundOther : Sound other)
    (same : other.sources = db.sources)
    (alike : ∀ code ∈ db.tiers, db.CeilingsAlike other id season.id code) :
    other.freshTiers id season = db.freshTiers id season := by
  rw [freshTiers, freshTiers, tierCodes_of_sources same]
  exact List.map_congr_left fun code member =>
    freshTier_of_sources sound soundOther same (alike code (mem_tierCodes.1 member))

theorem Pass.sources (pass : Pass db teamSeason season after) : after.sources = db.sources := by
  have teamSeasons := pass.refreshed.map_teamSeasons ({ · with totals := .zero }) fun _ _ => rfl
  have refreshed := pass.refreshed
  simp only [Auction.sources, teamSeasons, refreshed.seasons, refreshed.tiers, refreshed.players,
    refreshed.entries, refreshed.rules]

/-- Storing the view of a pass again changes nothing. -/
theorem Pass.storeView_again (pass : Pass db teamSeason season after) :
    after.storeView teamSeason.id (tally (db.roster teamSeason.id))
      (db.freshTiers teamSeason.id season) = after := by
  have teamSeasons : Table.update TeamSeason.id teamSeason.id
      ({ · with totals := tally (db.roster teamSeason.id) }) after.teamSeasons =
        after.teamSeasons := by
    rw [pass.refreshed.teamSeasons, Table.update, List.map_map]
    refine List.map_congr_left fun old _ => ?_
    by_cases here : old.id = teamSeason.id
    · simp [here]
    · simp [here]
  have there : ∀ row ∈ (db.freshTiers teamSeason.id season).map (AggregateRow.mk teamSeason.id),
      row ∈ after.aggregates := by
    intro row member
    obtain ⟨tier, fresh, rfl⟩ := List.mem_map.1 member
    exact mem_aggregatesOf.1 (pass.stored.mem_iff.2 fresh)
  rw [storeView_eq, teamSeasons, Table.foldl_upsert_of_mem pass.sound.aggregateKeys there]

/-- A second pass repeats the first one, if the ceilings that are read were stored before. -/
theorem Pass.again (pass : Pass db teamSeason season after) (sound : Sound db)
    (computes : db.Computes build teamSeason.id)
    (alike : ∀ code ∈ db.tiers, db.CeilingsAlike after teamSeason.id season.id code) :
    after.recompute build teamSeason.id = .ok (db.freshTiers teamSeason.id season, after) := by
  have computesAfter := (computes_of_sources pass.sources).2 computes
  rw [recompute_eq pass.sound pass.counted pass.seasonKept computesAfter,
    roster_of_sources pass.sources, freshTiers_of_sources sound pass.sound pass.sources alike,
    pass.storeView_again]

/-- What two passes over a team-season in records with the same sources have in common. -/
structure PassesAgree (build : Build) (db other : Auction) (teamSeason : TeamSeason)
    (season : Season) (tiers otherTiers : List TierAggregate) (after otherAfter : Auction) :
    Prop where
  /-- What is answered is what is stored. -/
  stored : after.tierAggregates teamSeason.id = .ok tiers
  otherStored : otherAfter.tierAggregates teamSeason.id = .ok otherTiers
  totals : otherAfter.teamSeason? teamSeason.id = after.teamSeason? teamSeason.id
  counts : otherTiers.map (fun tier => (tier.code, tier.spent, tier.players)) =
    tiers.map (fun tier => (tier.code, tier.spent, tier.players))
  /-- A tier whose rules read the same ceilings gets the same aggregate, ceiling included. -/
  tier : ∀ code, db.CeilingsAlike other teamSeason.id season.id code →
    Table.find? TierAggregate.code code otherTiers = Table.find? TierAggregate.code code tiers
  answer : (∀ code ∈ db.tiers, db.CeilingsAlike other teamSeason.id season.id code) →
    otherTiers = tiers
  /-- A second pass changes nothing, if the rules read the same ceilings after the first one. -/
  again : (∀ code ∈ db.tiers, db.CeilingsAlike after teamSeason.id season.id code) →
    after.recompute build teamSeason.id = .ok (tiers, after)

/-- Two passes over the same sources both get through their sums or are both stopped. They store the
    same totals and count the same for every tier, and they agree on the ceiling of a tier, if its
    rules read the same stored ceilings. -/
theorem recompute_of_sources (sound : Sound db) (soundOther : Sound other)
    (same : other.sources = db.sources) (member : teamSeason ∈ db.teamSeasons) (build : Build) :
    (db.Computes build teamSeason.id → ∃ season tiers otherTiers after otherAfter,
      db.season? teamSeason.season = some season ∧
      db.recompute build teamSeason.id = .ok (tiers, after) ∧
      other.recompute build teamSeason.id = .ok (otherTiers, otherAfter) ∧
      PassesAgree build db other teamSeason season tiers otherTiers after otherAfter) ∧
    (¬ db.Computes build teamSeason.id →
      db.recompute build teamSeason.id = .error .overflow ∧
      other.recompute build teamSeason.id = .error .overflow) := by
  obtain ⟨season, after, pass⟩ := exists_pass sound member
  obtain ⟨totals, otherMember⟩ := exists_teamSeason_of_sources same member
  obtain ⟨_, otherAfter, otherPass⟩ := exists_pass soundOther otherMember
  have seasons : other.seasons = db.seasons := (congrArg Auction.seasons same :)
  have tierCodes : other.tiers = db.tiers := (congrArg Auction.tiers same :)
  have seasonFound := otherPass.seasonFound
  rw [season?, seasons] at seasonFound
  obtain rfl : season = _ := Option.some.inj (pass.seasonFound.symm.trans seasonFound)
  constructor
  · intro computes
    have otherComputes := (computes_of_sources same).2 computes
    refine ⟨season, _, _, after, otherAfter, pass.seasonFound, pass.answer computes,
      otherPass.answer otherComputes, {
        stored := pass.tierAggregates
        otherStored := otherPass.tierAggregates
        totals := ?_
        counts := ?_
        tier := fun code alike => ?_
        answer := freshTiers_of_sources sound soundOther same
        again := pass.again sound computes }⟩
    · rw [pass.counted, otherPass.counted, roster_of_sources same]
    · simp only [freshTiers, List.map_map, Function.comp_def, freshTier,
        tierCodes_of_sources same, tierRoster_of_sources same]
    · rw [find?_freshTiers, find?_freshTiers, tierCodes,
        freshTier_of_sources sound soundOther same alike]
  · intro stops
    have known := isSome_teamSeason?_iff.2 ⟨teamSeason, member, rfl⟩
    have otherKnown := isSome_teamSeason?_iff.2 ⟨_, otherMember, rfl⟩
    have otherStops := mt (computes_of_sources same).1 stops
    exact ⟨recompute_of_not_computes sound known stops,
      recompute_of_not_computes soundOther otherKnown otherStops⟩

def openSeason : Season where
  id := .ofNat 1
  limits :=
    { year := 2025, budget := ⟨50000⟩, minAmount := ⟨200⟩, maxPlayers := 5, maxRtm := 5,
      maxFree := 5 }

/-- One tier, nobody in it, and a rule that bounds one of its fields. -/
def limited (field : String) (stored : List TierAggregate) : Auction where
  seasons := [openSeason]
  tiers := ["l1"]
  players := []
  teamSeasons := [⟨.ofNat 1, "x", .ofNat 1, .zero⟩]
  entries := []
  aggregates := stored.map (AggregateRow.mk (.ofNat 1))
  rules := [.encode (Rule.limiting field)]

theorem sound_limited (field : String) : Sound (limited field []) := by
  constructor <;> simp [limited, season?, Table.find?, Row.encode, Rule.limiting, openSeason]

/-- The one tier with other totals and another aggregate. -/
def limitedStale : Auction :=
  { limited Rule.spentField.name [⟨"l1", ⟨700⟩, 3, some ⟨100⟩⟩] with
    teamSeasons := [⟨.ofNat 1, "x", .ofNat 1, ⟨⟨700⟩, 1, 1, 3⟩⟩] }

theorem recompute_limitedStale :
    Sound (limited Rule.spentField.name []) ∧ Sound limitedStale ∧
      limitedStale.sources = (limited Rule.spentField.name []).sources ∧
      ∃ tiers after staleAfter,
        (limited Rule.spentField.name []).recompute .checked (.ofNat 1) = .ok (tiers, after) ∧
        limitedStale.recompute .checked (.ofNat 1) = .ok (tiers, staleAfter) ∧
        after.recompute .checked (.ofNat 1) = .ok (tiers, after) := by
  have sound := sound_limited Rule.spentField.name
  have soundStale : Sound limitedStale := by constructor <;> decide
  have member : ⟨.ofNat 1, "x", .ofNat 1, .zero⟩ ∈ (limited Rule.spentField.name []).teamSeasons :=
    List.mem_singleton_self _
  have computes : (limited Rule.spentField.name []).Computes .checked (.ofNat 1) :=
    fun _ => (countable_iff_fits (by decide)).2 (by decide)
  have alike (other : Auction) (season : Uuid) (code : String) :
      (limited Rule.spentField.name []).CeilingsAlike other (.ofNat 1) season code := by
    intro row selected _ key reads
    obtain rfl := List.mem_singleton.1 (mem_activeRows.1 selected).1
    simp [Rule.ceilingKeys_limiting_spent] at reads
  obtain ⟨season, tiers, staleTiers, after, staleAfter, -, answer, stale, agree⟩ :=
    (recompute_of_sources sound soundStale rfl member .checked).1 computes
  obtain rfl := agree.answer fun code _ => alike _ _ code
  exact ⟨sound, soundStale, rfl, staleTiers, after, staleAfter, answer, stale,
    agree.again fun code _ => alike _ _ code⟩

/-- One tier with a rule that bounds its ceiling. -/
def carrying (stored : List TierAggregate) : Auction :=
  limited Rule.ceilingField.name stored

/-- The ceiling that a pass sets there, by the one that is stored before. -/
def nextCeiling (before : Money) : Money :=
  .ofUnits (Rule.smaller openSeason.limits.budget.units
    (Rule.remaining 90.0 .atMost before.units))

theorem scopedAllowance?_carrying {stored : List TierAggregate} (sound : Sound (carrying stored))
    {before : Money} (held : ((carrying stored).storedCeiling? (.ofNat 1) "l1").getD 0 = before) :
    scopedAllowance? ((carrying stored).ruleContext (.ofNat 1) openSeason)
      (.encode (Rule.limiting Rule.ceilingField.name)) =
        some (.tiers ["l1"], Rule.remaining 90.0 .atMost before.units) := by
  have read := Context.lookup_ceiling ((carrying stored).ruleContext (.ofNat 1) openSeason) "l1"
  rw [ceilingAt_ruleContext sound, held] at read
  change Context.lookup _ Rule.tierRoot "l1" Rule.ceilingField.name = _ at read
  refine scopedAllowance?_eq_some_iff.2
    ⟨_, _, Row.decode_encode _, Rule.compile_limiting (.inr rfl), ?_, by decide +kernel⟩
  rw [CompiledRule.remaining, CompiledRule.total, Expr.evaluate, Expr.eval, read]
  rfl

theorem recompute_carrying {stored : List TierAggregate} (sound : Sound (carrying stored))
    (before : Money) (held : ((carrying stored).storedCeiling? (.ofNat 1) "l1").getD 0 = before) :
    (carrying stored).recompute .release (.ofNat 1) =
      .ok ([⟨"l1", 0, 0, some (nextCeiling before)⟩],
        carrying [⟨"l1", 0, 0, some (nextCeiling before)⟩]) := by
  have found : (carrying stored).teamSeason? (.ofNat 1) =
      some ⟨.ofNat 1, "x", .ofNat 1, .zero⟩ := by
    rfl
  have seasonFound : (carrying stored).season? (.ofNat 1) = some openSeason := by
    rfl
  have rows : (carrying stored).activeRows openSeason.id Rule.nextBidTag =
      [.encode (Rule.limiting Rule.ceilingField.name)] := by
    rfl
  have fresh : (carrying stored).freshTier (.ofNat 1) openSeason "l1" =
      ⟨"l1", 0, 0, some (nextCeiling before)⟩ := by
    simp only [freshTier, passAllowances_eq, rows, List.filterMap_cons,
      scopedAllowance?_carrying sound held, List.filterMap_nil]
    rfl
  have all : (carrying stored).freshTiers (.ofNat 1) openSeason =
      [⟨"l1", 0, 0, some (nextCeiling before)⟩] := by
    rw [← fresh]
    rfl
  -- The new row takes the place of all that is stored.
  have covered : ∀ row ∈ (carrying stored).aggregates, row.key ∈
      [AggregateRow.mk (.ofNat 1) ⟨"l1", 0, 0, some (nextCeiling before)⟩].map AggregateRow.key := by
    intro row member
    have code := List.mem_singleton.1 (sound.aggregateTier row member)
    obtain ⟨tier, -, rfl⟩ := List.mem_map.1 member
    exact List.mem_singleton.2 (congrArg (Prod.mk _) code)
  have replaced := List.perm_singleton.1
    (Table.foldl_upsert_perm (List.nodup_singleton _) sound.aggregateKeys covered)
  rw [recompute_eq sound found seasonFound (computes_release _ _), all, storeView_eq, List.map_singleton,
    replaced]
  rfl

/-- The first pass lets the rule spend 90, and the second one, which sees that, nothing. -/
theorem recompute_carrying_twice :
    let first := carrying [⟨"l1", 0, 0, some ⟨9000⟩⟩]
    let second := carrying [⟨"l1", 0, 0, some ⟨0⟩⟩]
    Sound (carrying []) ∧ Sound first ∧ first.sources = (carrying []).sources ∧
      (carrying []).recompute .release (.ofNat 1) = .ok ([⟨"l1", 0, 0, some ⟨9000⟩⟩], first) ∧
      first.recompute .release (.ofNat 1) = .ok ([⟨"l1", 0, 0, some ⟨0⟩⟩], second) := by
  have sound : Sound (carrying []) := sound_limited _
  have once := recompute_carrying sound 0 rfl
  have opened : nextCeiling 0 = ⟨9000⟩ := by decide +kernel
  rw [opened] at once
  have soundFirst := (recompute_ok sound once).2.1
  have again := recompute_carrying soundFirst ⟨9000⟩ rfl
  have closed : nextCeiling ⟨9000⟩ = ⟨0⟩ := by decide +kernel
  rw [closed] at again
  exact ⟨sound, soundFirst, rfl, once, again⟩

end AuctionBudget.Auction
