import AuctionBudget.Proofs.Auction.Allowances

/-! # Rules on their own

Whatever the rows of the rules hold, a pass over an existing team-season answers, or a checked build
cannot count the roster, and then no rule helps. A rule that has no say in the ceiling of a tier might
as well be deleted: what the pass counts, and its ceiling for that tier, stay the same.
-/

namespace AuctionBudget.Auction

open Rule (Row)

variable {db after : Auction} {teamSeason : TeamSeason} {season : Season} {row : Row}
variable {build : Build} {context : Context} {code : String}

/-- The records without a rule. -/
def withoutRule (db : Auction) (row : Row) : Auction :=
  { db with rules := Table.erase Row.id row.id db.rules }

theorem sound_withoutRule (sound : Sound db) (row : Row) : Sound (db.withoutRule row) where
  seasonIds := sound.seasonIds
  tiers := sound.tiers
  playerCodes := sound.playerCodes
  teamSeasonIds := sound.teamSeasonIds
  teamSeasonCodes := sound.teamSeasonCodes
  entryCodes := sound.entryCodes
  aggregateKeys := sound.aggregateKeys
  ruleIds := Table.nodup_erase sound.ruleIds
  playerTier := sound.playerTier
  teamSeasonSeason := sound.teamSeasonSeason
  entryPlayer := sound.entryPlayer
  entryTeamSeason := sound.entryTeamSeason
  aggregateTeamSeason := sound.aggregateTeamSeason
  aggregateTier := sound.aggregateTier
  ruleSeason := fun other member => sound.ruleSeason other (Table.mem_erase.1 member).1

theorem ruleBefore_total (a b : Row) : ruleBefore a b = true ∨ ruleBefore b a = true := by
  simp only [ruleBefore, Bool.or_eq_true, Bool.and_eq_true, decide_eq_true_eq]
  rcases lt_trichotomy a.priority b.priority with first | same | second
  · exact .inl (.inl first)
  · exact (Timestamp.precedes_total a.created b.created).imp (fun before => .inr ⟨same, before⟩)
      fun before => .inr ⟨same.symm, before⟩
  · exact .inr (.inl second)

theorem ruleBefore_trans (a b c : Row) (ab : ruleBefore a b = true) (bc : ruleBefore b c = true) :
    ruleBefore a c = true := by
  simp only [ruleBefore, Bool.or_eq_true, Bool.and_eq_true, decide_eq_true_eq] at *
  rcases ab with ab | ⟨ab, before⟩
  · exact .inl (bc.elim ab.trans fun same => ab.trans_eq same.1)
  · rcases bc with bc | ⟨bc, later⟩
    · exact .inl (ab.trans_lt bc)
    · exact .inr ⟨ab.trans bc, Timestamp.precedes_trans _ _ _ before later⟩

theorem activeRows_withoutRule (db : Auction) (row : Row) (season : Uuid) (tag : String) :
    (db.withoutRule row).activeRows season tag =
      (db.activeRows season tag).filter fun other => other.id ≠ row.id := by
  rw [activeRows, activeRows, Ordered.filter_sortBy ruleBefore_total ruleBefore_trans]
  simp only [withoutRule, Table.erase, List.filter_filter, Bool.and_comm]

/-- The reasons why a rule has no say in the ceiling of a tier. -/
inductive Idle (context : Context) (season : Uuid) (code : String) (row : Row) : Prop
  | inactive (off : row.active = false)
  | otherSeason (elsewhere : row.season ≠ season)
  | otherTag (elsewhere : row.tag ≠ Rule.nextBidTag)
  | undecoded {fault : Rule.Unreadable} (decodes : row.decode = .error fault)
  | uncompiled {rule : Rule} {fault : Error} (decodes : row.decode = .ok rule)
      (compiles : rule.compile = .error fault)
  | unevaluated {rule : Rule} {compiled : CompiledRule} {fault : Error}
      (decodes : row.decode = .ok rule) (compiles : rule.compile = .ok compiled)
      (evaluates : compiled.remaining context = .error fault)
  | outOfScope {rule : Rule} {compiled : CompiledRule} (decodes : row.decode = .ok rule)
      (compiles : rule.compile = .ok compiled)
      (outside : (rule.scope compiled).appliesTo code = false)

/-- An idle rule that is selected yields nothing for the tier. -/
theorem Idle.allowanceFor?_eq_none {id : Uuid} (idle : Idle context id code row)
    (selected : row ∈ db.activeRows id Rule.nextBidTag) : allowanceFor? context code row = none := by
  obtain ⟨-, here, tagged, active⟩ := mem_activeRows.1 selected
  refine Option.eq_none_iff_forall_ne_some.2 fun allowance yields => ?_
  obtain ⟨scope, found, applies⟩ := allowanceFor?_eq_some_iff.1 yields
  obtain ⟨rule, compiled, decodes, compiles, evaluates, rfl⟩ := scopedAllowance?_eq_some_iff.1 found
  cases idle with
  | inactive off => simp [active] at off
  | otherSeason elsewhere => exact elsewhere here
  | otherTag elsewhere => exact elsewhere tagged
  | undecoded fails => simp [decodes] at fails
  | uncompiled decodes' fails =>
      cases decodes.symm.trans decodes'
      simp [compiles] at fails
  | unevaluated decodes' compiles' fails =>
      cases decodes.symm.trans decodes'
      cases compiles.symm.trans compiles'
      simp [evaluates] at fails
  | outOfScope decodes' compiles' outside =>
      cases decodes.symm.trans decodes'
      cases compiles.symm.trans compiles'
      simp [applies] at outside

/-- Deleting an idle rule changes nothing about the tier. -/
theorem freshTier_withoutRule (sound : Sound db) (member : row ∈ db.rules) (id : Uuid)
    (idle : Idle (db.ruleContext id season) season.id code row) :
    (db.withoutRule row).freshTier id season code = db.freshTier id season code := by
  refine freshTier_congr rfl ?_
  have context : (db.withoutRule row).ruleContext id season = db.ruleContext id season := rfl
  rw [context, activeRows_withoutRule, List.filterMap_filter]
  refine List.filterMap_congr fun other selected => ?_
  by_cases same : other.id = row.id
  · have it : other = row :=
      List.inj_on_of_nodup_map sound.ruleIds (mem_activeRows.1 selected).1 member same
    subst it
    simp [idle.allowanceFor?_eq_none selected]
  · simp [same]

/-- Whether a pass gets through all sums is no matter of the rules. -/
theorem computes_withoutRule (db : Auction) (row : Row) (id : Uuid) :
    (db.withoutRule row).Computes build id ↔ db.Computes build id :=
  Iff.rfl

/-- A pass over an existing team-season is refused just where a checked build cannot count the roster,
    whatever the rules are. Deleting a rule keeps the totals and, where the rule is idle, what the pass
    answers and stores about a tier. -/
theorem recompute_withoutRule (sound : Sound db) (member : teamSeason ∈ db.teamSeasons)
    (build : Build) :
    (db.Computes build teamSeason.id → ∃ season tiers after,
      db.season? teamSeason.season = some season ∧
      db.recompute build teamSeason.id = .ok (tiers, after) ∧
      after.tierAggregates teamSeason.id = .ok tiers ∧
      ∀ row ∈ db.rules, ∃ restTiers restAfter,
        (db.withoutRule row).recompute build teamSeason.id = .ok (restTiers, restAfter) ∧
        restAfter.tierAggregates teamSeason.id = .ok restTiers ∧
        restAfter.teamSeasons = after.teamSeasons ∧
        ∀ code ∈ db.tiers, Idle (db.ruleContext teamSeason.id season) season.id code row →
          ∃ tier, Table.find? TierAggregate.code code tiers = some tier ∧
            Table.find? TierAggregate.code code restTiers = some tier) ∧
    (¬ db.Computes build teamSeason.id →
      db.recompute build teamSeason.id = .error .overflow ∧
      ∀ row ∈ db.rules, (db.withoutRule row).recompute build teamSeason.id = .error .overflow) := by
  constructor
  · intro computes
    obtain ⟨season, after, pass⟩ := exists_pass sound member
    refine ⟨season, _, after, pass.seasonFound, pass.answer computes, pass.tierAggregates, ?_⟩
    intro row there
    have listed : teamSeason ∈ (db.withoutRule row).teamSeasons := member
    obtain ⟨_, rest, without⟩ := exists_pass (sound_withoutRule sound row) listed
    obtain rfl : season = _ := Option.some.inj (pass.seasonFound.symm.trans without.seasonFound)
    have answer := without.answer ((computes_withoutRule db row _).2 computes)
    refine ⟨_, rest, answer, without.tierAggregates, ?_, fun code known idle => ?_⟩
    · rw [without.refreshed.teamSeasons, pass.refreshed.teamSeasons]
      rfl
    · refine ⟨db.freshTier teamSeason.id season code, by simp [known], ?_⟩
      have known' : code ∈ (db.withoutRule row).tiers := known
      simp [known', freshTier_withoutRule sound there teamSeason.id idle]
  · intro stops
    have known := isSome_teamSeason?_iff.2 ⟨teamSeason, member, rfl⟩
    refine ⟨recompute_of_not_computes sound known stops, fun row _ => ?_⟩
    refine recompute_of_not_computes (sound_withoutRule sound row) known fun computes => ?_
    exact stops ((computes_withoutRule db row _).1 computes)

/-- A rule whose shorthand is no object. -/
def unreadable : Row where
  id := .ofNat 7
  season := .ofNat 1
  tag := Rule.nextBidTag
  category := some "common"
  name := none
  statement := "l1.totalAmountSpent <= 100"
  shorthand := some "l => playerLevels.l"
  roots := none
  active := true
  priority := 0
  created := 0

theorem recompute_withoutRule_unreadable :
    Sound { outdated with rules := [unreadable] } ∧
      ∃ tiers after restTiers restAfter tier,
        recompute .checked { outdated with rules := [unreadable] } (.ofNat 1) = .ok (tiers, after) ∧
        recompute .checked { outdated with rules := [] } (.ofNat 1) = .ok (restTiers, restAfter) ∧
        restAfter.teamSeasons = after.teamSeasons ∧
        Table.find? TierAggregate.code "l1" tiers = some tier ∧
        Table.find? TierAggregate.code "l1" restTiers = some tier := by
  have sound : Sound { outdated with rules := [unreadable] } := by constructor <;> decide
  have member : ⟨.ofNat 1, "x", .ofNat 1, ⟨⟨700⟩, 3, 0, 9⟩⟩ ∈
      { outdated with rules := [unreadable] }.teamSeasons := by decide
  have computes : Computes { outdated with rules := [unreadable] } .checked (.ofNat 1) :=
    computes_outdated .checked
  obtain ⟨season, tiers, after, -, answer, -, isolated⟩ :=
    (recompute_withoutRule sound member .checked).1 computes
  obtain ⟨restTiers, restAfter, rest, -, same, each⟩ := isolated unreadable (by simp)
  have fails : unreadable.decode =
      .error ⟨unreadable.id, .shorthand, "l => playerLevels.l"⟩ := by
    decide +kernel
  obtain ⟨tier, kept, keptRest⟩ := each "l1" (by decide) (.undecoded fails)
  exact ⟨sound, tiers, after, restTiers, restAfter, tier, answer, rest, same, kept, keptRest⟩

end AuctionBudget.Auction
