import AuctionBudget.Proofs.Auction.Pass
import Mathlib.Algebra.BigOperators.Group.Finset.Piecewise
import Mathlib.Data.Nat.Cast.Basic
import Mathlib.Data.String.Basic

/-! # What a pass rebuilds

A pass over a team-season stores the totals of its roster and one aggregate per tier, which add up
to the totals, whatever was stored before. Reading the aggregates back gives the answer of the pass,
and no source record and no other view changes.
-/

namespace AuctionBudget.Auction

variable {build : Build} {db after : Auction} {id : Uuid}
variable {teamSeason : TeamSeason} {season : Season} {tiers : List TierAggregate}

/-- What a pass over a team-season of sound records finds and leaves, and what it answers if it gets
    through. -/
structure Pass (db : Auction) (teamSeason : TeamSeason) (season : Season) (after : Auction) :
    Prop where
  found : db.teamSeason? teamSeason.id = some teamSeason
  seasonFound : db.season? teamSeason.season = some season
  answer : ∀ {build}, db.Computes build teamSeason.id →
    db.recompute build teamSeason.id = .ok (db.freshTiers teamSeason.id season, after)
  view : after = db.storeView teamSeason.id (tally (db.roster teamSeason.id))
    (db.freshTiers teamSeason.id season)
  refreshed : Refreshed db [teamSeason.id] after
  sound : Sound after
  stored : (after.aggregatesOf teamSeason.id).Perm (db.freshTiers teamSeason.id season)

theorem exists_pass (sound : Sound db) (member : teamSeason ∈ db.teamSeasons) :
    ∃ season after, Pass db teamSeason season after := by
  have found := (teamSeason?_eq_some_iff sound).2 ⟨member, rfl⟩
  obtain ⟨season, seasonFound⟩ :=
    Option.isSome_iff_exists.1 (sound.teamSeasonSeason teamSeason member)
  have answer {build : Build} (computes : db.Computes build teamSeason.id) :=
    recompute_eq sound found seasonFound computes
  obtain ⟨refreshed, soundAfter, stored⟩ := recompute_ok sound (answer (computes_release db _))
  exact ⟨season, _, found, seasonFound, answer, rfl, refreshed, soundAfter, stored⟩

theorem exists_pass_of_recompute (sound : Sound db)
    (answered : db.recompute build id = .ok (tiers, after)) :
    ∃ teamSeason season, teamSeason.id = id ∧ Pass db teamSeason season after ∧
      tiers = db.freshTiers id season := by
  obtain ⟨known, computes⟩ := computes_of_recompute sound answered
  obtain ⟨teamSeason, member, rfl⟩ := isSome_teamSeason?_iff.1 known
  obtain ⟨season, _, pass⟩ := exists_pass sound member
  cases (pass.answer computes).symm.trans answered
  exact ⟨teamSeason, season, rfl, pass, rfl⟩

/-- What is sorted by its codes is in the order of them. -/
theorem pairwise_sortBy_code {α : Type} (code : α → String) (items : List α) :
    (Ordered.sortBy (fun a b => code a ≤ code b) items).Pairwise fun a b => code a ≤ code b := by
  have total (a b : α) : decide (code a ≤ code b) = true ∨ decide (code b ≤ code a) = true := by
    simpa using le_total (code a) (code b)
  have trans (a b c : α) (ab : decide (code a ≤ code b) = true)
      (bc : decide (code b ≤ code c) = true) : decide (code a ≤ code c) = true :=
    decide_eq_true (le_trans (of_decide_eq_true ab) (of_decide_eq_true bc))
  exact (Ordered.pairwise_sortBy total trans items).imp fun before => of_decide_eq_true before

theorem pairwise_tierCodes (db : Auction) : db.tierCodes.Pairwise (· ≤ ·) :=
  pairwise_sortBy_code id db.tiers

theorem nodup_tierCodes (sound : Sound db) : db.tierCodes.Nodup :=
  (Ordered.sortBy_perm _ _).nodup_iff.2 sound.tiers

@[simp] theorem mem_tierCodes {code : String} : code ∈ db.tierCodes ↔ code ∈ db.tiers :=
  Ordered.mem_sortBy

@[simp] theorem map_code_freshTiers (db : Auction) (id : Uuid) (season : Season) :
    (db.freshTiers id season).map (·.code) = db.tierCodes := by
  simp [freshTiers, freshTier, tierCount, Function.comp_def]

theorem nodup_code_freshTiers (sound : Sound db) (id : Uuid) (season : Season) :
    ((db.freshTiers id season).map (·.code)).Nodup := by
  rw [map_code_freshTiers]
  exact nodup_tierCodes sound

theorem pairwise_freshTiers (db : Auction) (id : Uuid) (season : Season) :
    (db.freshTiers id season).Pairwise fun a b => a.code ≤ b.code := by
  have codes := pairwise_tierCodes db
  rwa [← map_code_freshTiers db id season, List.pairwise_map] at codes

/-- The aggregates that a pass stores are read back as they are. -/
theorem Pass.storedAggregates (pass : Pass db teamSeason season after) :
    after.storedAggregates teamSeason.id = db.freshTiers teamSeason.id season := by
  have sorted : (after.storedAggregates teamSeason.id).Pairwise fun a b => a.code ≤ b.code :=
    pairwise_sortBy_code TierAggregate.code _
  have rows : (after.storedAggregates teamSeason.id).Perm (db.freshTiers teamSeason.id season) :=
    (Ordered.sortBy_perm _ _).trans pass.stored
  have codes : ((after.storedAggregates teamSeason.id).map (·.code)).Nodup := by
    rw [(rows.map _).nodup_iff, map_code_freshTiers, tierCodes, (Ordered.sortBy_perm _ _).nodup_iff,
      ← pass.refreshed.tiers]
    exact pass.sound.tiers
  refine rows.eq_of_pairwise (fun a b here there ab ba => ?_) sorted (pairwise_freshTiers db _ season)
  exact List.inj_on_of_nodup_map codes here (rows.mem_iff.2 there) (le_antisymm ab ba)

/-- Every entry is counted in one tier. -/
theorem sum_tiers {M : Type} [AddCommMonoid M] {codes : List String} (distinct : codes.Nodup)
    {entries : List Entry} {tierOf : Entry → String}
    (covered : ∀ entry ∈ entries, tierOf entry ∈ codes) (weight : Entry → M) :
    (codes.map fun code => ((entries.filter fun entry => tierOf entry = code).map weight).sum).sum =
      (entries.map weight).sum := by
  rw [← List.sum_toFinset _ distinct]
  induction entries with
  | nil => simp
  | cons entry rest ih =>
      have here : tierOf entry ∈ codes.toFinset :=
        List.mem_toFinset.2 (covered entry List.mem_cons_self)
      have split (code : String) :
          (((entry :: rest).filter fun entry => tierOf entry = code).map weight).sum =
            (if tierOf entry = code then weight entry else 0) +
              ((rest.filter fun entry => tierOf entry = code).map weight).sum := by
        by_cases same : tierOf entry = code <;> simp [same]
      have later := ih fun other member => covered other (List.mem_cons_of_mem _ member)
      simp only [split]
      rw [Finset.sum_add_distrib, Finset.sum_ite_eq, if_pos here, later, List.map_cons,
        List.sum_cons]

theorem tierOf_mem (sound : Sound db) {entry : Entry} (member : entry ∈ db.entries) :
    db.tierOf entry ∈ db.tiers := by
  obtain ⟨player, found⟩ := Option.isSome_iff_exists.1 (sound.entryPlayer entry member)
  rw [tierOf, found]
  exact sound.playerTier player (Table.mem_of_find?_eq_some found).1

theorem sum_tierRoster {M : Type} [AddCommMonoid M] (sound : Sound db) (id : Uuid)
    (weight : Entry → M) :
    (db.tierCodes.map fun code => ((db.tierRoster id code).map weight).sum).sum =
      ((db.roster id).map weight).sum := by
  simp only [tierRoster_eq sound]
  refine sum_tiers (nodup_tierCodes sound) (fun entry member => ?_) weight
  exact mem_tierCodes.2 (tierOf_mem sound (roster_subset member))

theorem sum_amountOf_tierRoster (sound : Sound db) (id : Uuid) :
    (db.tierCodes.map fun code => amountOf (db.tierRoster id code)).sum = amountOf (db.roster id) := by
  simp only [amountOf_eq_sum]
  exact sum_tierRoster sound id fun entry => entry.price.cents

theorem sum_length_tierRoster (M : Type) [AddCommMonoidWithOne M] (sound : Sound db) (id : Uuid) :
    (db.tierCodes.map fun code => ((db.tierRoster id code).length : M)).sum =
      (db.roster id).length := by
  simpa using sum_tierRoster sound id fun _ => (1 : M)

/-- The numbers of a pass are the exact ones. -/
structure Exact (db : Auction) (teamSeason : TeamSeason) (tiers : List TierAggregate)
    (after : Auction) : Prop where
  totals : ∀ stored, after.teamSeason? teamSeason.id = some stored → db.TotalsAgree stored
  counted : ∀ tier ∈ tiers, db.AggregateAgrees ⟨teamSeason.id, tier⟩
  spent : (tiers.map (·.spent.cents)).sum = amountOf (db.roster teamSeason.id)
  players : (tiers.map (·.players.toInt)).sum = (db.roster teamSeason.id).length

theorem Pass.teamSeason? (pass : Pass db teamSeason season after) (id : Uuid) :
    after.teamSeason? id =
      if id = teamSeason.id then
        some { teamSeason with totals := tally (db.roster teamSeason.id) }
      else db.teamSeason? id := by
  have stored (old : TeamSeason) (member : old ∈ db.teamSeasons) :
      (if old.id = teamSeason.id then { old with totals := tally (db.roster old.id) } else old)
        ∈ after.teamSeasons := by
    rw [pass.refreshed.teamSeasons]
    simpa using List.mem_map_of_mem (f := fun old : TeamSeason =>
      if old.id ∈ [teamSeason.id] then { old with totals := tally (db.roster old.id) } else old)
      member
  by_cases here : id = teamSeason.id
  · subst here
    rw [if_pos rfl, teamSeason?_eq_some_iff pass.sound]
    simpa using stored teamSeason (Table.mem_of_find?_eq_some pass.found).1
  · rw [if_neg here]
    cases found : db.teamSeason? id with
    | some other =>
        obtain ⟨member, rfl⟩ := Table.mem_of_find?_eq_some found
        rw [teamSeason?_eq_some_iff pass.sound]
        exact ⟨by simpa [here] using stored other member, rfl⟩
    | none =>
        refine Option.not_isSome_iff_eq_none.1 fun known => ?_
        have same := pass.refreshed.map_teamSeasons TeamSeason.id fun _ _ => rfl
        rw [isSome_teamSeason?_congr same, found] at known
        exact Bool.false_ne_true known

/-- The team-season is found with the totals of its roster. -/
theorem Pass.counted (pass : Pass db teamSeason season after) :
    after.teamSeason? teamSeason.id =
      some { teamSeason with totals := tally (db.roster teamSeason.id) } := by
  rw [pass.teamSeason?, if_pos rfl]

theorem Pass.seasonKept (pass : Pass db teamSeason season after) :
    after.season? teamSeason.season = some season := by
  rw [season?, pass.refreshed.seasons]
  exact pass.seasonFound

/-- Reading the aggregates back gives the answer of the pass. -/
theorem Pass.tierAggregates (pass : Pass db teamSeason season after) :
    after.tierAggregates teamSeason.id = .ok (db.freshTiers teamSeason.id season) := by
  rw [Auction.tierAggregates, requireTeamSeason, pass.counted, pass.storedAggregates]
  rfl

theorem Pass.inPlace (pass : Pass db teamSeason season after) :
    db.aggregates.map AggregateRow.key <+: after.aggregates.map AggregateRow.key := by
  rw [pass.view, storeView_eq]
  exact Table.map_key_foldl_upsert _ _ _

/-- Where the sums over a roster can be stored, they are stored as they are. -/
theorem Pass.exact (pass : Pass db teamSeason season after) (sound : Sound db)
    (fits : db.RosterFits teamSeason.id) :
    Exact db teamSeason (db.freshTiers teamSeason.id season) after where
  totals := by
    intro stored found
    rw [pass.counted] at found
    cases found
    exact totalsAgree_iff.2 ⟨rfl, fits.1⟩
  counted := by
    intro tier there
    obtain ⟨code, -, rfl⟩ := List.mem_map.1 there
    exact aggregateAgrees_iff.2 ⟨rfl, fits.2 code⟩
  spent := by
    rw [← sum_amountOf_tierRoster sound, freshTiers, List.map_map]
    congr 1
    exact List.map_congr_left fun code _ => Money.cents_ofCents (fits.2 code).1
  players := by
    rw [← sum_length_tierRoster ℤ sound, freshTiers, List.map_map]
    congr 1
    exact List.map_congr_left fun code _ => toInt_eq_count_iff.2 ⟨rfl, (fits.2 code).2⟩

/-- Totals that are wrong, one aggregate that is wrong as well, and two that are missing. -/
def outdated : Auction where
  seasons := [{
    id := .ofNat 1
    limits :=
      { year := 2025, budget := ⟨10000⟩, minAmount := ⟨200⟩, maxPlayers := 5, maxRtm := 5,
        maxFree := 5 } }]
  tiers := ["l2", "u1", "l1"]
  players := [⟨"p", "l1"⟩, ⟨"q", "l2"⟩, ⟨"r", "l1"⟩]
  teamSeasons :=
    [⟨.ofNat 1, "x", .ofNat 1, ⟨⟨700⟩, 3, 0, 9⟩⟩, ⟨.ofNat 2, "y", .ofNat 1, .zero⟩]
  entries :=
    [⟨"px", "p", .ofNat 1, some ⟨300⟩, false, true⟩, ⟨"qx", "q", .ofNat 1, none, true, false⟩,
      ⟨"ry", "r", .ofNat 2, some ⟨50⟩, false, false⟩]
  aggregates :=
    [⟨.ofNat 2, ⟨"u1", ⟨40⟩, 1, none⟩⟩, ⟨.ofNat 1, ⟨"l2", ⟨90⟩, 4, some ⟨800⟩⟩⟩]
  rules := []

theorem computes_outdated (build : Build) : outdated.Computes build (.ofNat 1) :=
  fun _ => (countable_iff_fits (by decide)).2 (by decide)

end AuctionBudget.Auction
