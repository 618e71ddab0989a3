import AuctionBudget.Proofs.Auction.Consistency
import AuctionBudget.Proofs.Auction.Focus

/-! # Operations on different team-seasons

Two operations commute when each stays at its own team-season: in either order each has the same
answer, and the records are the same in the end. Each operation sees its own team-season alone and
leaves the other one as it was, so neither can tell whether it comes first.
-/

namespace AuctionBudget.Auction

variable {build : Build} {db other : Auction} {operation : Operation} {id away : Uuid}

section Focus

variable (sound : Sound db) (own : db.OwnCodes) (distinct : db.DistinctCodes)
variable (stays : operation.StaysAt db id)

include sound own distinct stays

theorem outcome_focus : operation.outcome build (db.focus id) =
    (operation.outcome build db).map fun (answer, after) => (answer, after.focus id) := by
  cases operation with
  | save request =>
      rw [Operation.outcome_save, Operation.outcome_save, saveEntry_focus sound own distinct stays]
      cases db.saveEntry build request <;> rfl
  | remove source =>
      rw [Operation.outcome_remove, Operation.outcome_remove, removeEntry_focus stays sound]
      cases db.removeEntry build source <;> rfl
  | recompute teamSeason =>
      obtain rfl : teamSeason = id := stays.isFor
      rw [Operation.outcome_recompute, Operation.outcome_recompute, recompute_focus]
      cases db.recompute build teamSeason <;> rfl

/-- An operation answers by what its team-season sees. -/
theorem answer_focus : operation.answer build (db.focus id) = operation.answer build db := by
  rw [Operation.answer_eq, Operation.answer_eq, outcome_focus sound own distinct stays]
  cases operation.outcome build db <;> rfl

/-- An operation changes what its team-season sees by what it sees. -/
theorem perform_focus :
    operation.perform build (db.focus id) = (operation.perform build db).focus id := by
  have seen : operation.outcome build (db.focus id) = _ := outcome_focus sound own distinct stays
  cases answered : operation.outcome build db with
  | error e =>
      rw [answered] at seen
      rw [Operation.perform_of_error answered, Operation.perform_of_error seen]
  | ok result =>
      rw [answered] at seen
      rw [Operation.perform_of_ok answered, Operation.perform_of_ok seen]

/-- Another team-season sees nothing of an operation. -/
theorem focus_perform_of_ne (apart : id ≠ away) :
    (operation.perform build db).focus away = db.focus away := by
  cases answered : operation.outcome build db with
  | error e => rw [Operation.perform_of_error answered]
  | ok result =>
      rw [Operation.perform_of_ok answered]
      cases operation with
      | save request =>
          rw [Operation.outcome_save] at answered
          obtain ⟨⟨entry, after⟩, saved, rfl⟩ := map_eq_ok.1 answered
          exact focus_saveEntry_of_ne sound own distinct stays apart saved
      | remove source =>
          rw [Operation.outcome_remove] at answered
          obtain ⟨after, removed, rfl⟩ := map_eq_ok.1 answered
          exact focus_removeEntry_of_ne stays sound apart removed
      | recompute teamSeason =>
          obtain rfl : teamSeason = id := stays.isFor
          rw [Operation.outcome_recompute] at answered
          obtain ⟨⟨tiers, after⟩, recomputed, rfl⟩ := map_eq_ok.1 answered
          exact focus_recompute_of_ne apart recomputed

end Focus

/-- The same records, with every roster and all aggregates of a team-season in one order. Only
    between the rows of different team-seasons may the order differ. -/
structure SameRecords (db other : Auction) : Prop where
  seasons : other.seasons = db.seasons
  tiers : other.tiers = db.tiers
  players : other.players = db.players
  rules : other.rules = db.rules
  teamSeasons : other.teamSeasons = db.teamSeasons
  rosters : ∀ id, other.roster id = db.roster id
  views : ∀ id, other.aggregatesOf id = db.aggregatesOf id
  entries : other.entries.Perm db.entries
  aggregates : other.aggregates.Perm db.aggregates

/-- Rows that are the same under every key are the same. -/
theorem perm_of_filter_eq {Row Key : Type} [DecidableEq Row] [DecidableEq Key] {key : Row → Key}
    {these those : List Row} (same : ∀ k, these.filter (key · = k) = those.filter (key · = k)) :
    these.Perm those := by
  refine List.perm_iff_count.2 fun row => ?_
  have kept (rows : List Row) : (rows.filter (key · = key row)).count row = rows.count row :=
    List.count_filter (by simp)
  rw [← kept these, same, kept]

theorem teamSeasons_eq_of_focus (same : ∀ id, other.focus id = db.focus id) :
    other.teamSeasons = db.teamSeasons := by
  have seen (id : Uuid) : other.teamSeasons.map (TeamSeason.seenFrom id) =
      db.teamSeasons.map (TeamSeason.seenFrom id) := congrArg Auction.teamSeasons (same id)
  have length : other.teamSeasons.length = db.teamSeasons.length := by
    simpa using congrArg List.length (seen (.ofNat 0))
  refine List.ext_getElem length fun i inOther inDb => ?_
  -- Each team-season is seen with its totals from itself.
  have own := List.getElem_of_eq (seen db.teamSeasons[i].id) (by simpa using inOther)
  rw [List.getElem_map, List.getElem_map, TeamSeason.seenFrom_of_eq rfl] at own
  have here : other.teamSeasons[i].id = db.teamSeasons[i].id := by
    rw [← own, TeamSeason.id_seenFrom]
  rwa [TeamSeason.seenFrom_of_eq here] at own

/-- Records are the same when every team-season sees the same. -/
theorem sameRecords_of_focus (same : ∀ id, other.focus id = db.focus id) :
    SameRecords db other where
  seasons := (congrArg Auction.seasons (same (.ofNat 0)) :)
  tiers := (congrArg Auction.tiers (same (.ofNat 0)) :)
  players := (congrArg Auction.players (same (.ofNat 0)) :)
  rules := (congrArg Auction.rules (same (.ofNat 0)) :)
  teamSeasons := teamSeasons_eq_of_focus same
  rosters := fun id => congrArg Auction.entries (same id)
  views := fun id => congrArg (List.map AggregateRow.aggregate ∘ Auction.aggregates) (same id)
  entries := perm_of_filter_eq fun id => congrArg Auction.entries (same id)
  aggregates := perm_of_filter_eq fun id => congrArg Auction.aggregates (same id)

/-- Operations on different team-seasons have the same answers and leave the same records, whichever
    comes first. -/
theorem perform_comm {first second : Operation} {a b : Uuid} (sound : Sound db) (own : db.OwnCodes)
    (distinct : db.DistinctCodes) (apart : a ≠ b) (firstStays : first.StaysAt db a)
    (secondStays : second.StaysAt db b) (build : Build) :
    first.answer build (second.perform build db) = first.answer build db ∧
      second.answer build (first.perform build db) = second.answer build db ∧
      SameRecords (second.perform build (first.perform build db))
        (first.perform build (second.perform build db)) := by
  have soundFirst := sound_perform build sound first
  have soundSecond := sound_perform build sound second
  have ownFirst := ownCodes_perform build sound own first
  have ownSecond := ownCodes_perform build sound own second
  have distinctFirst := distinctCodes_perform build sound distinct first
  have distinctSecond := distinctCodes_perform build sound distinct second
  -- Neither operation shows at the team-season of the other one.
  have unseenFirst : (first.perform build db).focus b = db.focus b :=
    focus_perform_of_ne sound own distinct firstStays apart
  have unseenSecond : (second.perform build db).focus a = db.focus a :=
    focus_perform_of_ne sound own distinct secondStays apart.symm
  have firstLater : first.StaysAt (second.perform build db) a := firstStays.of_focus_eq unseenSecond
  have secondLater : second.StaysAt (first.perform build db) b := secondStays.of_focus_eq unseenFirst
  refine ⟨?_, ?_, sameRecords_of_focus fun id => ?_⟩
  · rw [← answer_focus soundSecond ownSecond distinctSecond firstLater, unseenSecond,
      answer_focus sound own distinct firstStays]
  · rw [← answer_focus soundFirst ownFirst distinctFirst secondLater, unseenFirst,
      answer_focus sound own distinct secondStays]
  · by_cases atFirst : a = id
    · subst atFirst
      rw [← perform_focus soundSecond ownSecond distinctSecond firstLater, unseenSecond,
        perform_focus sound own distinct firstStays,
        focus_perform_of_ne soundFirst ownFirst distinctFirst secondLater apart.symm]
    · rw [focus_perform_of_ne soundSecond ownSecond distinctSecond firstLater atFirst]
      by_cases atSecond : b = id
      · subst atSecond
        rw [← perform_focus soundFirst ownFirst distinctFirst secondLater, unseenFirst,
          perform_focus sound own distinct secondStays]
      · rw [focus_perform_of_ne sound own distinct secondStays atSecond,
          focus_perform_of_ne soundFirst ownFirst distinctFirst secondLater atSecond,
          focus_perform_of_ne sound own distinct firstStays atFirst]

/-- Player `px` takes the place of `p` in `x1`, and is bought in the other team-season as well. -/
theorem perform_comm_besides :
    let swap := Operation.save (repricing "x1")
    let buy := Operation.save { repricing "2" with entry := none }
    Sound (besides "2") ∧ (besides "2").OwnCodes ∧ (besides "2").DistinctCodes ∧
      swap.StaysAt (besides "2") (.ofNat 1) ∧ buy.StaysAt (besides "2") (.ofNat 2) ∧
      swap.answer .checked (buy.perform .checked (besides "2")) =
        swap.answer .checked (besides "2") ∧
      buy.answer .checked (swap.perform .checked (besides "2")) =
        buy.answer .checked (besides "2") ∧
      SameRecords (buy.perform .checked (swap.perform .checked (besides "2")))
        (swap.perform .checked (buy.perform .checked (besides "2"))) := by
  intro swap buy
  have sound := sound_besides (.inr rfl)
  have own := (consistent_besides (.inr rfl)).codes
  have distinct : (besides "2").DistinctCodes := by
    unfold DistinctCodes
    decide
  have swapStays : swap.StaysAt (besides "2") (.ofNat 1) := by
    constructor
    · simp only [Operation.IsFor, swap]
      decide +kernel
    · intro code named
      have same : code = "px1" := by
        have edits : swap.entryNamed? = some "px1" := by decide +kernel
        exact Option.some.inj (named.symm.trans edits)
      subst same
      decide +kernel
  have buyStays : buy.StaysAt (besides "2") (.ofNat 2) := by
    constructor
    · simp only [Operation.IsFor, buy]
      decide +kernel
    · intro code named
      have fresh : buy.entryNamed? = none := rfl
      simp [fresh] at named
  exact ⟨sound, own, distinct, swapStays, buyStays,
    perform_comm sound own distinct (by decide) swapStays buyStays .checked⟩

end AuctionBudget.Auction
