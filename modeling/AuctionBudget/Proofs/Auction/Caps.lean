import AuctionBudget.Proofs.Auction.Consistency

/-! # Caps over a history

A save is checked against the stored totals, of which the entry that it replaces is a part. Where
the totals say what the rosters say, and every code belongs to one pair, no operation takes a roster
beyond the caps of its season.
-/

namespace AuctionBudget.Auction

variable {build : Build} {db written after : Auction} {request : Assignment} {entry : Entry}
variable {operation : Operation} {ids : List Uuid} {id : Uuid} {limits : SeasonLimits}

/-- The entries of a roster keep the caps. -/
structure Keeps (limits : SeasonLimits) (roster : List Entry) : Prop where
  players : (roster.length : Int) ≤ limits.maxPlayers.toInt
  rtm : (roster.countP (·.rtm) : Int) ≤ limits.maxRtm.toInt
  free : (roster.countP (·.free) : Int) ≤ limits.maxFree.toInt

theorem withinCaps_iff : db.WithinCaps ↔ ∀ teamSeason ∈ db.teamSeasons, ∀ season,
    db.season? teamSeason.season = some season → Keeps season.limits (db.roster teamSeason.id) := by
  constructor
  · intro within teamSeason member season found
    obtain ⟨players, rtm, free⟩ := within teamSeason member season found
    exact ⟨players, rtm, free⟩
  · intro within teamSeason member season found
    obtain ⟨players, rtm, free⟩ := within teamSeason member season found
    exact ⟨players, rtm, free⟩

theorem Keeps.subperm {these those : List Entry} (keeps : Keeps limits those)
    (fewer : these.Subperm those) : Keeps limits these where
  players := by
    have := fewer.length_le
    have := keeps.players
    omega
  rtm := by
    have := fewer.countP_le (·.rtm)
    have := keeps.rtm
    omega
  free := by
    have := fewer.countP_le (·.free)
    have := keeps.free
    omega

theorem belowCap_eq_ok {limit : String} {current max : Int32} :
    belowCap limit current max = .ok () ↔ current < max := by
  unfold belowCap
  by_cases reached : max ≤ current
  · simp [reached, Int32.not_lt.2 reached]
  · simp [reached, Int32.not_le.1 reached]

/-- What an accepted check says of the totals. -/
structure Room (limits : SeasonLimits) (totals : TeamTotals) (request : Assignment)
    (replaced : Option Entry) : Prop where
  rtm : request.rtm = true → replaced.any (·.rtm) = false → totals.rtm < limits.maxRtm
  free : request.free = true → replaced.any (·.free) = false → totals.free < limits.maxFree
  players : replaced = none → totals.players < limits.maxPlayers

theorem checkCaps_eq_ok {totals : TeamTotals} {replaced : Option Entry} :
    checkCaps limits totals request replaced = .ok () ↔ Room limits totals request replaced := by
  have steps : checkCaps limits totals request replaced =
      (if request.rtm && !replaced.any (·.rtm) then belowCap "RTM" totals.rtm limits.maxRtm
        else .ok ()) >>= fun _ =>
      (if request.free && !replaced.any (·.free) then belowCap "free" totals.free limits.maxFree
        else .ok ()) >>= fun _ =>
      if replaced.isNone then belowCap "players" totals.players limits.maxPlayers else .ok () := by
    unfold checkCaps
    split <;> split <;> split <;> rfl
  constructor
  · intro passed
    obtain ⟨⟨⟩, rtm, passed⟩ := bind_eq_ok.1 (steps ▸ passed)
    obtain ⟨⟨⟩, free, players⟩ := bind_eq_ok.1 passed
    constructor
    · intro asked spare
      rw [if_pos (by simp [asked, spare])] at rtm
      exact belowCap_eq_ok.1 rtm
    · intro asked spare
      rw [if_pos (by simp [asked, spare])] at free
      exact belowCap_eq_ok.1 free
    · rintro rfl
      exact belowCap_eq_ok.1 players
  · intro room
    rw [steps]
    refine bind_eq_ok.2 ⟨(), ?_, bind_eq_ok.2 ⟨(), ?_, ?_⟩⟩
    · split
      · next asked =>
          simp only [Bool.and_eq_true, Bool.not_eq_true'] at asked
          exact belowCap_eq_ok.2 (room.rtm asked.1 asked.2)
      · rfl
    · split
      · next asked =>
          simp only [Bool.and_eq_true, Bool.not_eq_true'] at asked
          exact belowCap_eq_ok.2 (room.free asked.1 asked.2)
      · rfl
    · split
      · next fresh => exact belowCap_eq_ok.2 (room.players (Option.isNone_iff_eq_none.1 fresh))
      · rfl

/-- An entry in the place of another stays within a cap that it was checked against. -/
theorem countP_cons_le {flag : Entry → Bool} {replaced : Option Entry} {rest : List Entry}
    {max : Int}
    (before : ((replaced.toList ++ rest).countP flag : Int) ≤ max)
    (room : flag entry = true → replaced.any flag = false →
      ((replaced.toList ++ rest).countP flag : Int) < max) :
    ((entry :: rest).countP flag : Int) ≤ max := by
  rw [List.countP_append] at before room
  rw [List.countP_cons]
  cases asked : flag entry with
  | false =>
      simp only [Bool.false_eq_true, if_false]
      omega
  | true =>
      cases spare : replaced.any flag with
      | false =>
          have := room asked spare
          simp only [if_true]
          omega
      | true =>
          obtain ⟨old, rfl, flagged⟩ := (Option.any_eq_true _ _).1 spare
          simp only [Option.toList_some, List.countP_singleton, flagged, if_true] at before ⊢
          omega

/-- A count under a cap is stored as it is. -/
theorem lt_cap_iff {count : Nat} {max : Int32} (under : (count : Int) ≤ max.toInt) :
    Int32.ofNat count < max ↔ (count : Int) < max.toInt := by
  have bound := max.toInt_lt
  rw [Int32.lt_iff_toInt_lt, Int32.toInt_ofNat_of_lt (by omega)]

theorem Room.keeps {replaced : Option Entry} {rest : List Entry}
    (room : Room limits (tally (replaced.toList ++ rest)) request replaced)
    (before : Keeps limits (replaced.toList ++ rest)) (same : entry.weight = request.weight) :
    Keeps limits (entry :: rest) where
  players := by
    have count := before.players
    cases replaced with
    | none =>
        have spare := (lt_cap_iff count).1 (room.players rfl)
        simp only [Option.toList_none, List.nil_append, List.length_cons] at spare ⊢
        omega
    | some old =>
        simp only [Option.toList_some, List.singleton_append, List.length_cons] at count ⊢
        exact count
  rtm := by
    have asked : entry.rtm = request.rtm := congrArg (fun weight => weight.2.2) same
    exact countP_cons_le before.rtm fun flag spare =>
      (lt_cap_iff before.rtm).1 (room.rtm (asked ▸ flag) spare)
  free := by
    have asked : entry.free = request.free := congrArg (fun weight => weight.2.1) same
    exact countP_cons_le before.free fun flag spare =>
      (lt_cap_iff before.free).1 (room.free (asked ▸ flag) spare)

section Save

variable (save : Accepted db request entry written) (sound : Sound db) (own : db.OwnCodes)
variable (distinct : db.DistinctCodes)

include sound own distinct

/-- Where codes are distinct, an entry that is edited in place belongs to the target. -/
theorem Accepted.edited_teamSeason {old : Entry} (same : save.edited = some old)
    (stays : old.code = request.codeIn save.target) : old.teamSeason = save.target.id :=
  (eq_of_entryCode_eq sound own distinct save.playerFound save.target_mem
    (save.edited_mem old same) stays).2

theorem Accepted.entry_teamSeason : entry.teamSeason = save.target.id := by
  rcases (save.write sound).owner with ⟨old, same, code, -, stays⟩ | ⟨-, -, here⟩
  · rw [stays, save.edited_teamSeason sound own distinct same code]
  · exact here

theorem Accepted.roster_of_not_touched
    (outside : id ∉ touched (request.codeIn save.target) save.target.id save.edited) :
    (written.roster id).Perm (db.roster id) := by
  have target : save.target.id ≠ id := fun here => outside (mem_touched.2 (.inl here.symm))
  refine (save.write sound).roster_of_ne ?_ ?_
  · rwa [save.entry_teamSeason sound own distinct]
  · intro old same here
    by_cases stays : old.code = request.codeIn save.target
    · exact target ((save.edited_teamSeason sound own distinct same stays).symm.trans here)
    · exact outside (mem_touched.2 (.inr ⟨old, same, stays, here⟩))

/-- The target's roster gets the entry in the place of the one that it replaces. -/
theorem Accepted.roster_target : ∃ rest,
    (db.roster save.target.id).Perm
      ((save.edited.filter (·.teamSeason = save.target.id)).toList ++ rest) ∧
    (written.roster save.target.id).Perm (entry :: rest) := by
  have write := save.write sound
  refine ⟨(db.others save.edited).filter (·.teamSeason = save.target.id), ?_, ?_⟩
  · have before := write.roster_before save.target.id
    rw [List.filter_append] at before
    cases same : save.edited with
    | none => simpa [same] using before
    | some old =>
        by_cases here : old.teamSeason = save.target.id
        · simpa [same, here, Option.filter] using before
        · simpa [same, here, Option.filter] using before
  · have after := write.roster save.target.id
    rwa [List.filter_cons_of_pos
      (by simpa using save.entry_teamSeason sound own distinct)] at after

/-- The rosters of other team-seasons do not grow. -/
theorem Accepted.roster_subperm (away : save.target.id ≠ id) :
    (written.roster id).Subperm (db.roster id) := by
  have write := save.write sound
  have after := write.roster id
  rw [List.filter_cons_of_neg
    (by simpa [save.entry_teamSeason sound own distinct] using away)] at after
  have fewer : ((db.others save.edited).filter (·.teamSeason = id)).Sublist
      ((save.edited.toList ++ db.others save.edited).filter (·.teamSeason = id)) :=
    (List.sublist_append_right _ _).filter _
  exact after.subperm.trans (fewer.subperm.trans (write.roster_before id).symm.subperm)

/-- An accepted save keeps the caps of the target. -/
theorem Accepted.keeps_target (counts : db.CountsRoster save.target.id)
    (keeps : Keeps save.season.limits (db.roster save.target.id)) :
    Keeps save.season.limits (written.roster save.target.id) := by
  obtain ⟨rest, before, after⟩ := save.roster_target sound own distinct
  have room := checkCaps_eq_ok.1 save.caps
  rw [counts save.target save.target_mem rfl, tally_congr (before.map _)] at room
  exact (room.keeps (keeps.subperm before.symm.subperm) (save.write sound).weight).subperm
    after.subperm

end Save

/-- Records in which every team-season keeps its caps and will keep them. -/
structure Capped (db : Auction) : Prop where
  sound : Sound db
  own : db.OwnCodes
  distinct : db.DistinctCodes
  counts : ∀ id, db.CountsRoster id
  within : db.WithinCaps

/-- Views that an operation does not pass over still count their rosters. -/
theorem Effect.countsRoster (effect : Effect build db operation written ids) (capped : Capped db)
    (outside : id ∉ ids) : written.CountsRoster id := by
  refine (countsRoster_congr (effect.frame capped.sound) (.of_perm ?_)).2 (capped.counts id)
  cases effect with
  | refused | recomputed => exact .refl _
  | saved _ save => exact save.roster_of_not_touched capped.sound capped.own capped.distinct outside
  | @removed source old member =>
      have away : old.teamSeason ≠ id := fun here => outside (List.mem_singleton.2 here.symm)
      exact roster_without_of_ne capped.sound member away

theorem Effect.keeps (effect : Effect build db operation written ids) (capped : Capped db)
    {teamSeason : TeamSeason} {season : Season} (member : teamSeason ∈ db.teamSeasons)
    (found : db.season? teamSeason.season = some season) :
    Keeps season.limits (written.roster teamSeason.id) := by
  obtain ⟨sound, own, distinct, counts, within⟩ := capped
  have keeps := withinCaps_iff.1 within teamSeason member season found
  cases effect with
  | refused | recomputed => exact keeps
  | saved _ save =>
      by_cases here : save.target.id = teamSeason.id
      · have same : save.target = teamSeason :=
          List.inj_on_of_nodup_map sound.teamSeasonIds save.target_mem member here
        subst same
        obtain rfl : save.season = season := by
          have := save.seasonFound.symm.trans found
          injection this
        exact save.keeps_target sound own distinct (counts _) keeps
      · exact keeps.subperm (save.roster_subperm sound own distinct here)
  | @removed source old =>
      exact keeps.subperm (roster_without_sublist db old teamSeason.id).subperm

theorem capped_perform (build : Build) (capped : Capped db) (operation : Operation) :
    Capped (operation.perform build db) := by
  obtain ⟨written, ids, effect, pass, soundAfter, -⟩ := exists_effect build capped.sound operation
  refine {
    sound := soundAfter
    own := ownCodes_perform build capped.sound capped.own operation
    distinct := distinctCodes_perform build capped.sound capped.distinct operation
    counts := fun id => ?_
    within := withinCaps_iff.2 fun teamSeason member season found => ?_ }
  · by_cases inside : id ∈ ids
    · exact pass.countsRoster inside
    · exact (pass.countsRoster_iff inside).2 (effect.countsRoster capped inside)
  · obtain ⟨old, there, sameId, -, sameSeason⟩ := pass.exists_teamSeason member
    rw [effect.teamSeasons capped.sound] at there
    have foundBefore : db.season? old.season = some season := by
      rw [sameSeason, ← found, season?, season?, pass.seasons, effect.frame capped.sound]
    rw [pass.roster, ← sameId]
    exact effect.keeps capped there foundBefore

/-- No history takes a team-season beyond the caps of its season. -/
theorem withinCaps_runAll (sound : Sound db) (distinct : db.DistinctCodes) (own : db.OwnCodes)
    (totals : ∀ teamSeason ∈ db.teamSeasons, db.TotalsAgree teamSeason) (within : db.WithinCaps)
    (build : Build) (operations : List Operation) : (db.runAll build operations).WithinCaps := by
  have start : Capped db := {
    sound, own, distinct, within
    counts := countsRoster_of_totalsAgree totals }
  have capped : Capped (db.runAll build operations) := by
    induction operations using List.reverseRecOn with
    | nil => exact start
    | append_singleton before operation ih =>
        rw [runAll_append]
        exact capped_perform build ih operation
  exact capped.within

/-- The team-seasons of `besides "2"` where one player may be bought, none of them free. -/
def besidesFull : Auction :=
  { besides "2" with
    seasons := [{
      id := .ofNat 1
      limits :=
        { year := 2025, budget := ⟨10000⟩, minAmount := ⟨200⟩, maxPlayers := 1, maxRtm := 1,
          maxFree := 0 } }] }

theorem sound_besidesFull : Sound besidesFull := by
  constructor <;> decide

theorem ownCodes_besidesFull : besidesFull.OwnCodes := by
  have own : ∀ entry ∈ besidesFull.entries, ∃ teamSeason ∈ besidesFull.teamSeasons,
      teamSeason.id = entry.teamSeason ∧ entry.code = entryCode entry.player teamSeason.code := by
    decide
  exact fun entry member => (ownCode_iff sound_besidesFull).2 (own entry member)

theorem withinCaps_besidesFull : besidesFull.WithinCaps := by
  have within : ∀ season ∈ besidesFull.seasons, ∀ teamSeason ∈ besidesFull.teamSeasons,
      let roster := besidesFull.roster teamSeason.id
      (roster.length : Int) ≤ season.limits.maxPlayers.toInt ∧
        (roster.countP (·.rtm) : Int) ≤ season.limits.maxRtm.toInt ∧
        (roster.countP (·.free) : Int) ≤ season.limits.maxFree.toInt := by
    simp only
    decide
  intro teamSeason member season found
  exact within season (Table.mem_of_find?_eq_some found).1 teamSeason member

/-- A swap on the full roster, a player too many, and the move of the first to the other team. -/
theorem withinCaps_swap_on_full : Sound besidesFull ∧ besidesFull.DistinctCodes ∧
    besidesFull.OwnCodes ∧
    (∀ teamSeason ∈ besidesFull.teamSeasons, besidesFull.TotalsAgree teamSeason) ∧
    besidesFull.WithinCaps ∧
    (besidesFull.runAll .release [.save { repricing "x1" with rtm := true },
      .save { repricing "x1" with player := "p", entry := none },
      .save { repricing "2" with entry := some "pxx1" }]).WithinCaps := by
  have distinct : besidesFull.DistinctCodes := by
    unfold DistinctCodes
    decide
  have totals : ∀ teamSeason ∈ besidesFull.teamSeasons, besidesFull.TotalsAgree teamSeason := by
    decide
  exact ⟨sound_besidesFull, distinct, ownCodes_besidesFull, totals, withinCaps_besidesFull,
    withinCaps_runAll sound_besidesFull distinct ownCodes_besidesFull totals
      withinCaps_besidesFull .release _⟩

end AuctionBudget.Auction
