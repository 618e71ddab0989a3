import AuctionBudget.Proofs.Auction.Save

/-! # Codes of entries

An entry is told apart by the code of its player and then that of its team-season, and an entry with
its own code keeps it through every operation. Two pairs may share a code. Where no two do, an edit
in place is an edit of an entry of the team-season that was asked for.
-/

namespace AuctionBudget.Auction

variable {build : Build} {db written after : Auction} {request : Assignment} {entry : Entry}
variable {operation : Operation} {ids : List Uuid}

theorem Effect.players (sound : Sound db) (effect : Effect build db operation written ids) :
    written.players = db.players := by
  rw [effect.frame sound]

theorem Effect.teamSeasons (sound : Sound db) (effect : Effect build db operation written ids) :
    written.teamSeasons = db.teamSeasons := by
  rw [effect.frame sound]

/-- A team-season keeps its identity, code and season through passes. -/
theorem Refreshed.exists_teamSeason (pass : Refreshed db ids after) {teamSeason : TeamSeason}
    (member : teamSeason ∈ after.teamSeasons) : ∃ old ∈ db.teamSeasons,
      old.id = teamSeason.id ∧ old.code = teamSeason.code ∧ old.season = teamSeason.season := by
  have same := pass.map_teamSeasons (fun t => (t.id, t.code, t.season)) fun _ _ => rfl
  obtain ⟨old, there, equal⟩ := List.mem_map.1 (same ▸ List.mem_map_of_mem member)
  exact ⟨old, there, by simpa using equal⟩

theorem Refreshed.exists_teamSeason_after (pass : Refreshed db ids after) {teamSeason : TeamSeason}
    (member : teamSeason ∈ db.teamSeasons) : ∃ new ∈ after.teamSeasons,
      new.id = teamSeason.id ∧ new.code = teamSeason.code ∧ new.season = teamSeason.season := by
  have same := pass.map_teamSeasons (fun t => (t.id, t.code, t.season)) fun _ _ => rfl
  obtain ⟨new, there, equal⟩ := List.mem_map.1 (same.symm ▸ List.mem_map_of_mem member)
  exact ⟨new, there, by simpa using equal⟩

/-- The entry has the code of its own player and team-season. -/
def OwnCode (db : Auction) (entry : Entry) : Prop :=
  ∃ teamSeason, db.teamSeason? entry.teamSeason = some teamSeason ∧
    entry.code = entryCode entry.player teamSeason.code

theorem ownCode_iff (sound : Sound db) : db.OwnCode entry ↔
    ∃ teamSeason ∈ db.teamSeasons, teamSeason.id = entry.teamSeason ∧
      entry.code = entryCode entry.player teamSeason.code := by
  simp only [OwnCode, teamSeason?_eq_some_iff sound, and_assoc]

theorem Written.ownCode {target : TeamSeason} {player : String} {edited : Option Entry}
    (write : Written db request (entryCode player target.code) player target.id edited entry
      written) (sound : Sound db) (known : target ∈ db.teamSeasons) (own : db.OwnCodes) :
    db.OwnCode entry := by
  rcases write.owner with ⟨old, rfl, code, samePlayer, sameTeamSeason⟩ | ⟨-, player, teamSeason⟩
  · obtain ⟨teamSeason, found, ownCode⟩ := own old (write.before.mem_iff.2 (by simp))
    refine ⟨teamSeason, by rw [sameTeamSeason, found], ?_⟩
    rw [write.coded, ← code, ownCode, samePlayer]
  · exact (ownCode_iff sound).2 ⟨target, known, teamSeason.symm, by rw [write.coded, player]⟩

theorem Effect.ownCodes (effect : Effect build db operation written ids) (sound : Sound db)
    (own : db.OwnCodes) : ∀ entry ∈ written.entries, db.OwnCode entry := by
  intro entry member
  cases effect with
  | refused | recomputed => exact own entry member
  | saved _ save =>
      have write := save.write sound
      rcases write.mem_entries member with rfl | kept
      · exact write.ownCode sound save.target_mem own
      · exact own entry kept
  | removed => exact own entry (Table.mem_erase.1 member).1

/-- Every operation keeps own codes. -/
theorem ownCodes_perform (build : Build) (sound : Sound db) (own : db.OwnCodes) (operation : Operation) :
    (operation.perform build db).OwnCodes := by
  obtain ⟨written, ids, effect, pass, soundAfter, -⟩ := exists_effect build sound operation
  intro entry member
  rw [pass.entries] at member
  have ownBefore := effect.ownCodes sound own entry member
  obtain ⟨teamSeason, there, id, code⟩ := (ownCode_iff sound).1 ownBefore
  rw [← effect.teamSeasons sound] at there
  obtain ⟨new, newThere, sameId, sameCode, -⟩ := pass.exists_teamSeason_after there
  exact (ownCode_iff soundAfter).2 ⟨new, newThere, sameId.trans id, by rw [sameCode, code]⟩

/-- Every operation keeps codes distinct. -/
theorem distinctCodes_perform (build : Build) (sound : Sound db) (distinct : db.DistinctCodes)
    (operation : Operation) : (operation.perform build db).DistinctCodes := by
  obtain ⟨written, ids, effect, pass, -⟩ := exists_effect build sound operation
  have players : (operation.perform build db).players = db.players :=
    pass.players.trans (effect.players sound)
  have old {teamSeason : TeamSeason} (member : teamSeason ∈ (operation.perform build db).teamSeasons) :
      ∃ old ∈ db.teamSeasons, old.code = teamSeason.code := by
    obtain ⟨old, there, -, code, -⟩ := pass.exists_teamSeason member
    exact ⟨old, effect.teamSeasons sound ▸ there, code⟩
  intro p pIn q qIn s sIn t tIn same
  obtain ⟨s', s'In, sCode⟩ := old sIn
  obtain ⟨t', t'In, tCode⟩ := old tIn
  rw [← sCode, ← tCode] at same ⊢
  exact distinct p (players ▸ pIn) q (players ▸ qIn) s' s'In t' t'In same

/-- Where codes are distinct, the code of an entry tells its player and its team-season. -/
theorem eq_of_entryCode_eq (sound : Sound db) (own : db.OwnCodes) (distinct : db.DistinctCodes)
    {player : String} {target : TeamSeason} (playerKnown : (db.player? player).isSome)
    (known : target ∈ db.teamSeasons) (member : entry ∈ db.entries)
    (same : entry.code = entryCode player target.code) :
    entry.player = player ∧ entry.teamSeason = target.id := by
  obtain ⟨teamSeason, there, id, code⟩ := (ownCode_iff sound).1 (own entry member)
  obtain ⟨p, pIn, pCode⟩ := Table.isSome_find?_iff.1 (sound.entryPlayer entry member)
  obtain ⟨q, qIn, qCode⟩ := Table.isSome_find?_iff.1 playerKnown
  obtain ⟨samePlayer, sameCode⟩ := distinct p pIn q qIn teamSeason there target known
    (by rw [pCode, qCode, ← code, same])
  have sameTeamSeason : teamSeason = target :=
    List.inj_on_of_nodup_map sound.teamSeasonCodes there known sameCode
  exact ⟨by rw [← pCode, samePlayer, qCode], by rw [← id, sameTeamSeason]⟩

end AuctionBudget.Auction
