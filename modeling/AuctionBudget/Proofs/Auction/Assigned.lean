import AuctionBudget.Proofs.Auction.Owner

/-! # Players are assigned once

Nothing compares the player and the team-season of an entry with those of the others: a save looks
for its code alone, and an edit in place does not look at all. Still no player is assigned twice to
one team-season. Every entry has the code of its own pair and codes are taken once, so two entries
of one pair would have one code. Two pairs may share a code all the same; then only one of them has
an entry.
-/

namespace AuctionBudget

/-- The player and the team-season that an entry brings together. -/
def Entry.pair (entry : Entry) : String × Uuid :=
  (entry.player, entry.teamSeason)

namespace Auction

variable {db : Auction} {one other : Entry}

theorem OwnCode.code_eq (own : db.OwnCode one) (ownOther : db.OwnCode other)
    (same : one.pair = other.pair) : one.code = other.code := by
  obtain ⟨player, teamSeason⟩ : one.player = other.player ∧ one.teamSeason = other.teamSeason :=
    Prod.ext_iff.1 same
  obtain ⟨here, found, code⟩ := own
  obtain ⟨there, foundOther, codeOther⟩ := ownOther
  rw [teamSeason, foundOther, Option.some.injEq] at found
  rw [code, codeOther, player, found]

/-- Where codes are own and taken once, so is every pair. -/
theorem nodup_pairs (own : db.OwnCodes) (codes : (db.entries.map Entry.code).Nodup) :
    (db.entries.map Entry.pair).Nodup := by
  refine codes.of_map.map_on fun one member other there same => ?_
  have code : one.code = other.code := OwnCode.code_eq (own one member) (own other there) same
  exact List.inj_on_of_nodup_map codes member there code

theorem ownCodes_runAll (build : Build) (sound : Sound db) (own : db.OwnCodes)
    (operations : List Operation) : (db.runAll build operations).OwnCodes := by
  refine (runAll_invariant (motive := fun db => Sound db ∧ db.OwnCodes) ?_ ⟨sound, own⟩
    operations).2
  rintro db operation ⟨sound, own⟩
  exact ⟨sound_perform build sound operation, ownCodes_perform build sound own operation⟩

/-- After every history the entries have the codes of their own pairs, no two share a code, and no
    player is assigned twice to one team-season. -/
theorem assignedOnce_runAll (sound : Sound db) (own : db.OwnCodes) (build : Build)
    (operations : List Operation) :
    (db.runAll build operations).OwnCodes ∧
      ((db.runAll build operations).entries.map Entry.code).Nodup ∧
      ((db.runAll build operations).entries.map Entry.pair).Nodup := by
  have codes := (sound_runAll build sound operations).entryCodes
  have ownAfter := ownCodes_runAll build sound own operations
  exact ⟨ownAfter, codes, nodup_pairs ownAfter codes⟩

/-- Saves around the code `px1`, which `p` in `x1` and `px` in `1` share: an edit in place, a
    request that is refused, a move of the entry to `px` in `x1`, and then the request again. -/
def aroundSharedCode : List Operation :=
  [.save (repricing "1"), .save (firstPrice "1"), .save (repricing "x1"), .save (firstPrice "1")]

theorem assignedOnce_aroundSharedCode : Sound (besides "1") ∧ (besides "1").OwnCodes ∧
    ((besides "1").runAll .release aroundSharedCode).OwnCodes ∧
    (((besides "1").runAll .release aroundSharedCode).entries.map Entry.code).Nodup ∧
    (((besides "1").runAll .release aroundSharedCode).entries.map Entry.pair).Nodup ∧
    ((besides "1").runAll .release aroundSharedCode).entries.map (fun entry => (entry.code, entry.pair)) =
      [("pxx1", "px", .ofNat 1), ("px1", "px", .ofNat 2)] := by
  have sound := sound_besides (.inl rfl)
  have own := (consistent_besides (.inl rfl)).codes
  obtain ⟨ownAfter, codes, pairs⟩ := assignedOnce_runAll sound own .release aroundSharedCode
  exact ⟨sound, own, ownAfter, codes, pairs, by decide +kernel⟩

end Auction
end AuctionBudget
