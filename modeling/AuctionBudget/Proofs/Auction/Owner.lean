import AuctionBudget.Proofs.Auction.Outcome

/-! # Whose entry a save returns

A save knows entries by their codes alone, and an entry of another player or team-season may have
the code that the request asks for. An edit of such an entry leaves it with its own player and
team-season, and a fresh request is refused on its account. Without such an entry a save returns
an entry of the player and the team-season that were asked for, and a fresh request is refused just
when the player is there already.
-/

namespace AuctionBudget.Auction

variable {build : Build} {db after : Auction} {request : Assignment} {entry old : Entry}
variable {target : TeamSeason} {season : Season}

/-- The entry belongs to the player and the team-season of the request. -/
def Assignment.Owns (request : Assignment) (target : TeamSeason) (entry : Entry) : Prop :=
  entry.player = Text.trimmed request.player ∧ entry.teamSeason = target.id

/-- An entry that has the code of the request and yet belongs to another player or team-season. -/
structure Foreign (db : Auction) (request : Assignment) (target : TeamSeason) (old : Entry) :
    Prop where
  there : old ∈ db.entries
  sameCode : old.code = request.codeIn target
  notOwned : ¬ request.Owns target old

/-- Where codes are distinct, no entry is foreign. -/
theorem not_foreign (sound : Sound db) (own : db.OwnCodes) (distinct : db.DistinctCodes)
    (isFor : request.For db target season)
    (player : ∃ player ∈ db.players, player.code = Text.trimmed request.player) :
    ¬ Foreign db request target old := fun foreign =>
  foreign.notOwned (eq_of_entryCode_eq sound own distinct (Table.isSome_find?_iff.2 player)
    isFor.known foreign.there foreign.sameCode)

/-- The entry of a player in a team-season has their code. -/
theorem code_of_owns (sound : Sound db) (own : db.OwnCodes) (isFor : request.For db target season)
    (member : old ∈ db.entries) (owns : request.Owns target old) :
    old.code = request.codeIn target := by
  obtain ⟨player, here⟩ := owns
  obtain ⟨teamSeason, found, code⟩ := own old member
  have same : teamSeason = target := by
    obtain ⟨there, id⟩ := (teamSeason?_eq_some_iff sound).1 found
    exact List.inj_on_of_nodup_map sound.teamSeasonIds there isFor.known (id.trans here)
  rw [code, same, player, Assignment.codeIn]

/-- A saved entry is the requested player's unless a foreign entry was edited. -/
theorem Saved.owns_iff (saved : Saved db request target entry after) (sound : Sound db) :
    request.Owns target entry ↔
      ¬ ∃ old, request.editedCode? = some old.code ∧ Foreign db request target old := by
  by_cases stays : request.editedCode? = some (request.codeIn target)
  · obtain ⟨old, found, player, teamSeason⟩ := saved.inPlace stays
    have same : request.Owns target entry ↔ request.Owns target old := by
      rw [Assignment.Owns, Assignment.Owns, player, teamSeason]
    obtain ⟨member, code⟩ := (Table.find?_eq_some_iff sound.entryCodes).1 found
    rw [same]
    constructor
    · rintro owns ⟨other, edits, foreign⟩
      have sameEntry : other = old := List.inj_on_of_nodup_map sound.entryCodes foreign.there
        member (foreign.sameCode.trans code.symm)
      exact foreign.notOwned (sameEntry ▸ owns)
    · intro regular
      by_contra notOwned
      exact regular ⟨old, by rw [stays, code], member, code, notOwned⟩
  · refine iff_of_true (saved.inserted stays) ?_
    rintro ⟨old, edits, foreign⟩
    exact stays (edits.trans (congrArg some foreign.sameCode))

/-- A fresh request is refused for its code just when an entry has that code. -/
theorem existingKey_iff (sound : Sound db) (isFor : request.For db target season)
    (fresh : request.editedCode? = none)
    (admissible : Admissible db request target season.limits) :
    (∃ key, db.saveEntry build request = .error (.existingKey key)) ↔
      ∃ old ∈ db.entries, old.code = request.codeIn target := by
  have available : Available db request (request.codeIn target) ↔
      ¬ ∃ old ∈ db.entries, old.code = request.codeIn target := by
    simp [Available, fresh]
  constructor
  · rintro ⟨key, refused⟩
    by_contra free
    -- With a free code the save is accepted, or refused for another reason.
    by_cases countable : build = .checked → CountableAfter db request target
    · obtain ⟨entry, after, answered⟩ :=
        exists_saveEntry sound isFor admissible (available.2 free) countable
      cases refused.symm.trans answered
    · cases refused.symm.trans
        (saveEntry_of_not_countable sound isFor admissible (available.2 free) countable)
  · intro taken
    exact ⟨_, saveEntry_of_not_available build sound isFor admissible
      fun free => available.1 free taken⟩

/-- An accepted save returns an entry of the requested player and team-season just when it edits no
    foreign entry. A fresh request that is admissible is refused for its code just when the player
    has an entry in the team-season or a foreign entry has the code. Where codes are distinct, no
    entry is foreign. -/
theorem saveEntry_owner_iff (sound : Sound db) (own : db.OwnCodes)
    (isFor : request.For db target season) (build : Build) :
    (∀ entry after, db.saveEntry build request = .ok (entry, after) →
      (request.Owns target entry ↔
        ¬ ∃ old, request.editedCode? = some old.code ∧ Foreign db request target old)) ∧
    (request.editedCode? = none → Admissible db request target season.limits →
      ((∃ key, db.saveEntry build request = .error (.existingKey key)) ↔
        (∃ old ∈ db.entries, request.Owns target old) ∨ ∃ old, Foreign db request target old)) ∧
    (db.DistinctCodes → (∃ player ∈ db.players, player.code = Text.trimmed request.player) →
      ∀ old, ¬ Foreign db request target old) := by
  refine ⟨?_, ?_, fun distinct player old => not_foreign sound own distinct isFor player⟩
  · intro entry after answered
    obtain ⟨_, _, isForToo, saved⟩ := saved_of_saveEntry sound answered
    obtain ⟨rfl, rfl⟩ := isForToo.unique sound isFor
    exact saved.owns_iff sound
  · intro fresh admissible
    rw [existingKey_iff sound isFor fresh admissible]
    constructor
    · rintro ⟨old, member, code⟩
      by_cases owns : request.Owns target old
      · exact .inl ⟨old, member, owns⟩
      · exact .inr ⟨old, member, code, owns⟩
    · rintro (⟨old, member, owns⟩ | ⟨old, foreign⟩)
      · exact ⟨old, member, code_of_owns sound own isFor member owns⟩
      · exact ⟨old, foreign.there, foreign.sameCode⟩

/-- The second team-season of `besides`. -/
def secondOf (code : String) : TeamSeason :=
  ⟨.ofNat 2, code, .ofNat 1, .zero⟩

/-- The season of `besides`. -/
def onlySeason : Season where
  id := .ofNat 1
  limits :=
    { year := 2025, budget := ⟨10000⟩, minAmount := ⟨200⟩, maxPlayers := 5, maxRtm := 5,
      maxFree := 5 }

/-- A first price for `px` in a team-season. -/
def firstPrice (teamSeason : String) : Assignment :=
  { repricing teamSeason with entry := none }

theorem repricing_for {code : String} (either : code = "1" ∨ code = "2") :
    (repricing code).For (besides code) (secondOf code) onlySeason := by
  rcases either with rfl | rfl <;> constructor <;> decide +kernel

theorem admissible_firstPrice {code : String} (either : code = "1" ∨ code = "2") :
    Admissible (besides code) (firstPrice code) (secondOf code) onlySeason.limits where
  teamSeasonNamed := by rcases either with rfl | rfl <;> decide +kernel
  playerNamed := by
    change Text.trimmed "px" ≠ ""
    decide +kernel
  player := ⟨⟨"px", "t"⟩, by simp [besides], by
    change "px" = Text.trimmed "px"
    decide +kernel⟩
  entry := by
    rintro _ ⟨⟩
  rtm := by
    rintro ⟨⟩
  free := by
    rintro ⟨⟩
  players := .inr (by
    change (0 : Int32) < 5
    decide)

/-- `px` in `1` has the code of `p` in `x1`: the edit leaves the entry with `p` in `x1`, and a first
    price for `px` is refused although `px` has no entry at all. -/
theorem not_owns_repricing : Sound (besides "1") ∧ (besides "1").OwnCodes ∧
    (repricing "1").For (besides "1") (secondOf "1") onlySeason ∧
    (∃ entry after, (besides "1").saveEntry .release (repricing "1") = .ok (entry, after) ∧
      ¬ (repricing "1").Owns (secondOf "1") entry) ∧
    Admissible (besides "1") (firstPrice "1") (secondOf "1") onlySeason.limits ∧
    (besides "1").saveEntry .release (firstPrice "1") = .error (.existingKey "px1") ∧
    ∀ old ∈ (besides "1").entries, ¬ (firstPrice "1").Owns (secondOf "1") old := by
  have sound := sound_besides (.inl rfl)
  have own := (consistent_besides (.inl rfl)).codes
  have isFor := repricing_for (.inl rfl)
  have admissible := admissible_firstPrice (.inl rfl)
  have elsewhere : ∀ old ∈ (besides "1").entries, old.teamSeason ≠ (secondOf "1").id := by decide
  have saved : ((besides "1").saveEntry .release (repricing "1")).toOption.map (·.1.teamSeason) =
      some (.ofNat 1) := by decide +kernel
  obtain ⟨⟨entry, after⟩, answered, here⟩ := Option.map_eq_some_iff.1 saved
  have taken : ¬ Available (besides "1") (firstPrice "1")
      ((firstPrice "1").codeIn (secondOf "1")) := by
    rintro (⟨⟨⟩⟩ | free)
    exact free ⟨"px1", "p", .ofNat 1, some ⟨100⟩, false, false⟩ (by simp [besides])
      (by decide +kernel)
  have freshFor : (firstPrice "1").For (besides "1") (secondOf "1") onlySeason :=
    ⟨isFor.known, isFor.named, isFor.seasonKnown, isFor.seasonNamed⟩
  have refused := saveEntry_of_not_available .release sound freshFor admissible taken
  have code : (firstPrice "1").codeIn (secondOf "1") = "px1" := by decide +kernel
  rw [code] at refused
  refine ⟨sound, own, isFor, ⟨entry, after, toOption_eq_some_iff.1 answered, fun owns => ?_⟩,
    admissible, refused, fun old member owns => elsewhere old member owns.2⟩
  have target : entry.teamSeason = (secondOf "1").id := owns.2
  rw [here] at target
  exact absurd target (by decide)

/-- Without the shared code the edit gives `px` in `2` an entry, and takes that of `p` away. -/
theorem owns_repricing : Sound (besides "2") ∧ (besides "2").OwnCodes ∧
    (repricing "2").For (besides "2") (secondOf "2") onlySeason ∧
    ∃ entry after, (besides "2").saveEntry .checked (repricing "2") = .ok (entry, after) ∧
      (repricing "2").Owns (secondOf "2") entry := by
  have sound := sound_besides (.inr rfl)
  have own := (consistent_besides (.inr rfl)).codes
  have isFor := repricing_for (.inr rfl)
  have distinct : (besides "2").DistinctCodes := by
    unfold DistinctCodes
    decide
  have accepted : ((besides "2").saveEntry .checked (repricing "2")).toOption.isSome = true := by
    decide +kernel
  obtain ⟨⟨entry, after⟩, answered⟩ := Option.isSome_iff_exists.1 accepted
  obtain ⟨owner, -, none⟩ := saveEntry_owner_iff sound own isFor .checked
  have player := (admissible_firstPrice (.inr rfl)).player
  refine ⟨sound, own, isFor, entry, after, toOption_eq_some_iff.1 answered, ?_⟩
  exact (owner entry after (toOption_eq_some_iff.1 answered)).2 fun ⟨old, _, foreign⟩ =>
    none distinct player old foreign

end AuctionBudget.Auction
