import AuctionBudget.Proofs.Rule.Expansion
import AuctionBudget.Rule.Path

/-! # Putting keys into brackets in a formula

Where no tier is named by shorthand, the tiers that are named with a dot get their key into
brackets, and everything else stays as it is.
-/

namespace AuctionBudget.Rule

open Text

variable {s t w run rest behind key : List Char} {f : Formula}

/-- What stands before the key of a tier that is named with a dot. -/
def keyHead : List Char := tierRoot.toList ++ ['.']

/-- What a tier with a dot becomes. -/
def bracketed (_ key : List Char) : List Char :=
  tierRoot.toList ++ '[' :: key ++ [']', '.']

theorem indexRoot_tierRoot :
    indexRoot s tierRoot = replaceReferences keyHead isKeyChar bracketed [] s := by
  have solid : Solid tierRoot.toList := .of_forall (by decide) (by decide)
  rw [indexRoot, trim_of_solid solid]
  rfl

theorem eq_of_keyAt (word : AllIn isWordChar w) (outside : StartsOutside isWordChar rest)
    (found : referenceAt? keyHead isKeyChar (w ++ rest) = some (run, behind)) :
    w = tierRoot.toList ∧ rest = '.' :: (run ++ '.' :: behind) := by
  obtain ⟨_, _, same⟩ := (referenceAt?_eq_some_iff (by decide)).1 found
  rw [keyHead, List.append_assoc, List.append_assoc] at same
  exact run_unique word isName_tierRoot.word outside (startsOutside_cons.2 (by decide)) same

theorem needsDot_key : NeedsDot keyHead isKeyChar := by
  intro w rest word outside noDot
  rw [Option.eq_none_iff_forall_ne_some]
  rintro ⟨run, behind⟩ found
  obtain ⟨-, rfl⟩ := eq_of_keyAt word outside found
  exact noDot rfl

theorem keyAt_eq_none (word : AllIn isWordChar w) (other : w ≠ tierRoot.toList) :
    referenceAt? keyHead isKeyChar (w ++ '.' :: rest) = none := by
  rw [Option.eq_none_iff_forall_ne_some]
  rintro ⟨run, behind⟩ found
  exact other (eq_of_keyAt word (startsOutside_cons.2 (by decide)) found).1

/-- A dotted tier gets its key into brackets. -/
theorem turns_bracketed (isKey : IsKey key) (field : AllIn isWordChar t) :
    Turns keyHead isKeyChar bracketed (tierRoot.toList ++ '.' :: key ++ '.' :: t)
      ((TierName.indexed [] key).text ++ '.' :: t) := by
  intro before rest looseBefore looseRest
  have found : referenceAt? keyHead isKeyChar (keyHead ++ key ++ '.' :: (t ++ rest)) =
      some (key, t ++ rest) :=
    (referenceAt?_eq_some_iff (by decide)).2 ⟨isKey.nonempty, isKey.alphanumeric, rfl⟩
  have border : isWordBorder before (keyHead ++ key ++ '.' :: (t ++ rest)) = true := by
    rw [isWordBorder, startsWord_of_startsOutside looseBefore.startsOutside_words]
    rfl
  have stays := needsDot_key field looseRest.startsOutside_words looseRest.noDot
  have parts : tierRoot.toList ++ '.' :: key ++ '.' :: t ++ rest =
      keyHead ++ key ++ '.' :: (t ++ rest) := by simp [keyHead]
  rw [parts, replaceReferences_of_some border found, replaceReferences_word field stays]
  simp [bracketed, keyHead, TierName.text]

theorem Operand.indexes (operand : Operand (TierName.Known []) s f) :
    ∃ s', Operand TierName.Bracketed s' f ∧ Turns keyHead isKeyChar bracketed s s' := by
  have start : startsWord keyHead = true := by decide
  cases operand with
  | whole digits => exact ⟨_, .whole digits, Turns.word needsDot_key digits.word⟩
  | @decimal whole fraction isWhole isFraction =>
      have other : whole ≠ tierRoot.toList := by
        rintro rfl
        exact absurd isWhole.digits (by decide)
      exact ⟨_, .decimal isWhole isFraction,
        Turns.dotted start needsDot_key isWhole.word isFraction.word
          (keyAt_eq_none isWhole.word other)⟩
  | @team field =>
      exact ⟨_, .team, Turns.dotted start needsDot_key isName_team.word
        (isName_teamField field.known).word (keyAt_eq_none isName_team.word (by decide))⟩
  | @season field =>
      exact ⟨_, .season, Turns.dotted start needsDot_key isName_season.word
        (isName_seasonField field.known).word (keyAt_eq_none isName_season.word (by decide))⟩
  | @tier _ field known =>
      have word := (isName_tierField field.known).word
      cases known with
      | short member => exact absurd member List.not_mem_nil
      | @dotted key isKey =>
          have quoted : [] ∈ quotings := by decide
          have indexed := @Operand.tier TierName.Bracketed _ field (.indexed isKey quoted)
          exact ⟨_, indexed, turns_bracketed isKey word⟩
      | indexed isKey quoted =>
          exact ⟨_, .tier (.indexed isKey quoted),
            turns_indexed start needsDot_key isKey quoted word⟩

theorem Writes.indexes (writes : Writes (TierName.Known []) .sum s f) :
    ∃ s', Writes TierName.Bracketed .sum s' f ∧ Turns keyHead isKeyChar bracketed s s' :=
  writes.map (joins_turns (by decide)) fun operand => operand.indexes

/-- With the keys in brackets a formula stays what it is. -/
theorem writes_indexPaths {roots : List String} (only : roots = [] ∨ roots = [tierRoot])
    (writes : Writes (TierName.Known []) .sum s f) :
    Writes TierName.Bracketed .sum (indexPaths roots (String.ofList s)).toList f := by
  obtain ⟨s', writes', turns⟩ := writes.indexes
  have indexed : (indexPaths roots (String.ofList s)).toList = s' := by
    rcases only with rfl | rfl <;>
      simp [indexPaths, indexRoot_tierRoot, turns.eq]
  rw [indexed]
  exact writes'

end AuctionBudget.Rule
