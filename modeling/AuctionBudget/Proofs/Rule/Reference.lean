import AuctionBudget.Proofs.Text.Border
import AuctionBudget.Rule.Reference

/-! # Where references are replaced

A replacement goes through a text word by word. It can only take something at the start of a word,
and everything else stays as it is. So what becomes of a part of a text is known from the part
alone, if it stands between separators, and the parts can be replaced one by one.
-/

namespace AuctionBudget.Rule

open Text

variable {head : List Char} {inRun : Char → Bool}
  {replacement : List Char → List Char → List Char}
  {before s s' t t' w run rest behind : List Char} {c : Char}

/-- A reference is the head, a run of characters of the class, and a dot. -/
theorem referenceAt?_eq_some_iff (dot : inRun '.' = false) :
    referenceAt? head inRun s = some (run, behind) ↔
      run ≠ [] ∧ AllIn inRun run ∧ s = head ++ run ++ '.' :: behind := by
  have outside : StartsOutside inRun ('.' :: behind) := startsOutside_cons.2 dot
  constructor
  · intro found
    unfold referenceAt? at found
    split at found
    · simp at found
    · next rest starts =>
        split at found
        · next first run' behind' taken dropped =>
            simp only [Option.some.injEq, Prod.mk.injEq] at found
            obtain ⟨rfl, rfl⟩ := found
            refine ⟨by simp, ?_, ?_⟩
            · rw [← taken]
              exact List.all_eq_true.1 List.all_takeWhile
            · rw [after?_eq_some_iff.1 starts, List.append_assoc, ← taken, ← dropped,
                List.takeWhile_append_dropWhile]
        · simp at found
  · rintro ⟨nonempty, inside, rfl⟩
    have starts : after? head (head ++ run ++ '.' :: behind) = some (run ++ '.' :: behind) := by
      rw [after?_eq_some_iff, List.append_assoc]
    rw [referenceAt?, starts]
    simp only [takeWhile_run inside outside, dropWhile_run inside outside]
    cases run with
    | nil => exact absurd rfl nonempty
    | cons first run => rfl

@[simp] theorem replaceReferences_nil :
    replaceReferences head inRun replacement before [] = [] := by
  rw [replaceReferences]

theorem replaceReferences_of_none (none : referenceAt? head inRun (c :: rest) = none) :
    replaceReferences head inRun replacement before (c :: rest) =
      c :: replaceReferences head inRun replacement (c :: before) rest := by
  rw [replaceReferences]
  split
  · split
    · next run behind found => simp [none] at found
    · rfl
  · rfl

theorem replaceReferences_of_inside (inside : isWordBorder before (c :: rest) = false) :
    replaceReferences head inRun replacement before (c :: rest) =
      c :: replaceReferences head inRun replacement (c :: before) rest := by
  rw [replaceReferences, inside]
  simp

/-- A reference at the border of a word is replaced. -/
theorem replaceReferences_of_some (border : isWordBorder before s = true)
    (found : referenceAt? head inRun s = some (run, behind)) :
    replaceReferences head inRun replacement before s =
      replacement before run ++ replaceReferences head inRun replacement
        ((head ++ run ++ ['.']).reverse ++ before) behind := by
  cases s with
  | nil => exact absurd (length_lt_of_referenceAt?_eq_some found) (by simp)
  | cons c rest =>
      rw [replaceReferences, if_pos border]
      split
      · next run' behind' found' =>
          rw [found] at found'
          simp only [Option.some.injEq, Prod.mk.injEq] at found'
          obtain ⟨rfl, rfl⟩ := found'
          rfl
      · next none => simp [found] at none

/-- Inside of a word nothing is taken. -/
theorem replaceReferences_inWord (started : startsWord before = true) (word : AllIn isWordChar w) :
    replaceReferences head inRun replacement before (w ++ rest) =
      w ++ replaceReferences head inRun replacement (w.reverse ++ before) rest := by
  induction w generalizing before with
  | nil => rfl
  | cons c w ih =>
      have char : isWordChar c = true := word c List.mem_cons_self
      have inside : isWordBorder before (c :: (w ++ rest)) = false := by
        simp [isWordBorder, started, char]
      rw [List.cons_append, replaceReferences_of_inside inside,
        ih (startsWord_cons.trans char) fun d member => word d (List.mem_cons_of_mem _ member)]
      simp

/-- A word where no reference starts stays. -/
theorem replaceReferences_word (word : AllIn isWordChar w)
    (none : referenceAt? head inRun (w ++ rest) = none) :
    replaceReferences head inRun replacement before (w ++ rest) =
      w ++ replaceReferences head inRun replacement (w.reverse ++ before) rest := by
  cases w with
  | nil => rfl
  | cons c w =>
      have char : isWordChar c = true := word c List.mem_cons_self
      rw [List.cons_append] at none ⊢
      rw [replaceReferences_of_none none,
        replaceReferences_inWord (startsWord_cons.trans char) fun d member =>
          word d (List.mem_cons_of_mem _ member)]
      simp

theorem referenceAt?_separator (word : startsWord head = true) (separator : isWordChar c = false) :
    referenceAt? head inRun (c :: rest) = none := by
  cases head with
  | nil => simp at word
  | cons a head =>
      have other : a ≠ c := by
        rintro rfl
        rw [startsWord_cons, separator] at word
        cases word
      simp [referenceAt?, after?, other]

theorem replaceReferences_dot (word : startsWord head = true) :
    replaceReferences head inRun replacement before ('.' :: rest) =
      '.' :: replaceReferences head inRun replacement ('.' :: before) rest :=
  replaceReferences_of_none (referenceAt?_separator word (by decide))

/-- What is no word stays. -/
theorem replaceReferences_gap (word : startsWord head = true)
    (gap : ∀ c ∈ w, isWordChar c = false) :
    replaceReferences head inRun replacement before (w ++ rest) =
      w ++ replaceReferences head inRun replacement (w.reverse ++ before) rest := by
  induction w generalizing before with
  | nil => rfl
  | cons c w ih =>
      rw [List.cons_append, replaceReferences_of_none
        (referenceAt?_separator word (gap c List.mem_cons_self)),
        ih fun d member => gap d (List.mem_cons_of_mem _ member)]
      simp

/-- References only start at words with a dot behind them. -/
def NeedsDot (head : List Char) (inRun : Char → Bool) : Prop :=
  ∀ ⦃w rest⦄, AllIn isWordChar w → StartsOutside isWordChar rest → rest.head? ≠ some '.' →
    referenceAt? head inRun (w ++ rest) = none

/-- Characters between two words, of which the first is no dot. -/
structure Break (s : List Char) : Prop where
  nonempty : s ≠ []
  outside : ∀ c ∈ s, isWordChar c = false
  noDot : s.head? ≠ some '.'

theorem Break.replaceReferences_word (isBreak : Break s) (needs : NeedsDot head inRun)
    (word : AllIn isWordChar w) :
    replaceReferences head inRun replacement before (w ++ (s ++ rest)) =
      w ++ replaceReferences head inRun replacement (w.reverse ++ before) (s ++ rest) := by
  apply Rule.replaceReferences_word word
  cases s with
  | nil => exact absurd rfl isBreak.nonempty
  | cons c s =>
      apply needs word
      · simpa using isBreak.outside c List.mem_cons_self
      · simpa using isBreak.noDot

/-- A replacement makes one text of another wherever separators stand around it. -/
def Turns (head : List Char) (inRun : Char → Bool)
    (replacement : List Char → List Char → List Char) (s s' : List Char) : Prop :=
  ∀ ⦃before rest⦄, Loose before → Loose rest →
    replaceReferences head inRun replacement before (s ++ rest) =
      s' ++ replaceReferences head inRun replacement (s.reverse ++ before) rest

/-- Separators around a part stay, and both sides of them are replaced by themselves. -/
theorem Turns.between (word : startsWord head = true) (left : Turns head inRun replacement s s')
    (right : Turns head inRun replacement t t') (nonempty : w ≠ []) (gap : AllIn isSeparator w) :
    Turns head inRun replacement (s ++ w ++ t) (s' ++ w ++ t') := by
  intro before rest looseBefore looseRest
  have looseGap : Loose (w ++ (t ++ rest)) := .of_gap nonempty gap
  have looseBack : Loose (w.reverse ++ (s.reverse ++ before)) :=
    .of_gap (by simpa using nonempty) fun c member => gap c (List.mem_reverse.1 member)
  have stays : ∀ c ∈ w, isWordChar c = false :=
    fun c member => isWordChar_of_isSeparator (gap c member)
  rw [List.append_assoc, List.append_assoc, left looseBefore looseGap,
    replaceReferences_gap word stays, right looseBack looseRest]
  simp

theorem turns_nil : Turns head inRun replacement [] [] :=
  fun _ _ _ _ => rfl

/-- Separators in front of a part stay. -/
theorem Turns.led (word : startsWord head = true) (part : Turns head inRun replacement s s')
    (gap : AllIn isSeparator w) : Turns head inRun replacement (w ++ s) (w ++ s') := by
  by_cases empty : w = []
  · simpa [empty] using part
  · simpa using Turns.between word turns_nil part empty gap

/-- Separators behind a part stay. -/
theorem Turns.followed (word : startsWord head = true) (part : Turns head inRun replacement s s')
    (gap : AllIn isSeparator w) : Turns head inRun replacement (s ++ w) (s' ++ w) := by
  by_cases empty : w = []
  · simpa [empty] using part
  · simpa using Turns.between word part turns_nil empty gap

theorem Turns.word (needs : NeedsDot head inRun) (word : AllIn isWordChar w) :
    Turns head inRun replacement w w := by
  intro before rest _ loose
  exact replaceReferences_word word (needs word loose.startsOutside_words loose.noDot)

/-- Two words with a dot between stay, unless a reference starts at the first one. -/
theorem Turns.dotted (start : startsWord head = true) (needs : NeedsDot head inRun)
    (left : AllIn isWordChar s) (right : AllIn isWordChar t)
    (none : ∀ {rest}, referenceAt? head inRun (s ++ '.' :: rest) = none) :
    Turns head inRun replacement (s ++ '.' :: t) (s ++ '.' :: t) := by
  intro before rest _ loose
  rw [List.append_assoc, List.cons_append, replaceReferences_word left none,
    replaceReferences_dot start,
    replaceReferences_word right (needs right loose.startsOutside_words loose.noDot)]
  simp

/-- A word, a key and a field stay, if what stands between them does not start with a dot. -/
theorem Turns.indexed (start : startsWord head = true) (needs : NeedsDot head inRun)
    (root : AllIn isWordChar s) (key : AllIn isWordChar w) (field : AllIn isWordChar t)
    (opening : Break s') (closing : Break t') :
    Turns head inRun replacement (s ++ s' ++ w ++ t' ++ t) (s ++ s' ++ w ++ t' ++ t) := by
  intro before rest _ loose
  simp only [List.append_assoc]
  rw [opening.replaceReferences_word needs root, replaceReferences_gap start opening.outside,
    closing.replaceReferences_word needs key, replaceReferences_gap start closing.outside,
    replaceReferences_word field (needs field loose.startsOutside_words loose.noDot)]
  simp

/-- A whole text has nothing around it. -/
theorem Turns.eq (turns : Turns head inRun replacement s s') :
    replaceReferences head inRun replacement [] s = s' := by
  have whole := turns loose_nil loose_nil
  simpa using whole

end AuctionBudget.Rule
