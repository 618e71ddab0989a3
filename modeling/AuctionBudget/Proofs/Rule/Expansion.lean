import AuctionBudget.Proofs.Rule.Reference
import AuctionBudget.Proofs.Rule.Writing
import AuctionBudget.Rule.Shorthand

/-! # Expanding shorthand in a rule text

One entry of the shorthand turns the tiers that are named by its pattern into dotted ones and leaves
everything else as it is, also the tiers of the other entries. So the entries can be applied one
after another, and behind the last one no tier is named by shorthand.
-/

namespace AuctionBudget.Rule

open Text

variable {head : List Char} {inRun : Char → Bool}
  {replacement : List Char → List Char → List Char}
  {p s t w run rest before behind digits key : List Char} {c : Char} {f : Formula}
  {words : List (List Char)}

/-- A replacement of references never looks across signs, parentheses and blanks. -/
theorem joins_turns (start : startsWord head = true) : Joins (Turns head inRun replacement) where
  between op left right gap gap' :=
    Turns.between start left right (by simp)
      (.append (separators_of_gap gap) (.cons (isSeparator_sign op) (separators_of_gap gap')))
  signed isSign part gap := by
    rcases isSign with rfl | rfl
    · exact part.led start (.cons (by decide) (separators_of_gap gap))
    · exact part.led start (.cons (by decide) (separators_of_gap gap))
  parens part gap gap' :=
    Turns.followed start (Turns.led start part (.cons (by decide) (separators_of_gap gap)))
      (.append (separators_of_gap gap') (.cons (by decide) .nil))

/-- A tier whose key is in brackets stays. -/
theorem turns_indexed (start : startsWord head = true) (needs : NeedsDot head inRun)
    {quotes : List Char} (isKey : IsKey key) (quoted : quotes ∈ quotings)
    (field : AllIn isWordChar t) :
    Turns head inRun replacement ((TierName.indexed quotes key).text ++ '.' :: t)
      ((TierName.indexed quotes key).text ++ '.' :: t) := by
  have parts : (TierName.indexed quotes key).text ++ '.' :: t =
      tierRoot.toList ++ ('[' :: quotes) ++ key ++ (quotes ++ [']', '.']) ++ t := by
    simp [TierName.text]
  have breaks : Break ('[' :: quotes) ∧ Break (quotes ++ [']', '.']) := by
    simp only [quotings, List.mem_cons, List.not_mem_nil, or_false] at quoted
    rcases quoted with rfl | rfl | rfl <;>
      exact ⟨⟨by decide, by decide, by decide⟩, ⟨by decide, by decide, by decide⟩⟩
  rw [parts]
  exact Turns.indexed start needs isName_tierRoot.word isKey.word field breaks.1 breaks.2

theorem IsName.startsWord (name : IsName p) : startsWord p = true := by
  simpa using startsWord_append (s := []) name.nonempty name.word

/-- Where a reference stands, the word is the pattern with digits, and a dot is behind it. -/
theorem eq_of_shorthandAt (name : IsName p) (word : AllIn isWordChar w)
    (outside : StartsOutside isWordChar rest)
    (found : referenceAt? p isWordDigit (w ++ rest) = some (run, behind)) :
    w = p ++ run ∧ rest = '.' :: behind := by
  obtain ⟨_, digits, same⟩ := (referenceAt?_eq_some_iff (by decide)).1 found
  have wordRun : AllIn isWordChar (p ++ run) :=
    .append name.word fun c member => isWordChar_of_isWordDigit (digits c member)
  exact run_unique word wordRun outside (startsOutside_cons.2 (by decide)) same

theorem needsDot_shorthand (name : IsName p) : NeedsDot p isWordDigit := by
  intro w rest word outside noDot
  rw [Option.eq_none_iff_forall_ne_some]
  rintro ⟨run, behind⟩ found
  obtain ⟨-, rfl⟩ := eq_of_shorthandAt name word outside found
  exact noDot rfl

/-- No reference starts at a word that is not the pattern with digits. -/
theorem shorthandAt_eq_none (name : IsName p) (word : AllIn isWordChar w)
    (other : ∀ {run}, run ≠ [] → AllIn isWordDigit run → w ≠ p ++ run) :
    referenceAt? p isWordDigit (w ++ '.' :: rest) = none := by
  rw [Option.eq_none_iff_forall_ne_some]
  rintro ⟨run, behind⟩ found
  obtain ⟨nonempty, digits, -⟩ := (referenceAt?_eq_some_iff (by decide)).1 found
  exact other nonempty digits
    (eq_of_shorthandAt name word (startsOutside_cons.2 (by decide)) found).1

theorem shorthandAt_name (name : IsName p) (other : IsName w) :
    referenceAt? p isWordDigit (w ++ '.' :: rest) = none := by
  apply shorthandAt_eq_none name other.word
  rintro (_ | ⟨d, run⟩) nonempty digits rfl
  · exact nonempty rfl
  · have digit : isWordDigit d = true := digits d List.mem_cons_self
    rw [isWordDigit_of_isAlpha (other.letters d (by simp))] at digit
    cases digit

theorem shorthandAt_digits (name : IsName p) (other : IsDigits w) :
    referenceAt? p isWordDigit (w ++ '.' :: rest) = none := by
  apply shorthandAt_eq_none name other.word
  rintro run - - rfl
  cases p with
  | nil => exact name.nonempty rfl
  | cons c p =>
      have digit : isWordDigit c = true := isWordDigit_of_isAsciiDigit (other.digits c (by simp))
      rw [isWordDigit_of_isAlpha (name.letters c List.mem_cons_self)] at digit
      cases digit

/-- A tier that another pattern names is no reference. -/
theorem shorthandAt_other (name : IsName p) (word : IsName w) (isDigits : IsDigits digits)
    (different : w ≠ p) :
    referenceAt? p isWordDigit (w ++ digits ++ '.' :: rest) = none := by
  have digitsOutside {s : List Char} (all : AllIn isWordDigit s) :
      StartsOutside Char.isAlpha s := by
    intro c member
    by_contra letter
    rw [Bool.not_eq_false] at letter
    have digit := all c (List.mem_of_mem_head? member)
    rw [isWordDigit_of_isAlpha letter] at digit
    cases digit
  apply shorthandAt_eq_none name (.append word.word isDigits.word)
  intro run _ run' same
  have own : AllIn isWordDigit digits :=
    fun c member => isWordDigit_of_isAsciiDigit (isDigits.digits c member)
  exact different (run_unique word.letters name.letters (digitsOutside own) (digitsOutside run')
    same).1

/-- What every entry of the shorthand puts in front of a tier. -/
def tierFront : List Char := tierRoot.toList ++ ['.']

/-- Behind a separator a reference gets the front. -/
theorem withFront_of_loose (loose : Loose before) :
    withFront p tierFront before digits = tierFront ++ (p ++ digits ++ ['.']) := by
  have noDot (s : List Char) : ('.' :: s).isPrefixOf before = false := by
    cases before with
    | nil => rfl
    | cons c before =>
        have other : c ≠ '.' := fun dot => loose.noDot (by rw [dot]; rfl)
        rw [List.isPrefixOf_cons_cons, beq_false_of_ne other.symm, Bool.false_and]
  have ends : tierFront.reverse = '.' :: tierRoot.toList.reverse := rfl
  rw [withFront, ends, noDot, noDot]
  simp

/-- Behind a dot a word stays, also where it is a reference. -/
theorem replaceReferences_behindDot (name : IsName p) (nonempty : w ≠ [])
    (word : AllIn isWordChar w) (outside : StartsOutside isWordChar rest) :
    replaceReferences p isWordDigit (withFront p tierFront) ('.' :: before) (w ++ rest) =
      w ++ replaceReferences p isWordDigit (withFront p tierFront) (w.reverse ++ '.' :: before)
        rest := by
  cases found : referenceAt? p isWordDigit (w ++ rest) with
  | none => exact replaceReferences_word word found
  | some reference =>
      obtain ⟨run, behind⟩ := reference
      obtain ⟨rfl, rfl⟩ := eq_of_shorthandAt name word outside found
      have started : startsWord (p ++ run ++ '.' :: behind) = true := by
        cases p with
        | nil => exact absurd rfl name.nonempty
        | cons c p => exact name.word c List.mem_cons_self
      have border : isWordBorder ('.' :: before) (p ++ run ++ '.' :: behind) = true := by
        rw [isWordBorder, started]
        rfl
      have kept : withFront p tierFront ('.' :: before) run = p ++ run ++ ['.'] := by
        simp [withFront]
      rw [replaceReferences_of_some border found, kept, replaceReferences_dot name.startsWord]
      simp

/-- A tier that is named by the pattern becomes a dotted one. -/
theorem turns_short (name : IsName p) (isDigits : IsDigits digits) (field : AllIn isWordChar t) :
    Turns p isWordDigit (withFront p tierFront) (p ++ digits ++ '.' :: t)
      (tierRoot.toList ++ '.' :: (p ++ digits) ++ '.' :: t) := by
  intro before rest looseBefore looseRest
  have run : AllIn isWordDigit digits :=
    fun c member => isWordDigit_of_isAsciiDigit (isDigits.digits c member)
  have found : referenceAt? p isWordDigit (p ++ digits ++ '.' :: (t ++ rest)) =
      some (digits, t ++ rest) :=
    (referenceAt?_eq_some_iff (by decide)).2 ⟨isDigits.nonempty, run, rfl⟩
  have started : startsWord (p ++ digits ++ '.' :: (t ++ rest)) = true := by
    cases p with
    | nil => exact absurd rfl name.nonempty
    | cons c p => exact name.word c List.mem_cons_self
  have border : isWordBorder before (p ++ digits ++ '.' :: (t ++ rest)) = true := by
    rw [isWordBorder, started, startsWord_of_startsOutside looseBefore.startsOutside_words]
    rfl
  have stays := needsDot_shorthand name field looseRest.startsOutside_words looseRest.noDot
  rw [List.append_assoc, List.cons_append, replaceReferences_of_some border found,
    withFront_of_loose looseBefore, replaceReferences_word field stays]
  simp [tierFront]

/-- A dotted tier stays. -/
theorem turns_dotted (name : IsName p) (isKey : IsKey key) (field : AllIn isWordChar t) :
    Turns p isWordDigit (withFront p tierFront) (tierRoot.toList ++ '.' :: key ++ '.' :: t)
      (tierRoot.toList ++ '.' :: key ++ '.' :: t) := by
  intro before rest _ loose
  have outside : StartsOutside isWordChar ('.' :: (t ++ rest)) := startsOutside_cons.2 (by decide)
  have stays := needsDot_shorthand name field loose.startsOutside_words loose.noDot
  have parts : tierRoot.toList ++ '.' :: key ++ '.' :: t ++ rest =
      tierRoot.toList ++ '.' :: (key ++ '.' :: (t ++ rest)) := by simp
  rw [parts, replaceReferences_word isName_tierRoot.word (shorthandAt_name name isName_tierRoot),
    replaceReferences_dot name.startsWord,
    replaceReferences_behindDot name isKey.nonempty isKey.word outside,
    replaceReferences_dot name.startsWord, replaceReferences_word field stays]
  simp

/-- An entry expands the tiers that are named by its pattern and keeps all other operands. -/
theorem Operand.expands (name : IsName p) (operand : Operand (TierName.Known (p :: words)) s f) :
    ∃ s', Operand (TierName.Known words) s' f ∧
      Turns p isWordDigit (withFront p tierFront) s s' := by
  have start := name.startsWord
  have needs := needsDot_shorthand name
  cases operand with
  | whole digits => exact ⟨_, .whole digits, Turns.word needs digits.word⟩
  | decimal whole fraction =>
      exact ⟨_, .decimal whole fraction,
        Turns.dotted start needs whole.word fraction.word (shorthandAt_digits name whole)⟩
  | @team field =>
      exact ⟨_, .team, Turns.dotted start needs isName_team.word
        (isName_teamField field.known).word (shorthandAt_name name isName_team)⟩
  | @season field =>
      exact ⟨_, .season, Turns.dotted start needs isName_season.word
        (isName_seasonField field.known).word (shorthandAt_name name isName_season)⟩
  | @tier _ field known =>
      have word := (isName_tierField field.known).word
      cases known with
      | @short word' digits member isName isDigits =>
          by_cases same : word' = p
          · subst same
            have isKey : IsKey (word' ++ digits) := isName.isKey_append isDigits
            have dotted := @Operand.tier (TierName.Known words) _ field (.dotted isKey)
            exact ⟨_, dotted, turns_short name isDigits word⟩
          · have later : word' ∈ words := (List.mem_cons.1 member).resolve_left same
            exact ⟨_, .tier (.short later isName isDigits),
              Turns.dotted start needs (.append isName.word isDigits.word) word
                (shorthandAt_other name isName isDigits same)⟩
      | dotted isKey => exact ⟨_, .tier (.dotted isKey), turns_dotted name isKey word⟩
      | indexed isKey quoted =>
          exact ⟨_, .tier (.indexed isKey quoted), turns_indexed start needs isKey quoted word⟩

theorem Writes.expands (name : IsName p) (writes : Writes (TierName.Known (p :: words)) .sum s f) :
    ∃ s', Writes (TierName.Known words) .sum s' f ∧
      Turns p isWordDigit (withFront p tierFront) s s' :=
  writes.map (joins_turns name.startsWord) fun operand => operand.expands name

/-- A text without letters stays. -/
theorem replaceReferences_noLetters (name : IsName p) (none : ∀ c ∈ w, c.isAlpha = false) :
    replaceReferences p inRun replacement before w = w := by
  induction w generalizing before with
  | nil => exact replaceReferences_nil
  | cons c w ih =>
      have noReference : referenceAt? p inRun (c :: w) = Option.none := by
        cases p with
        | nil => exact absurd rfl name.nonempty
        | cons a p =>
            have other : a ≠ c := by
              rintro rfl
              have letter := name.letters a List.mem_cons_self
              rw [none a List.mem_cons_self] at letter
              cases letter
            simp [referenceAt?, after?, other]
      rw [replaceReferences_of_none noReference,
        ih fun d member => none d (List.mem_cons_of_mem _ member)]

theorem isAlpha_of_isBlank (blank : isBlank c = true) : c.isAlpha = false := by
  by_contra letter
  rw [Bool.not_eq_false] at letter
  have char : isWordChar c = true := isWordChar_of_isAlphanum (by simp [Char.isAlphanum, letter])
  rw [isBlank_of_isWordChar char] at blank
  cases blank

theorem PlainDecimal.isAlpha {x : Float} (plain : PlainDecimal s x) (member : c ∈ s) :
    c.isAlpha = false := by
  by_contra letter
  rw [Bool.not_eq_false] at letter
  rcases plain.chars member with digit | sign
  · rw [isAsciiDigit_of_isAlpha letter] at digit
    cases digit
  · have none : ∀ c ∈ ['.', '+', '-'], c.isAlpha = false := by decide
    rw [none c sign] at letter
    cases letter

theorem isAlpha_of_spelling {symbol : String} {operator : Operator}
    (spelled : (symbol, operator) ∈ Operator.spellings) (member : c ∈ symbol.toList) :
    c.isAlpha = false := by
  have all : ∀ entry ∈ Operator.spellings, ∀ c ∈ entry.1.toList, c.isAlpha = false := by
    decide
  exact all _ spelled c member

/-- Expanding the tiers of one pattern leaves a text that says the same without the pattern. -/
theorem States.expands {operator : Operator} {threshold : Float} (name : IsName p)
    (states : States (TierName.Known (p :: words)) s f operator threshold) :
    States (TierName.Known words) (replaceReferences p isWordDigit (withFront p tierFront) [] s)
      f operator threshold := by
  obtain ⟨lead, writes, nonempty, gap, spelled, nonempty', gap', plain, trail⟩ := states
  obtain ⟨s', writes', turns⟩ := writes.expands name
  have led := turns.led name.startsWord (separators_of_gap lead)
  rw [led loose_nil]
  · rw [replaceReferences_noLetters name]
    · exact .mk lead writes' nonempty gap spelled nonempty' gap' plain trail
    · simp only [List.mem_append]
      rintro c ((((member | member) | member) | member) | member)
      · exact isAlpha_of_isBlank (gap c member)
      · exact isAlpha_of_spelling spelled member
      · exact isAlpha_of_isBlank (gap' c member)
      · exact plain.isAlpha member
      · exact isAlpha_of_isBlank (trail c member)
  · simp only [List.append_assoc]
    exact .of_gap nonempty (separators_of_gap gap)

/-- An entry of the shorthand that names tiers by a word. -/
structure NamesTiers (entry : String × String) : Prop where
  pattern : IsName entry.1.toList
  replacement : entry.2 = tierRoot ++ "." ++ entry.1 ∨ entry.2 = tierRoot ++ "."

theorem NamesTiers.frontOf_eq {entry : String × String} (names : NamesTiers entry) :
    frontOf entry.1.toList entry.2.toList = tierFront := by
  rcases names.replacement with long | short
  · have parts : entry.2.toList = tierFront ++ entry.1.toList := by
      rw [long, String.toList_append, String.toList_append]
      rfl
    rw [frontOf, parts, dropEnding_append]
  · have parts : entry.2.toList = tierFront := by
      rw [short, String.toList_append]
      rfl
    rw [frontOf, parts]
    refine dropEnding_of_ne fun u same => ?_
    obtain empty | ⟨front, last, split⟩ := List.eq_nil_or_concat entry.1.toList
    · exact names.pattern.nonempty empty
    · rw [split, List.concat_eq_append, ← List.append_assoc] at same
      have dot : [last] = ['.'] := List.append_inj_right' same rfl
      have letter := names.pattern.letters last (by simp [split])
      rw [List.singleton_inj.1 dot] at letter
      exact absurd letter (by decide)

theorem NamesTiers.expandEntry_eq {entry : String × String} (names : NamesTiers entry) :
    expandEntry s entry =
      replaceReferences entry.1.toList isWordDigit (withFront entry.1.toList tierFront) [] s := by
  have solidPattern : Solid entry.1.toList :=
    .of_forall names.pattern.nonempty fun c member =>
      isBlank_of_isWordChar (names.pattern.word c member)
  have solidFront : Solid tierFront := .of_forall (by decide) (by decide)
  have solidReplacement : Solid entry.2.toList := by
    rcases names.replacement with long | short
    · rw [long, String.toList_append]
      exact solidFront.append solidPattern
    · rw [short]
      exact solidFront
  rw [expandEntry, trim_of_solid solidPattern, trim_of_solid solidReplacement, names.frontOf_eq]
  simp [names.pattern.nonempty, solidReplacement.nonempty]

end AuctionBudget.Rule
