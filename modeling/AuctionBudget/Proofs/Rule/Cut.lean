import AuctionBudget.Proofs.Number.Decimal
import AuctionBudget.Proofs.Refusal
import AuctionBudget.Proofs.Rule.Comparison

/-! # Which texts are comparisons

A text is cut at the spelling that is looked for first among those that stand in it between blanks,
at the first place of this spelling. The text is a comparison just when something stands before that
place, and a plain decimal behind it.
-/

namespace AuctionBudget.Rule

open Text

variable {s symbol before before' after after' left right : List Char} {operator : Operator}
  {threshold : Float} {source : String} {comparison : Comparison}

/-- A symbol stands between two blanks in a text. -/
structure StandsIn (symbol s before after : List Char) : Prop where
  split : s = before ++ symbol ++ after
  blankBefore : Comparison.startsBlank before.reverse = true
  blankAfter : Comparison.startsBlank after = true

/-- A symbol stands between two blanks in a text for the first time. -/
structure StandsFirst (symbol s before after : List Char) : Prop
    extends StandsIn symbol s before after where
  first : ∀ before' after', StandsIn symbol s before' after' → before.length ≤ before'.length

theorem StandsIn.unique (stands : StandsIn symbol s before after)
    (other : StandsIn symbol s before' after') (same : before.length = before'.length) :
    before = before' ∧ after = after' := by
  have split := stands.split.symm.trans other.split
  rw [List.append_assoc, List.append_assoc] at split
  obtain ⟨rfl, behind⟩ := List.append_inj split same
  exact ⟨rfl, List.append_cancel_left behind⟩

/-- An answer is refused as an input just where a text is blank, and as a malformed rule wherever
    else it is refused. -/
structure RefusesBlank {α : Type} (blank : Bool) (answer : Except Error α) : Prop where
  input : (∃ detail, answer = .error (.invalidInput detail)) ↔ blank = true
  malformed : ∀ error, answer = .error error → blank = false →
    ∃ detail, error = .malformedRule detail

namespace Comparison

theorem standsIn_of_cutAtSymbol? (found : cutAtSymbol? symbol before s = some (left, right)) :
    StandsIn symbol (before.reverse ++ s) left right := by
  fun_induction cutAtSymbol? symbol before s with
  | case1 => cases found
  | case2 before c rest after starts blank =>
      cases found
      obtain ⟨blankBefore, blankAfter⟩ := Bool.and_eq_true_iff.1 blank
      refine ⟨?_, by rwa [List.reverse_reverse], blankAfter⟩
      rw [after?_eq_some_iff.1 starts, List.append_assoc]
  | case3 before c rest after _ _ ih | case4 before c rest _ ih => simpa using ih found

/-- A symbol that stands where a part of the text starts. -/
theorem after?_of_standsIn (stands : StandsIn symbol (before.reverse ++ s) left right)
    (here : left.length = before.length) :
    after? symbol s = some right ∧ startsBlank before = true ∧ startsBlank right = true := by
  have split := stands.split
  rw [List.append_assoc] at split
  obtain ⟨rfl, behind⟩ := List.append_inj split (by simpa using here.symm)
  have blank := stands.blankBefore
  rw [List.reverse_reverse] at blank
  exact ⟨after?_eq_some_iff.2 behind, blank, stands.blankAfter⟩

/-- No place is passed over. -/
theorem exists_cutAtSymbol? (before : List Char)
    (stands : StandsIn symbol (before.reverse ++ s) left right)
    (ahead : before.length ≤ left.length) :
    ∃ left' right', cutAtSymbol? symbol before s = some (left', right') ∧
      left'.length ≤ left.length := by
  fun_induction cutAtSymbol? symbol before s with
  | case1 before =>
      have lengths := congrArg List.length stands.split
      have nonempty : right ≠ [] := by
        rintro rfl
        cases stands.blankAfter
      have positive := List.length_pos_iff.2 nonempty
      simp only [List.append_nil, List.length_reverse, List.length_append] at lengths
      omega
  | case2 before c rest after starts blank => exact ⟨_, _, rfl, by simpa using ahead⟩
  -- Where the search goes on, the symbol does not stand here, so its place is still ahead.
  | case3 before c rest after starts visible ih =>
      have later : left.length ≠ before.length := by
        intro here
        obtain ⟨same, blankBefore, blankAfter⟩ := after?_of_standsIn stands here
        cases starts.symm.trans same
        exact visible (Bool.and_eq_true_iff.2 ⟨blankBefore, blankAfter⟩)
      exact ih (by simpa using stands) (by simp only [List.length_cons]; omega)
  | case4 before c rest missing ih =>
      have later : left.length ≠ before.length := by
        intro here
        cases missing.symm.trans (after?_of_standsIn stands here).1
      exact ih (by simpa using stands) (by simp only [List.length_cons]; omega)

theorem cutAtSymbol?_eq_some_iff :
    cutAtSymbol? symbol [] s = some (left, right) ↔ StandsFirst symbol s left right := by
  constructor
  · intro found
    refine ⟨standsIn_of_cutAtSymbol? found, fun before' after' stands => ?_⟩
    obtain ⟨left', right', found', short⟩ :=
      exists_cutAtSymbol? [] stands (Nat.zero_le _)
    cases found.symm.trans found'
    exact short
  · intro stands
    obtain ⟨left', right', found, short⟩ :=
      exists_cutAtSymbol? [] stands.toStandsIn (Nat.zero_le _)
    have there : StandsIn symbol s left' right' := standsIn_of_cutAtSymbol? found
    have same := Nat.le_antisymm short (stands.first _ _ there)
    obtain ⟨rfl, rfl⟩ := there.unique stands.toStandsIn same
    exact found

/-- Without a place between blanks there is no cut, and only then. -/
theorem cutAtSymbol?_eq_none_iff :
    cutAtSymbol? symbol [] s = none ↔ ∀ left right, ¬ StandsIn symbol s left right := by
  constructor
  · intro missing left right stands
    obtain ⟨left', right', found, -⟩ :=
      exists_cutAtSymbol? [] stands (Nat.zero_le _)
    cases missing.symm.trans found
  · intro nowhere
    rw [Option.eq_none_iff_forall_ne_some]
    rintro ⟨left, right⟩ found
    exact nowhere left right (standsIn_of_cutAtSymbol? found)

/-- A text is cut at the spelling of an operator that is looked for first among those that stand in
    it, at its first place. -/
structure CutsAt (symbol : String) (operator : Operator) (s before after : List Char) : Prop
    extends StandsFirst symbol.toList s before after where
  foremost : ∃ earlier later, Operator.spellings = earlier ++ (symbol, operator) :: later ∧
    ∀ entry ∈ earlier, ∀ before' after', ¬ StandsIn entry.1.toList s before' after'

theorem cutAtOperator?_eq_some_iff : cutAtOperator? s = some (left, operator, right) ↔
    ∃ symbol, CutsAt symbol operator s left right := by
  rw [cutAtOperator?, List.findSome?_eq_some_iff]
  constructor
  · rintro ⟨earlier, ⟨symbol, operator'⟩, later, spellings, found, missing⟩
    obtain ⟨⟨left', right'⟩, stands, same⟩ := Option.map_eq_some_iff.1 found
    cases same
    refine ⟨symbol, cutAtSymbol?_eq_some_iff.1 stands, earlier, later, spellings, ?_⟩
    intro entry member
    exact cutAtSymbol?_eq_none_iff.1 (Option.map_eq_none_iff.1 (missing entry member))
  · rintro ⟨symbol, stands, earlier, later, spellings, nowhere⟩
    refine ⟨earlier, (symbol, operator), later, spellings, ?_, fun entry member => ?_⟩
    · exact Option.map_eq_some_iff.2 ⟨_, cutAtSymbol?_eq_some_iff.2 stands, rfl⟩
    · exact Option.map_eq_none_iff.2 (cutAtSymbol?_eq_none_iff.2 (nowhere entry member))

theorem unsigned_of_cut {whole fraction : List Char}
    (parts : (Text.cutAt '.' s).getD (s, []) = (whole, fraction))
    (accepted : ¬ ((whole.isEmpty && fraction.isEmpty) || !whole.all isAsciiDigit ||
      !fraction.all isAsciiDigit) = true) : Unsigned s (Number.ofDigits whole fraction) := by
  have digits : IsDigits (whole ++ fraction) := by
    simp only [Bool.or_eq_true, Bool.and_eq_true, Bool.not_eq_true', not_or, not_and,
      Bool.not_eq_false, List.isEmpty_iff] at accepted
    obtain ⟨⟨nonempty, digitsWhole⟩, digitsFraction⟩ := accepted
    refine ⟨?_, AllIn.append (List.all_eq_true.1 digitsWhole) (List.all_eq_true.1 digitsFraction)⟩
    simpa [List.append_eq_nil_iff] using nonempty
  cases cut : Text.cutAt '.' s with
  | none =>
      rw [cut] at parts
      cases parts
      exact .whole (by simpa using digits)
  | some halves =>
      rw [cut] at parts
      cases parts
      rw [append_of_cutAt_eq_some cut]
      exact .decimal digits

theorem readThreshold?_eq_some_iff :
    readThreshold? s = some threshold ↔ PlainDecimal s threshold := by
  refine ⟨fun reads => ?_, readThreshold?_eq⟩
  unfold readThreshold? at reads
  split at reads
  next negative unsigned sign =>
  dsimp only at reads
  generalize parts : (Text.cutAt '.' unsigned).getD (unsigned, []) = halves at reads
  split at reads
  · cases reads
  · next accepted =>
    have isUnsigned := unsigned_of_cut parts accepted
    cases reads
    split at sign
    · cases sign
      exact .minus isUnsigned
    · cases sign
      exact .plus isUnsigned
    · cases sign
      exact .unsigned isUnsigned

/-- The rational number that a decimal without a sign stands for. -/
def unsignedValue (s : List Char) : ℚ :=
  let (whole, fraction) := (Text.cutAt '.' s).getD (s, [])
  Nat.ofDigitChars 10 (whole ++ fraction) 0 / 10 ^ fraction.length

/-- The rational number that a decimal stands for. -/
def decimalValue : List Char → ℚ
  | '-' :: s => -unsignedValue s
  | '+' :: s => unsignedValue s
  | s => unsignedValue s

theorem decimalValue_of_unsigned (unsigned : Unsigned s threshold) :
    decimalValue s = unsignedValue s := by
  have noSign {c : Char} {rest : List Char} (starts : s = c :: rest) : c ≠ '-' ∧ c ≠ '+' := by
    have char := unsigned.chars (starts ▸ List.mem_cons_self)
    constructor <;> rintro rfl <;> exact absurd char (by decide)
  unfold decimalValue
  split
  · exact absurd rfl (noSign rfl).1
  · exact absurd rfl (noSign rfl).2
  · rfl

/-- A plain decimal is read as the binary64 number nearest to it. -/
theorem place?_of_plainDecimal (plain : PlainDecimal s threshold) :
    Number.place? threshold = some (Number.roundedPlace (decimalValue s)) := by
  cases plain with
  | unsigned unsigned =>
      rw [decimalValue_of_unsigned unsigned]
      obtain ⟨whole, fraction, cut, -, rfl⟩ := unsigned.cut
      rw [unsignedValue, cut]
      exact Number.place?_ofDecimal _ _
  | plus unsigned =>
      obtain ⟨whole, fraction, cut, -, rfl⟩ := unsigned.cut
      rw [decimalValue, unsignedValue, cut]
      exact Number.place?_ofDecimal _ _
  | minus unsigned =>
      obtain ⟨whole, fraction, cut, -, rfl⟩ := unsigned.cut
      rw [decimalValue, unsignedValue, cut]
      exact Number.place?_neg_ofDecimal _ _

example : decimalValue "-1.25".toList = -5 / 4 := by cbv

/-- A text is a comparison: what stands before and behind the place where it is cut. -/
inductive Compares (s : List Char) : Comparison → Prop where
  | mk {symbol : String} {operator : Operator} {before after : List Char} {threshold : Float} :
      CutsAt symbol operator s before after → trim before ≠ [] →
      PlainDecimal (trim after) threshold →
      Compares s ⟨String.ofList (trim before), operator, threshold⟩

theorem Compares.isAllBlank_eq (compares : Compares s comparison) : isAllBlank s = false := by
  obtain ⟨cut, left, -⟩ := compares
  next symbol operator before after threshold =>
  have visible : isAllBlank before = false := by
    rw [Bool.eq_false_iff]
    exact fun blank => left (trim_eq_nil_iff.2 blank)
  rw [cut.split, List.append_assoc, isAllBlank, List.all_append, ← isAllBlank, visible,
    Bool.false_and]

theorem read_eq_ok_iff : read source = .ok comparison ↔ Compares source.toList comparison := by
  constructor
  · intro reads
    unfold read at reads
    dsimp only at reads
    split at reads
    · cases reads
    split at reads
    · next before operator after found =>
        obtain ⟨symbol, cut⟩ := cutAtOperator?_eq_some_iff.1 found
        split at reads
        · cases reads
        next left =>
        split at reads
        · next threshold right =>
            cases reads
            exact .mk cut (by simpa using left) (readThreshold?_eq_some_iff.1 right)
        · cases reads
    · cases reads
  · intro compares
    have visible := compares.isAllBlank_eq
    obtain ⟨cut, left, right⟩ := compares
    have found := cutAtOperator?_eq_some_iff.2 ⟨_, cut⟩
    unfold read
    simp [visible, found, left, readThreshold?_eq right, pure, Except.pure]

/-- Just the blank texts have the fault of being empty. -/
theorem read_eq_empty_iff : read source = .error .empty ↔ isAllBlank source.toList = true := by
  constructor
  · intro refused
    unfold read at refused
    dsimp only at refused
    split at refused
    · assumption
    split at refused
    · split at refused
      · cases refused
      · split at refused <;> cases refused
    · cases refused
  · intro blank
    unfold read
    simp [blank, throw, throwThe, MonadExceptOf.throw, bind, Except.bind]

theorem refusesBlank_parse (source : String) :
    RefusesBlank (isAllBlank source.toList) (parse source) where
  input := by
    constructor
    · rintro ⟨detail, refused⟩
      obtain ⟨fault, reads, same⟩ := mapError_eq_error.1 refused
      cases fault with
      | empty => exact read_eq_empty_iff.1 reads
      | noOperator | noLeft | badThreshold => cases same
    · intro blank
      exact ⟨_, mapError_eq_error.2 ⟨_, read_eq_empty_iff.2 blank, rfl⟩⟩
  malformed := by
    intro error refused visible
    obtain ⟨fault, reads, rfl⟩ := mapError_eq_error.1 refused
    cases fault with
    | empty =>
        rw [read_eq_empty_iff.1 reads] at visible
        cases visible
    | noOperator | noLeft | badThreshold => exact ⟨_, rfl⟩

theorem parse_eq_ok_iff : parse source = .ok comparison ↔ Compares source.toList comparison :=
  mapError_eq_ok.trans read_eq_ok_iff

/-- A left side without signs of operators, an operator between blanks and a decimal, perhaps with
    blanks around. -/
inductive WritesOut : List Char → Comparison → Prop where
  | mk {lead left g decimal h trail : List Char} {symbol : String} {operator : Operator}
      {threshold : Float} : Gap lead → isAllBlank left = false → NoOperator left → g ≠ [] → Gap g →
      (symbol, operator) ∈ Operator.spellings → h ≠ [] → Gap h → PlainDecimal decimal threshold →
      Gap trail →
      WritesOut (lead ++ left ++ (g ++ symbol.toList ++ h ++ decimal ++ trail))
        ⟨String.ofList (trim left), operator, threshold⟩

theorem WritesOut.compares (writes : WritesOut s comparison) : Compares s comparison := by
  obtain ⟨start, visible, noSigns, nonempty, gap, spelled, nonempty', gap', plain, ending⟩ := writes
  next lead left g decimal h trail symbol operator threshold =>
  have noGap {u : List Char} (gap : Gap u) : NoOperator u := .of_separators (separators_of_gap gap)
  have noLeft : NoOperator (lead ++ left ++ g) := ((noGap start).append noSigns).append (noGap gap)
  have noRight : NoOperator (h ++ decimal ++ trail) :=
    ((noGap gap').append plain.noOperator).append (noGap ending)
  have blankLeft : startsBlank (lead ++ left ++ g).reverse = true := by
    rw [List.reverse_append]
    exact startsBlank_of_gap (by simpa using nonempty) fun c member =>
      gap c (List.mem_reverse.1 member)
  have blankRight : startsBlank (h ++ decimal ++ trail) = true := by
    rw [List.append_assoc]
    exact startsBlank_of_gap nonempty' gap'
  have found := cutAtOperator?_eq spelled noLeft noRight blankLeft blankRight
  obtain ⟨symbol', cut⟩ := cutAtOperator?_eq_some_iff.1 found
  have parts : lead ++ left ++ (g ++ symbol.toList ++ h ++ decimal ++ trail) =
      lead ++ left ++ g ++ (symbol.toList ++ (h ++ decimal ++ trail)) := by
    simp
  rw [parts]
  have before : trim (lead ++ left ++ g) = trim left := trim_between start gap
  have after : trim (h ++ decimal ++ trail) = decimal := trim_around gap' plain.solid ending
  rw [← before]
  refine .mk cut ?_ (by rwa [after])
  rw [before]
  exact fun blank => by simp [trim_eq_nil_iff.1 blank] at visible

/-- A rule text is cut into its formula, operator and threshold. -/
theorem read_eq {words : List (List Char)} {f : Formula}
    (states : States (TierName.Known words) source.toList f operator threshold) :
    ∃ s, Writes (TierName.Known words) .sum s f ∧
      Comparison.read source = .ok ⟨String.ofList s, operator, threshold⟩ := by
  generalize text : source.toList = whole at states
  obtain ⟨lead, writes, nonempty, gap, spelled, nonempty', gap', plain, trail⟩ := states
  next start s g symbol h t ending =>
  have solid := writes.solid
  have visible : isAllBlank s = false := by
    simpa using isAllBlank_of_solid (u := []) (v := []) solid
  have written := WritesOut.mk lead visible writes.noOperator nonempty gap spelled nonempty' gap'
    plain trail
  rw [trim_of_solid solid, ← text] at written
  exact ⟨s, writes, read_eq_ok_iff.2 written.compares⟩

/-- Just the comparisons are accepted, among them all that are written out with blanks around their
    operator, and their decimals are read as the nearest numbers. Blank texts are refused as inputs,
    and all others as malformed. -/
theorem parse_iff_compares (source : String) :
    (∀ comparison, parse source = .ok comparison ↔ Compares source.toList comparison) ∧
      (∀ comparison, WritesOut source.toList comparison → parse source = .ok comparison) ∧
      (∀ decimal threshold, PlainDecimal decimal threshold →
        Number.place? threshold = some (Number.roundedPlace (decimalValue decimal))) ∧
      RefusesBlank (isAllBlank source.toList) (parse source) :=
  ⟨fun _ => parse_eq_ok_iff, fun _ writes => parse_eq_ok_iff.2 writes.compares,
    fun _ _ => place?_of_plainDecimal, refusesBlank_parse source⟩

theorem parse_iff_compares_signed :
    parse "\tspent >=  -.5 " = .ok ⟨"spent", .atLeast, -Number.ofDigits [] ['5']⟩ ∧
      Compares "a < b <= 5".toList ⟨"a < b", .atMost, Number.ofDigits ['5'] []⟩ ∧
      Number.place? (-Number.ofDigits [] ['5']) =
        some (Number.roundedPlace (decimalValue ['-', '.', '5'])) ∧
      ∃ detail, parse " \n" = .error (.invalidInput detail) := by
  have gap (n : Nat) : Gap (List.replicate n ' ') := fun c member => by
    rw [List.eq_of_mem_replicate member]
    rfl
  have digits : IsDigits ([] ++ ['5']) := ⟨by decide, by decide⟩
  have decimal : PlainDecimal ['-', '.', '5'] (-Number.ofDigits [] ['5']) :=
    .minus (.decimal digits)
  have writes : WritesOut "\tspent >=  -.5 ".toList
      ⟨"spent", .atLeast, -Number.ofDigits [] ['5']⟩ :=
    @WritesOut.mk ['\t'] "spent".toList _ _ _ _ ">=" .atLeast _ (by decide) (by decide) (by decide)
      (by decide) (gap 1) (by decide) (by decide) (gap 2) decimal (gap 1)
  exact ⟨(parse_iff_compares _).2.1 _ writes,
    ((parse_iff_compares "a < b <= 5").1 _).1 (by decide +kernel),
    (parse_iff_compares "").2.2.1 _ _ decimal,
    (parse_iff_compares _).2.2.2.input.2 (by decide)⟩

end Comparison
end AuctionBudget.Rule
