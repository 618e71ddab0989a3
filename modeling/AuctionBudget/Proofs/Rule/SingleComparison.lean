import AuctionBudget.Proofs.Rule.Abbreviation
import AuctionBudget.Proofs.Rule.Compiled

/-! # Rules hold a single comparison

The operator at which a rule is cut is its only one: the decimal behind it has none, and a left side
that is taken apart into tokens has signs of operators inside of its keys only, because no other
token may hold them.
-/

namespace AuctionBudget.Rule

open Text AuctionBudget.Expr

variable {s u : List Char} {c : Char} {ts : List Token} {x : Float} {rule : Rule}
  {compiled : CompiledRule}

/-- Every sign of an operator stands in a key, that is, between a `[` and the next `]`. -/
inductive SignsInKeys : List Char → Prop where
  | nil : SignsInKeys []
  | char {c : Char} {rest : List Char} : c ≠ '[' → c ∉ operatorSigns → SignsInKeys rest →
      SignsInKeys (c :: rest)
  | key {inside rest : List Char} : ']' ∉ inside → SignsInKeys rest →
      SignsInKeys ('[' :: (inside ++ ']' :: rest))

/-- The characters that open a key or make up operators. -/
def keyMarks : List Char := '[' :: operatorSigns

/-- Characters of a class without such characters do not matter. -/
theorem SignsInKeys.append {inClass : Char → Bool} (apart : ∀ c ∈ keyMarks, inClass c = false)
    (run : AllIn inClass u) (later : SignsInKeys s) : SignsInKeys (u ++ s) := by
  induction u with
  | nil => exact later
  | cons c u ih =>
      obtain ⟨first, others⟩ := List.forall_mem_cons.1 run
      have plain : c ∉ keyMarks := fun mark => by
        rw [apart c mark] at first
        cases first
      rw [keyMarks, List.mem_cons, not_or] at plain
      exact .char plain.1 plain.2 (ih others)

theorem SignsInKeys.cons {inClass : Char → Bool} (apart : ∀ c ∈ keyMarks, inClass c = false)
    (first : inClass c = true) (later : SignsInKeys s) : SignsInKeys (c :: s) :=
  later.append (u := [c]) apart (.cons first .nil)

theorem isAsciiDigit_keyMarks : ∀ c ∈ keyMarks, isAsciiDigit c = false := by
  decide

theorem SignsInKeys.of_fraction (later : SignsInKeys (takeFraction s).2) : SignsInKeys s := by
  unfold takeFraction at later
  split at later
  · next d rest =>
      split at later
      · next digit =>
          rw [← List.takeWhile_append_dropWhile (p := isAsciiDigit) (l := rest)]
          have point : ∀ c ∈ keyMarks, (c == '.') = false := by decide
          refine .cons point rfl (.cons isAsciiDigit_keyMarks digit ?_)
          exact later.append isAsciiDigit_keyMarks (List.all_eq_true.1 List.all_takeWhile)
      · exact later
  · exact later

/-- A text that is taken apart into tokens has signs of operators in its keys only. -/
theorem signsInKeys_of_tokens (reads : tokens s = .ok ts) : SignsInKeys s := by
  fun_induction tokens s generalizing ts with
  | case1 => exact .nil
  | case2 c rest blank ih =>
      have apart : ∀ c ∈ keyMarks, isBlank c = false := by decide
      exact .cons apart blank (ih reads)
  | case3 c rest _ digit =>
      rename_i ih
      obtain ⟨_, later, -⟩ := map_eq_ok.1 reads
      rw [← List.takeWhile_append_dropWhile (p := isAsciiDigit) (l := rest)]
      refine .cons isAsciiDigit_keyMarks digit ?_
      exact (ih later).of_fraction.append isAsciiDigit_keyMarks
        (List.all_eq_true.1 List.all_takeWhile)
  | case4 c rest _ _ starts =>
      rename_i ih
      obtain ⟨_, later, -⟩ := map_eq_ok.1 reads
      have apart : ∀ c ∈ keyMarks, startsName c = false ∧ continuesName c = false := by decide
      rw [← List.takeWhile_append_dropWhile (p := continuesName) (l := rest)]
      refine .cons (fun c mark => (apart c mark).1) starts ?_
      exact (ih later).append (fun c mark => (apart c mark).2)
        (List.all_eq_true.1 List.all_takeWhile)
  | case5 | case6 | case8 => cases reads
  | case7 rest inside after closed _ _ _ _ ih =>
      obtain ⟨_, later, -⟩ := map_eq_ok.1 reads
      rw [append_of_cutAt_eq_some closed]
      exact .key (not_mem_of_cutAt_eq_some closed) (ih later)
  | case9 c rest _ _ _ _ token sign ih =>
      obtain ⟨_, later, -⟩ := map_eq_ok.1 reads
      have none : ∀ c ∈ keyMarks, (signToken? c).isSome = false := by decide
      exact .cons none (by rw [sign]; rfl) (ih later)

theorem signsInKeys_of_parse {source : String} {e : Expr} (reads : Expr.parse source = .ok e) :
    SignsInKeys source.toList := by
  have answered := mapError_eq_ok.1 reads
  rw [Expr.read] at answered
  split at answered
  · cases answered
  · next ts taken => exact signsInKeys_of_tokens taken

/-- Blanks around a decimal hold no operator. -/
theorem noOperator_of_trim (plain : PlainDecimal (trim s) x) : NoOperator s := by
  have visible : isAllBlank s = false := by
    rw [Bool.eq_false_iff]
    exact fun blank => plain.solid.nonempty (trim_eq_nil_iff.2 blank)
  obtain ⟨lead, trail, before, -, behind, split⟩ := exists_blanks_around visible
  have noGap {u : List Char} (gap : Gap u) : NoOperator u := .of_separators (separators_of_gap gap)
  rw [split]
  exact ((noGap before).append plain.noOperator).append (noGap behind)

/-- A rule is compiled to the one comparison that it holds. -/
structure HoldsOne (rule : Rule) (compiled : CompiledRule) (symbol : String)
    (before after : List Char) : Prop where
  written : isAllBlank rule.statement.toList = false
  cut : Comparison.CutsAt symbol compiled.comparison.operator
    (expand rule.shorthand rule.statement).toList before after
  left : trim before ≠ []
  indexed : compiled.comparison.left = indexPaths rule.roots (String.ofList (trim before))
  signs : SignsInKeys compiled.comparison.left.toList
  reads : Expr.parse compiled.comparison.left = .ok compiled.expression
  threshold : PlainDecimal (trim after) compiled.comparison.threshold
  bare : NoOperator after

theorem compile_eq_ok_iff : rule.compile = .ok compiled ↔
    ∃ symbol before after, HoldsOne rule compiled symbol before after := by
  constructor
  · intro compiles
    unfold compile at compiles
    split at compiles
    · cases compiles
    next written =>
    obtain ⟨cut, parses, later⟩ := bind_eq_ok.1 compiles
    obtain ⟨expression, reads, ⟨⟩⟩ := bind_eq_ok.1 later
    obtain ⟨place, left, plain⟩ := Comparison.parse_eq_ok_iff.1 parses
    refine ⟨_, _, _, by simpa using written, place, left, rfl, signsInKeys_of_parse reads, reads,
      plain, noOperator_of_trim plain⟩
  · rintro ⟨symbol, before, after, holds⟩
    obtain ⟨⟨left, operator, threshold⟩, expression⟩ := compiled
    have parses := Comparison.parse_eq_ok_iff.2 (.mk holds.cut holds.left holds.threshold)
    exact compile_eq_ok holds.written parses holds.indexed.symm holds.reads

/-- Expanding leaves no statement blank. -/
theorem isAllBlank_expand (visible : isAllBlank rule.statement.toList = false) :
    isAllBlank (expand rule.shorthand rule.statement).toList = false := by
  rw [toList_expand]
  exact isAllBlank_of_sublist sublist_expandAll visible

theorem malformed_of_parse_eq_error {source : String} {error : Error}
    (refused : Expr.parse source = .error error) : ∃ detail, error = .malformedRule detail := by
  obtain ⟨fault, -, rfl⟩ := mapError_eq_error.1 refused
  exact ⟨_, rfl⟩

/-- What is not blank is malformed where it does not compile. -/
theorem compile_eq_malformed {error : Error} (visible : isAllBlank rule.statement.toList = false)
    (refused : rule.compile = .error error) : ∃ detail, error = .malformedRule detail := by
  unfold compile at refused
  rw [if_neg (by simp [visible])] at refused
  rcases bind_eq_error.1 refused with cut | ⟨cut, -, left⟩
  · exact (Comparison.refusesBlank_parse _).malformed error cut (isAllBlank_expand visible)
  · rcases bind_eq_error.1 left with unread | ⟨expression, -, ⟨⟩⟩
    exact malformed_of_parse_eq_error unread

theorem refusesBlank_compile (rule : Rule) :
    RefusesBlank (isAllBlank rule.statement.toList) rule.compile where
  input := by
    constructor
    · rintro ⟨detail, refused⟩
      by_contra visible
      rw [Bool.not_eq_true] at visible
      obtain ⟨_, ⟨⟩⟩ := compile_eq_malformed visible refused
    · intro blank
      exact ⟨_, by rw [compile, if_pos blank]; rfl⟩
  malformed _ refused visible := compile_eq_malformed visible refused

/-- Rules compile just when they hold one comparison, with a left side that is an expression. Blank
    ones are refused as inputs, and all others as malformed. -/
theorem compile_iff_holdsOne (rule : Rule) :
    (∀ compiled, rule.compile = .ok compiled ↔
        ∃ symbol before after, HoldsOne rule compiled symbol before after) ∧
      RefusesBlank (isAllBlank rule.statement.toList) rule.compile :=
  ⟨fun _ => compile_eq_ok_iff, refusesBlank_compile rule⟩

/-- A rule on a tier with a sign in its code. -/
def signedKeyRule : Rule :=
  { mixedRule with statement := "playerLevels['a<b'].totalAmountSpent <= 5" }

theorem parse_signedKey : Expr.parse "playerLevels['a<b'].totalAmountSpent" =
    .ok (.lookup tierRoot "a<b" "totalAmountSpent") := by
  have field : IsName "totalAmountSpent".toList := ⟨by decide, by decide⟩
  have key : tokens "['a<b'].totalAmountSpent".toList =
      .ok [.key "a<b", .dot, .ident "totalAmountSpent"] :=
    @tokens_brackets _ "'a<b'".toList _ (by decide) (by decide)
      (tokens_dot (tokens_name field startsOutside_nil tokens_nil))
  have all : tokens "playerLevels['a<b'].totalAmountSpent".toList =
      .ok [.ident tierRoot, .key "a<b", .dot, .ident "totalAmountSpent"] :=
    tokens_name isName_tierRoot (startsOutside_cons.2 (by decide)) key
  rw [Expr.parse, Expr.read, all]
  simp only [ofTokens_of_spells (.term (.factor (.operand .lookup)))]
  rfl

theorem compile_signedKeyRule :
    (∃ symbol before after, HoldsOne signedKeyRule {
        comparison := ⟨"playerLevels['a<b'].totalAmountSpent", .atMost, 5.0⟩
        expression := .lookup tierRoot "a<b" "totalAmountSpent" } symbol before after) ∧
      ∃ detail, { mixedRule with statement := " " }.compile = .error (.invalidInput detail) := by
  have written : isAllBlank signedKeyRule.statement.toList = false := by decide +kernel
  have cut : Comparison.parse (expand signedKeyRule.shorthand signedKeyRule.statement) =
      .ok ⟨"playerLevels['a<b'].totalAmountSpent", .atMost, 5.0⟩ := by decide +kernel
  have path : indexPaths signedKeyRule.roots "playerLevels['a<b'].totalAmountSpent" =
      "playerLevels['a<b'].totalAmountSpent" := by decide +kernel
  have compiles := compile_eq_ok written cut path parse_signedKey
  exact ⟨((compile_iff_holdsOne signedKeyRule).1 _).1 compiles,
    (compile_iff_holdsOne _).2.input.2 (by decide)⟩

end AuctionBudget.Rule
