import AuctionBudget.Proofs.Rule.Writing
import AuctionBudget.Rule.Comparison

/-! # Cutting a rule text at its comparison

A formula contains none of the signs of which operators are made, and a decimal does not either. So
the operator of a rule text is the only place where a spelling stands, and the spellings that are
looked for before it are not found.
-/

namespace AuctionBudget.Rule

open Text

variable {words : List (List Char)} {s t u left right before symbol : List Char} {a c : Char}
  {f : Formula} {operator : Operator} {x threshold : Float}

/-- The characters that operators are made of. -/
def operatorSigns : List Char := ['<', '>', '=']

/-- A text in which no operator can stand. -/
abbrev NoOperator (s : List Char) : Prop := ∀ c ∈ s, c ∉ operatorSigns

theorem NoOperator.of_separators (separators : AllIn isSeparator s) : NoOperator s := by
  intro c member sign
  have apart := separators_apart c (mem_of_isSeparator (separators c member))
  simp only [operatorSigns, List.mem_cons, List.not_mem_nil, or_false] at sign
  rcases sign with rfl | rfl | rfl <;> simp at apart

theorem NoOperator.append (left : NoOperator s) (right : NoOperator t) : NoOperator (s ++ t) :=
  List.forall_mem_append.2 ⟨left, right⟩

theorem joins_noOperator : Joins fun s _ => NoOperator s where
  between op left right gap gap' :=
    (left.append (.of_separators (.append (separators_of_gap gap)
      (.cons (isSeparator_sign op) (separators_of_gap gap'))))).append right
  signed isSign part gap := by
    rcases isSign with rfl | rfl
    · exact (NoOperator.of_separators (.cons (by decide) (separators_of_gap gap))).append part
    · exact (NoOperator.of_separators (.cons (by decide) (separators_of_gap gap))).append part
  parens part gap gap' :=
    ((NoOperator.of_separators (.cons (by decide) (separators_of_gap gap))).append part).append
      (.of_separators (.append (separators_of_gap gap') (.cons (by decide) .nil)))

theorem Operand.noOperator (operand : Operand (TierName.Known words) s f) : NoOperator s := by
  intro c member sign
  rcases operand.chars member with word | mark
  · have none : ∀ c ∈ operatorSigns, isWordChar c = false := by decide
    rw [none c sign] at word
    cases word
  · have none : ∀ c ∈ operatorSigns, c ∉ tierMarks := by decide
    exact none c sign mark

theorem Writes.noOperator (writes : Writes (TierName.Known words) .sum s f) : NoOperator s := by
  obtain ⟨_, _, none⟩ := writes.map joins_noOperator fun {s _} operand =>
    ⟨s, operand, operand.noOperator⟩
  exact none

theorem joins_solid : Joins fun s _ => Solid s where
  between _ left right _ _ := left.around right
  signed isSign part _ := by
    have sign : Solid ['-'] ∧ Solid ['+'] := by
      constructor <;> exact .of_forall (by decide) (by decide)
    rcases isSign with rfl | rfl
    · exact sign.1.around part
    · exact sign.2.around part
  parens {s s' g h} part gap gap' := by
    have opening : Solid ['('] := .of_forall (by decide) (by decide)
    have closing : Solid [')'] := .of_forall (by decide) (by decide)
    have parts : '(' :: g ++ s ++ (h ++ [')']) = ['('] ++ (g ++ s ++ h) ++ [')'] := by simp
    rw [parts]
    exact opening.around closing

theorem Operand.solid (operand : Operand (TierName.Known words) s f) : Solid s := by
  refine .of_forall ?_ fun c member => ?_
  · cases operand with
    | whole digits => exact digits.nonempty
    | _ => simp
  · rcases operand.chars member with word | mark
    · exact isBlank_of_isWordChar word
    · have none : ∀ c ∈ tierMarks, isBlank c = false := by decide
      exact none c mark

theorem Writes.solid (writes : Writes (TierName.Known words) .sum s f) : Solid s := by
  obtain ⟨_, _, solid⟩ := writes.map joins_solid fun {s _} operand =>
    ⟨s, operand, operand.solid⟩
  exact solid

theorem PlainDecimal.solid (plain : PlainDecimal s x) : Solid s := by
  refine .of_forall ?_ fun c member => ?_
  · cases plain with
    | unsigned unsigned =>
        cases unsigned with
        | whole digits => exact digits.nonempty
        | decimal => simp
    | plus | minus => simp
  · rcases plain.chars member with digit | sign
    · exact isBlank_of_isWordChar (isWordChar_of_isWordDigit (isWordDigit_of_isAsciiDigit digit))
    · have none : ∀ c ∈ ['.', '+', '-'], isBlank c = false := by decide
      exact none c sign

theorem PlainDecimal.noOperator (plain : PlainDecimal s x) : NoOperator s := by
  intro c member sign
  rcases plain.chars member with digit | mark
  · have none : ∀ c ∈ operatorSigns, isAsciiDigit c = false := by decide
    rw [none c sign] at digit
    cases digit
  · have none : ∀ c ∈ operatorSigns, c ∉ ['.', '+', '-'] := by decide
    exact none c sign mark

/-- The digits before and behind the point of a decimal. -/
theorem Unsigned.cut (unsigned : Unsigned s x) :
    ∃ whole fraction, (Text.cutAt '.' s).getD (s, []) = (whole, fraction) ∧
      IsDigits (whole ++ fraction) ∧ x = Number.ofDigits whole fraction := by
  have noPoint {t : List Char} (digits : AllIn isAsciiDigit t) : '.' ∉ t :=
    fun member => absurd (digits '.' member) (by decide)
  cases unsigned with
  | whole digits =>
      refine ⟨s, [], ?_, by simpa using digits, rfl⟩
      rw [cutAt_eq_none_iff.2 (noPoint digits.digits), Option.getD_none]
  | @decimal whole fraction digits =>
      refine ⟨whole, fraction, ?_, digits, rfl⟩
      have absent : '.' ∉ whole :=
        noPoint fun c member => digits.digits c (List.mem_append_left _ member)
      rw [cutAt_append absent, Option.getD_some]

/-- No rule text is blank. -/
theorem States.isAllBlank_eq (states : States (TierName.Known words) s f operator threshold) :
    isAllBlank s = false := by
  obtain ⟨_, writes⟩ := states
  exact isAllBlank_of_solid writes.solid

namespace Comparison

/-- Where the first character of a symbol is missing, the symbol is not found. -/
theorem cutAtSymbol?_append (absent : a ∉ u) :
    cutAtSymbol? (a :: symbol) before (u ++ s) =
      cutAtSymbol? (a :: symbol) (u.reverse ++ before) s := by
  induction u generalizing before with
  | nil => rfl
  | cons c u ih =>
      have other : a ≠ c := fun same => absent (by simp [same])
      have later : a ∉ u := fun member => absent (List.mem_cons_of_mem _ member)
      rw [List.cons_append, cutAtSymbol?, after?, if_neg other]
      simp [ih later]

theorem cutAtSymbol?_eq_none (absent : a ∉ s) : cutAtSymbol? (a :: symbol) before s = none := by
  simpa [cutAtSymbol?] using cutAtSymbol?_append (s := []) absent

/-- Between blanks the symbol is found. -/
theorem cutAtSymbol?_self (blank : startsBlank before = true) (blank' : startsBlank s = true) :
    cutAtSymbol? (a :: symbol) before (a :: symbol ++ s) = some (before.reverse, s) := by
  have found : after? (a :: symbol) (a :: (symbol ++ s)) = some s :=
    after?_eq_some_iff.2 rfl
  rw [List.cons_append, cutAtSymbol?, found]
  simp [blank, blank']

/-- A sign with a blank behind it does not start a longer symbol. -/
theorem cutAtSymbol?_longer (blank : startsBlank right = true) (absent : a ∉ right) :
    cutAtSymbol? [a, '='] before (a :: right) = none := by
  have short : after? [a, '='] (a :: right) = none := by
    cases right with
    | nil => simp [startsBlank] at blank
    | cons c right =>
        have other : '=' ≠ c := by
          rintro rfl
          simp [startsBlank, isBlank] at blank
        simp [after?, other]
  rw [cutAtSymbol?, short]
  exact cutAtSymbol?_eq_none absent

/-- The first spelling that is found makes the cut. -/
theorem cutAtOperator?_of_split {symbol : String} {later : List (String × Operator)}
    (earlier : List (String × Operator))
    (split : Operator.spellings = earlier ++ (symbol, operator) :: later)
    (missing : ∀ entry ∈ earlier, cutAtSymbol? entry.1.toList [] s = none)
    (found : cutAtSymbol? symbol.toList [] s = some (left, right)) :
    cutAtOperator? s = some (left, operator, right) := by
  rw [cutAtOperator?, split, List.findSome?_append, List.findSome?_eq_none_iff.2, Option.none_or,
    List.findSome?_cons]
  · simp [found]
  · rintro ⟨symbol', operator'⟩ member
    simp [missing _ member]

/-- A text is cut at its only operator. -/
theorem cutAtOperator?_eq {symbol : String} (spelled : (symbol, operator) ∈ Operator.spellings)
    (noLeft : NoOperator left) (noRight : NoOperator right)
    (blankLeft : startsBlank left.reverse = true) (blankRight : startsBlank right = true) :
    cutAtOperator? (left ++ (symbol.toList ++ right)) = some (left, operator, right) := by
  have reach {a : Char} {more t : List Char} (sign : a ∈ operatorSigns) :
      cutAtSymbol? (a :: more) [] (left ++ t) = cutAtSymbol? (a :: more) left.reverse t := by
    have absent : a ∉ left := fun member => noLeft a member sign
    rw [cutAtSymbol?_append absent, List.append_nil]
  have self {a : Char} {more : List Char} (sign : a ∈ operatorSigns) :
      cutAtSymbol? (a :: more) [] (left ++ (a :: more ++ right)) = some (left, right) := by
    simpa [reach sign] using cutAtSymbol?_self blankLeft blankRight
  have other (a : Char) {more t : List Char} (sign : a ∈ operatorSigns) (absent : a ∉ t) :
      cutAtSymbol? (a :: more) [] (left ++ (t ++ right)) = none := by
    rw [reach sign]
    refine cutAtSymbol?_eq_none fun member => ?_
    rcases List.mem_append.1 member with inSymbol | behind
    · exact absent inSymbol
    · exact noRight a behind sign
  have longer (a : Char) (sign : a ∈ operatorSigns) :
      cutAtSymbol? [a, '='] [] (left ++ ([a] ++ right)) = none := by
    rw [reach sign]
    exact cutAtSymbol?_longer blankRight fun member => noRight a member sign
  simp only [Operator.spellings, List.mem_cons, Prod.mk.injEq, List.not_mem_nil, or_false]
    at spelled
  rcases spelled with ⟨rfl, rfl⟩ | ⟨rfl, rfl⟩ | ⟨rfl, rfl⟩ | ⟨rfl, rfl⟩ | ⟨rfl, rfl⟩ | ⟨rfl, rfl⟩
  · exact cutAtOperator?_of_split [] rfl (List.forall_mem_nil _) (self (by decide))
  · refine cutAtOperator?_of_split [("<=", .atMost)] rfl ?_ (self (by decide))
    exact List.forall_mem_singleton.2 (other '<' (by decide) (by decide))
  · refine cutAtOperator?_of_split [("<=", .atMost), (">=", .atLeast)] rfl ?_ (self (by decide))
    exact List.forall_mem_cons.2 ⟨longer '<' (by decide),
      List.forall_mem_singleton.2 (other '>' (by decide) (by decide))⟩
  · refine cutAtOperator?_of_split [("<=", .atMost), (">=", .atLeast), ("<", .less)] rfl ?_
      (self (by decide))
    exact List.forall_mem_cons.2 ⟨other '<' (by decide) (by decide),
      List.forall_mem_cons.2 ⟨longer '>' (by decide),
        List.forall_mem_singleton.2 (other '<' (by decide) (by decide))⟩⟩
  · refine cutAtOperator?_of_split
      [("<=", .atMost), (">=", .atLeast), ("<", .less), (">", .greater)] rfl ?_ (self (by decide))
    exact List.forall_mem_cons.2 ⟨other '<' (by decide) (by decide),
      List.forall_mem_cons.2 ⟨other '>' (by decide) (by decide),
        List.forall_mem_cons.2 ⟨other '<' (by decide) (by decide),
          List.forall_mem_singleton.2 (other '>' (by decide) (by decide))⟩⟩⟩
  · refine cutAtOperator?_of_split
      [("<=", .atMost), (">=", .atLeast), ("<", .less), (">", .greater), ("==", .equal)] rfl ?_
      (self (by decide))
    exact List.forall_mem_cons.2 ⟨other '<' (by decide) (by decide),
      List.forall_mem_cons.2 ⟨other '>' (by decide) (by decide),
        List.forall_mem_cons.2 ⟨other '<' (by decide) (by decide),
          List.forall_mem_cons.2 ⟨other '>' (by decide) (by decide),
            List.forall_mem_singleton.2 (longer '=' (by decide))⟩⟩⟩⟩

theorem readThreshold?_eq (plain : PlainDecimal s x) : readThreshold? s = some x := by
  have accepted {whole fraction : List Char} (digits : IsDigits (whole ++ fraction)) :
      ((whole.isEmpty && fraction.isEmpty) || !whole.all isAsciiDigit ||
        !fraction.all isAsciiDigit) = false := by
    have nonempty := digits.nonempty
    have all := List.all_eq_true.2 digits.digits
    rw [List.all_append, Bool.and_eq_true] at all
    simp_all
  cases plain with
  | unsigned unsigned =>
      obtain ⟨whole, fraction, cut, digits, rfl⟩ := unsigned.cut
      have noSign {c : Char} (first : s.head? = some c) : c ≠ '-' ∧ c ≠ '+' := by
        have char := unsigned.chars (List.mem_of_mem_head? first)
        constructor <;> rintro rfl <;> exact absurd char (by decide)
      unfold readThreshold?
      split
      next negative t parts =>
        split at parts
        · exact absurd rfl (noSign rfl).1
        · exact absurd rfl (noSign rfl).2
        · cases parts
          simp [cut, accepted digits]
  | plus unsigned =>
      obtain ⟨whole, fraction, cut, digits, rfl⟩ := unsigned.cut
      simp [readThreshold?, cut, accepted digits]
  | minus unsigned =>
      obtain ⟨whole, fraction, cut, digits, rfl⟩ := unsigned.cut
      simp [readThreshold?, cut, accepted digits]

theorem startsBlank_of_gap (nonempty : u ≠ []) (gap : Gap u) : startsBlank (u ++ s) = true := by
  cases u with
  | nil => exact absurd rfl nonempty
  | cons c u => exact gap c List.mem_cons_self

end Comparison
end AuctionBudget.Rule
