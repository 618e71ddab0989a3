import AuctionBudget.Expr.Grammar
import AuctionBudget.Proofs.Expr.Formula
import AuctionBudget.Proofs.Text.Border
import AuctionBudget.Rule.Comparison

/-! # How rules are written

A formula can be written in many ways: with more parentheses than it needs, with blanks wherever
operands, signs and parentheses meet, and with three ways to name each tier. A rule text is a
formula, an operator between blanks and a decimal.
-/

namespace AuctionBudget

/-- The sign of an operation. -/
def BinaryOp.sign : BinaryOp → Char
  | .add => '+'
  | .sub => '-'
  | .mul => '*'
  | .div => '/'

namespace Rule

open Text

/-- Blanks, or nothing. -/
abbrev Gap (s : List Char) : Prop := AllIn isBlank s

/-- A name of ASCII letters. -/
structure IsName (s : List Char) : Prop where
  nonempty : s ≠ []
  letters : AllIn Char.isAlpha s

/-- At least one ASCII digit. -/
structure IsDigits (s : List Char) : Prop where
  nonempty : s ≠ []
  digits : AllIn isAsciiDigit s

/-- A key of ASCII letters and digits. -/
structure IsKey (s : List Char) : Prop where
  nonempty : s ≠ []
  alphanumeric : AllIn Char.isAlphanum s

/-- What may stand on both sides of a key in brackets. -/
def quotings : List (List Char) := [[], ['\''], ['"']]

/-- How a text names a tier. -/
inductive TierName where
  /-- `l1` -/
  | short (word digits : List Char)
  /-- `playerLevels.l1` -/
  | dotted (key : List Char)
  /-- `playerLevels[l1]`, perhaps with quotes around the key -/
  | indexed (quotes key : List Char)

namespace TierName

def key : TierName → List Char
  | .short word digits => word ++ digits
  | .dotted key => key
  | .indexed _ key => key

def text : TierName → List Char
  | .short word digits => word ++ digits
  | .dotted key => tierRoot.toList ++ '.' :: key
  | .indexed quotes key => tierRoot.toList ++ ('[' :: quotes) ++ key ++ (quotes ++ [']'])

/-- The names that can be read where the given words are shorthand. -/
inductive Known (words : List (List Char)) : TierName → Prop where
  | short {word digits} : word ∈ words → IsName word → IsDigits digits →
      Known words (.short word digits)
  | dotted {key} : IsKey key → Known words (.dotted key)
  | indexed {quotes key} : IsKey key → quotes ∈ quotings →
      Known words (.indexed quotes key)

/-- The names that are left once keys are in brackets. -/
inductive Bracketed : TierName → Prop where
  | indexed {quotes key} : IsKey key → quotes ∈ quotings →
      Bracketed (.indexed quotes key)

end TierName

/-- A text is a decimal or reads a field. -/
inductive Operand (Allowed : TierName → Prop) : List Char → Formula → Prop where
  | whole {whole} : IsDigits whole → Operand Allowed whole (.decimal whole [])
  | decimal {whole fraction} : IsDigits whole → IsDigits fraction →
      Operand Allowed (whole ++ '.' :: fraction) (.decimal whole fraction)
  | team {field} : Operand Allowed ("team".toList ++ '.' :: field.name.toList) (.team field)
  | season {field} : Operand Allowed ("season".toList ++ '.' :: field.name.toList) (.season field)
  | tier {name field} : Allowed name →
      Operand Allowed (name.text ++ '.' :: field.name.toList)
        (.tier (String.ofList name.key) field)

/-- A text writes a formula by a rule of the grammar, with the parentheses that it needs. -/
inductive Writes (Allowed : TierName → Prop) : Expr.Level → List Char → Formula → Prop where
  | term {s f} : Writes Allowed .product s f → Writes Allowed .sum s f
  | sum {s t g h lhs rhs op} : Writes Allowed .sum s lhs → op = .add ∨ op = .sub →
      Writes Allowed .product t rhs → Gap g → Gap h →
      Writes Allowed .sum (s ++ (g ++ op.sign :: h) ++ t) (.binary op lhs rhs)
  | factor {s f} : Writes Allowed .unary s f → Writes Allowed .product s f
  | product {s t g h lhs rhs op} : Writes Allowed .product s lhs → op = .mul ∨ op = .div →
      Writes Allowed .unary t rhs → Gap g → Gap h →
      Writes Allowed .product (s ++ (g ++ op.sign :: h) ++ t) (.binary op lhs rhs)
  | minus {s g f} : Writes Allowed .unary s f → Gap g →
      Writes Allowed .unary ('-' :: g ++ s) (.minus f)
  | plus {s g f} : Writes Allowed .unary s f → Gap g →
      Writes Allowed .unary ('+' :: g ++ s) (.plus f)
  | primary {s f} : Writes Allowed .primary s f → Writes Allowed .unary s f
  | parens {s g h f} : Writes Allowed .sum s f → Gap g → Gap h →
      Writes Allowed .primary ('(' :: g ++ s ++ (h ++ [')'])) f
  | operand {s f} : Operand Allowed s f → Writes Allowed .primary s f

/-- A text is a decimal without a sign: digits with at most one point among them. -/
inductive Unsigned : List Char → Float → Prop where
  | whole {whole} : IsDigits whole → Unsigned whole (Number.ofDigits whole [])
  | decimal {whole fraction} : IsDigits (whole ++ fraction) →
      Unsigned (whole ++ '.' :: fraction) (Number.ofDigits whole fraction)

/-- A text is a decimal, perhaps with a sign. -/
inductive PlainDecimal : List Char → Float → Prop where
  | unsigned {s x} : Unsigned s x → PlainDecimal s x
  | plus {s x} : Unsigned s x → PlainDecimal ('+' :: s) x
  | minus {s x} : Unsigned s x → PlainDecimal ('-' :: s) (-x)

/-- A rule text says that a formula compares with a threshold. -/
inductive States (Allowed : TierName → Prop) : List Char → Formula → Operator → Float → Prop where
  | mk {lead s g symbol h t trail f operator threshold} : Gap lead → Writes Allowed .sum s f →
      g ≠ [] → Gap g → (symbol, operator) ∈ Operator.spellings → h ≠ [] → Gap h →
      PlainDecimal t threshold → Gap trail →
      States Allowed (lead ++ s ++ (g ++ symbol.toList ++ h ++ t ++ trail)) f operator threshold

variable {Allowed Allowed' : TierName → Prop} {words : List (List Char)} {s : List Char} {c : Char}
  {f : Formula} {level : Expr.Level}

theorem IsName.word (name : IsName s) : AllIn isWordChar s :=
  fun c member => isWordChar_of_isAlphanum (by simp [Char.isAlphanum, name.letters c member])

theorem IsDigits.word (digits : IsDigits s) : AllIn isWordChar s :=
  fun c member => isWordChar_of_isAlphanum (by simp [Char.isAlphanum, digits.digits c member])

theorem IsKey.word (key : IsKey s) : AllIn isWordChar s :=
  fun c member => isWordChar_of_isAlphanum (key.alphanumeric c member)

theorem IsName.isKey_append {digits : List Char} (name : IsName s) (isDigits : IsDigits digits) :
    IsKey (s ++ digits) where
  nonempty := by simp [name.nonempty]
  alphanumeric := by
    refine .append (fun c member => ?_) (fun c member => ?_)
    · simp [Char.isAlphanum, name.letters c member]
    · simp [Char.isAlphanum, isDigits.digits c member]

theorem isName_teamField {name : String} {read : TeamTotals → Float}
    (known : TeamTotals.reader? name = some read) : IsName name.toList := by
  unfold TeamTotals.reader? at known
  split at known <;> first | exact ⟨by decide, by decide⟩ | cases known

theorem isName_seasonField {name : String} {read : SeasonLimits → Float}
    (known : SeasonLimits.reader? name = some read) : IsName name.toList := by
  unfold SeasonLimits.reader? at known
  split at known <;> first | exact ⟨by decide, by decide⟩ | cases known

theorem isName_tierField {name : String} {read : TierAggregate → Float}
    (known : TierAggregate.reader? name = some read) : IsName name.toList := by
  unfold TierAggregate.reader? at known
  split at known <;> first | exact ⟨by decide, by decide⟩ | cases known

theorem isName_tierRoot : IsName tierRoot.toList := ⟨by decide, by decide⟩

theorem isName_team : IsName "team".toList := ⟨by decide, by decide⟩

theorem isName_season : IsName "season".toList := ⟨by decide, by decide⟩

theorem Unsigned.chars {x : Float} (unsigned : Unsigned s x) (member : c ∈ s) :
    isAsciiDigit c = true ∨ c = '.' := by
  cases unsigned with
  | whole digits => exact .inl (digits.digits c member)
  | decimal digits =>
      rcases List.mem_append.1 member with whole | fraction
      · exact .inl (digits.digits c (List.mem_append_left _ whole))
      · rcases List.mem_cons.1 fraction with rfl | fraction
        · exact .inr rfl
        · exact .inl (digits.digits c (List.mem_append_right _ fraction))

theorem PlainDecimal.chars {x : Float} (plain : PlainDecimal s x) (member : c ∈ s) :
    isAsciiDigit c = true ∨ c ∈ ['.', '+', '-'] := by
  cases plain with
  | unsigned unsigned =>
      rcases unsigned.chars member with digit | rfl
      · exact .inl digit
      · exact .inr (by decide)
  | plus unsigned | minus unsigned =>
      rcases List.mem_cons.1 member with rfl | member
      · exact .inr (by decide)
      · rcases unsigned.chars member with digit | rfl
        · exact .inl digit
        · exact .inr (by decide)

/-- The characters that stand in names of tiers besides those of words. -/
def tierMarks : List Char := ['.', '[', ']', '\'', '"']

theorem TierName.Known.chars {name : TierName} (known : TierName.Known words name)
    (member : c ∈ name.text) : isWordChar c = true ∨ c ∈ tierMarks := by
  cases known with
  | short _ isName isDigits => exact .inl ((isName.word.append isDigits.word) c member)
  | dotted isKey =>
      rcases List.mem_append.1 member with root | behind
      · exact .inl (isName_tierRoot.word c root)
      · rcases List.mem_cons.1 behind with rfl | inKey
        · exact .inr (by decide)
        · exact .inl (isKey.word c inKey)
  | indexed isKey quoted =>
      have brackets : ∀ quotes ∈ quotings, ∀ c ∈ '[' :: (quotes ++ [']']), c ∈ tierMarks := by
        decide
      simp only [TierName.text, List.mem_append] at member
      rcases member with ((root | opening) | inKey) | closing
      · exact .inl (isName_tierRoot.word c root)
      · exact .inr (brackets _ quoted c (List.cons_subset_cons _ (List.subset_append_left _ _)
          opening))
      · exact .inl (isKey.word c inKey)
      · exact .inr (brackets _ quoted c (List.mem_cons_of_mem _ (List.mem_append.2 closing)))

theorem Operand.chars (operand : Operand (TierName.Known words) s f) (member : c ∈ s) :
    isWordChar c = true ∨ c ∈ tierMarks := by
  have dotted {u t : List Char} (left : c ∈ u → isWordChar c = true ∨ c ∈ tierMarks)
      (right : AllIn isWordChar t) (inside : c ∈ u ++ '.' :: t) :
      isWordChar c = true ∨ c ∈ tierMarks := by
    rcases List.mem_append.1 inside with before | behind
    · exact left before
    · rcases List.mem_cons.1 behind with rfl | behind
      · exact .inr (by decide)
      · exact .inl (right c behind)
  cases operand with
  | whole digits => exact .inl (digits.word c member)
  | decimal whole fraction => exact dotted (fun m => .inl (whole.word c m)) fraction.word member
  | @team field =>
      exact dotted (fun m => .inl (isName_team.word c m)) (isName_teamField field.known).word member
  | @season field =>
      exact dotted (fun m => .inl (isName_season.word c m)) (isName_seasonField field.known).word
        member
  | @tier _ field known => exact dotted known.chars (isName_tierField field.known).word member

theorem separators_of_gap (gap : Gap s) : AllIn isSeparator s :=
  fun c member => isSeparator_of_isBlank (gap c member)

theorem isSeparator_sign (op : BinaryOp) : isSeparator op.sign = true := by
  cases op <;> decide

/-- A relation between texts that joins with signs, parentheses and blanks between. -/
structure Joins (R : List Char → List Char → Prop) : Prop where
  between {s s' t t' g h} (op : BinaryOp) : R s s' → R t t' → Gap g → Gap h →
    R (s ++ (g ++ op.sign :: h) ++ t) (s' ++ (g ++ op.sign :: h) ++ t')
  signed {s s' g c} : c = '-' ∨ c = '+' → R s s' → Gap g → R (c :: g ++ s) (c :: g ++ s')
  parens {s s' g h} : R s s' → Gap g → Gap h →
    R ('(' :: g ++ s ++ (h ++ [')'])) ('(' :: g ++ s' ++ (h ++ [')']))

/-- What can be done to every operand can be done to every text that writes a formula. -/
theorem Writes.map {R : List Char → List Char → Prop} (joins : Joins R)
    (operands : ∀ {s f}, Operand Allowed s f → ∃ s', Operand Allowed' s' f ∧ R s s')
    (writes : Writes Allowed level s f) : ∃ s', Writes Allowed' level s' f ∧ R s s' := by
  induction writes with
  | term _ ih =>
      obtain ⟨s', written, related⟩ := ih
      exact ⟨s', .term written, related⟩
  | sum _ isOp _ gap gap' ihLeft ihRight =>
      obtain ⟨s', writtenLeft, left⟩ := ihLeft
      obtain ⟨t', writtenRight, right⟩ := ihRight
      exact ⟨_, .sum writtenLeft isOp writtenRight gap gap', joins.between _ left right gap gap'⟩
  | factor _ ih =>
      obtain ⟨s', written, related⟩ := ih
      exact ⟨s', .factor written, related⟩
  | product _ isOp _ gap gap' ihLeft ihRight =>
      obtain ⟨s', writtenLeft, left⟩ := ihLeft
      obtain ⟨t', writtenRight, right⟩ := ihRight
      exact ⟨_, .product writtenLeft isOp writtenRight gap gap',
        joins.between _ left right gap gap'⟩
  | minus _ gap ih =>
      obtain ⟨s', written, related⟩ := ih
      exact ⟨_, .minus written gap, joins.signed (.inl rfl) related gap⟩
  | plus _ gap ih =>
      obtain ⟨s', written, related⟩ := ih
      exact ⟨_, .plus written gap, joins.signed (.inr rfl) related gap⟩
  | primary _ ih =>
      obtain ⟨s', written, related⟩ := ih
      exact ⟨s', .primary written, related⟩
  | parens _ gap gap' ih =>
      obtain ⟨s', written, related⟩ := ih
      exact ⟨_, .parens written gap gap', joins.parens related gap gap'⟩
  | operand operand =>
      obtain ⟨s', operand', related⟩ := operands operand
      exact ⟨s', .operand operand', related⟩

end Rule
end AuctionBudget
