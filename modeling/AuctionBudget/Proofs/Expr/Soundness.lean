import AuctionBudget.Proofs.Expr.Completeness
import AuctionBudget.Proofs.Refusal

/-! # Whatever is read is an expression of the grammar

Each function of the parser takes tokens off the front of a list, and the tokens that it took spell
what it returns. With the converse the parser decides the grammar: the expression of a list of
tokens is the only one that it spells, and a list that spells none is refused.
-/

namespace AuctionBudget.Expr

variable {ts us rest left : List Token} {e other first lhs rhs whole : Expr} {token : Token}
  {op : BinaryOp} {root last : String}

theorem Reads.length_lt {read : (ts : List Token) → Except SyntaxFault (Expr × Shorter ts)}
    (reads : Reads read ts e rest) : rest.length < ts.length :=
  reads.1

theorem Reads.exists_product (reads : Reads Expr.sum ts whole left) :
    ∃ first rest, Reads Expr.product ts first rest ∧ Completes sumFrom first rest whole left := by
  obtain ⟨shorter, answered⟩ := reads
  rw [Expr.sum] at answered
  split at answered
  · cases answered
  · next first rest taken =>
      split at answered
      · cases answered
      · next whole' left' completed =>
          cases answered
          exact ⟨first, rest.val, ⟨rest.property, taken⟩, ⟨left'.property, completed⟩⟩

theorem Reads.exists_unary (reads : Reads Expr.product ts whole left) :
    ∃ first rest, Reads Expr.unary ts first rest ∧ Completes productFrom first rest whole left := by
  obtain ⟨shorter, answered⟩ := reads
  rw [Expr.product] at answered
  split at answered
  · cases answered
  · next first rest taken =>
      split at answered
      · cases answered
      · next whole' left' completed =>
          cases answered
          exact ⟨first, rest.val, ⟨rest.property, taken⟩, ⟨left'.property, completed⟩⟩

/-- A loop either stops at once or takes one operation and goes on. -/
theorem Completes.sum_cases (completes : Completes sumFrom lhs ts whole left) :
    whole = lhs ∧ left = ts ∨
      ∃ token us op rhs rest, ts = token :: us ∧ token.additive? = some op ∧
        Reads Expr.product us rhs rest ∧
          Completes sumFrom (.binary op lhs rhs) rest whole left := by
  obtain ⟨notLonger, answered⟩ := completes
  rw [sumFrom.eq_def] at answered
  split at answered
  · cases answered
    exact .inl ⟨rfl, rfl⟩
  · next token us =>
      split at answered
      · cases answered
        exact .inl ⟨rfl, rfl⟩
      · next op isOp =>
          split at answered
          · cases answered
          · next rhs rest taken =>
              split at answered
              · cases answered
              · next whole' left' completed =>
                  cases answered
                  exact .inr ⟨token, us, op, rhs, rest.val, rfl, isOp, ⟨rest.property, taken⟩,
                    ⟨left'.property, completed⟩⟩

theorem Completes.product_cases (completes : Completes productFrom lhs ts whole left) :
    whole = lhs ∧ left = ts ∨
      ∃ token us op rhs rest, ts = token :: us ∧ token.multiplicative? = some op ∧
        Reads Expr.unary us rhs rest ∧
          Completes productFrom (.binary op lhs rhs) rest whole left := by
  obtain ⟨notLonger, answered⟩ := completes
  rw [productFrom.eq_def] at answered
  split at answered
  · cases answered
    exact .inl ⟨rfl, rfl⟩
  · next token us =>
      split at answered
      · cases answered
        exact .inl ⟨rfl, rfl⟩
      · next op isOp =>
          split at answered
          · cases answered
          · next rhs rest taken =>
              split at answered
              · cases answered
              · next whole' left' completed =>
                  cases answered
                  exact .inr ⟨token, us, op, rhs, rest.val, rfl, isOp, ⟨rest.property, taken⟩,
                    ⟨left'.property, completed⟩⟩

theorem Reads.unary_cases (reads : Reads Expr.unary ts e rest) :
    (∃ us inner, ts = .minus :: us ∧ e = .neg inner ∧ Reads Expr.unary us inner rest) ∨
      (∃ us, ts = .plus :: us ∧ Reads Expr.unary us e rest) ∨ Reads Expr.primary ts e rest := by
  obtain ⟨shorter, answered⟩ := reads
  rw [unary.eq_def] at answered
  split at answered
  · next us =>
      split at answered
      · cases answered
      · next inner left taken =>
          cases answered
          exact .inl ⟨us, inner, rfl, rfl, ⟨left.property, taken⟩⟩
  · next us =>
      split at answered
      · cases answered
      · next inner left taken =>
          cases answered
          exact .inr (.inl ⟨us, rfl, ⟨left.property, taken⟩⟩)
  · exact .inr (.inr ⟨shorter, answered⟩)

theorem segments_next (root name : String) (after : List Token) :
    segments root (.dot :: .ident name :: after) =
      match segments root after with
      | .error fault => .error fault
      | .ok (names, left) => .ok (name :: names,
          ⟨left.val, Nat.le_add_right_of_le (Nat.le_add_right_of_le left.property)⟩) :=
  rfl

/-- The names behind dots, as they stand. -/
theorem segments_eq_ok {names : List String} {behind : NotLonger ts}
    (answered : segments root ts = .ok (names, behind)) :
    ts = names.flatMap (fun name => [.dot, .ident name]) ++ behind.val := by
  induction ts using segments.induct root generalizing names with
  | case1 name after fault refused ih =>
      rw [segments_next, refused] at answered
      cases answered
  | case2 name after names' left taken ih =>
      rw [segments_next, taken] at answered
      cases answered
      rw [List.flatMap_cons, List.append_assoc, ← ih taken]
      rfl
  | case3 after noName =>
      cases after with
      | nil => cases answered
      | cons token after =>
          cases token with
          | ident name => exact absurd rfl (noName name after)
          | _ => cases answered
  | case4 ts _ noDot =>
      cases ts with
      | nil =>
          cases answered
          rfl
      | cons token after =>
          cases token with
          | dot => exact absurd rfl (noDot after)
          | _ =>
              cases answered
              rfl

theorem fieldPath_eq_ok {behind : NotLonger ts}
    (answered : fieldPath root ts = .ok (last, behind)) :
    ts = .dot :: .ident last :: behind.val := by
  unfold fieldPath at answered
  split at answered
  · cases answered
  · next name left taken =>
      cases answered
      exact segments_eq_ok taken
  · cases answered
  · cases answered

theorem path_eq_ok {behind : NotLonger ts} (answered : path root ts = .ok (e, behind)) :
    (∃ key last, ts = .key key :: .dot :: .ident last :: behind.val ∧ e = .lookup root key last) ∨
      ∃ last, ts = .dot :: .ident last :: behind.val ∧ e = .field root last := by
  unfold path at answered
  split at answered
  · next name after =>
      split at answered
      · cases answered
      · next last left found =>
          cases answered
          exact .inl ⟨name, last, congrArg _ (fieldPath_eq_ok found), rfl⟩
  · split at answered
    · cases answered
    · next last left found =>
        cases answered
        exact .inr ⟨last, fieldPath_eq_ok found, rfl⟩

theorem Reads.primary_cases (reads : Reads Expr.primary ts e rest) :
    (∃ value, ts = .number value :: rest ∧ e = .literal value) ∨
      (∃ us, ts = .lparen :: us ∧ Reads Expr.sum us e (.rparen :: rest)) ∨
      (∃ root key last, ts = .ident root :: .key key :: .dot :: .ident last :: rest ∧
        e = .lookup root key last) ∨
      ∃ root last, ts = .ident root :: .dot :: .ident last :: rest ∧ e = .field root last := by
  obtain ⟨shorter, answered⟩ := reads
  rw [primary.eq_def] at answered
  split at answered
  · cases answered
  · next value us =>
      cases answered
      exact .inl ⟨value, rfl, rfl⟩
  · next us =>
      split at answered
      · cases answered
      · next inner behind closed taken =>
          cases answered
          exact .inr (.inl ⟨us, rfl, ⟨closed, taken⟩⟩)
      · cases answered
  · next root us =>
      split at answered
      · cases answered
      · next taken =>
          cases answered
          rcases path_eq_ok taken with ⟨name, last, split, rfl⟩ | ⟨last, split, rfl⟩
          · exact .inr (.inr (.inl ⟨root, name, last, congrArg _ split, rfl⟩))
          · exact .inr (.inr (.inr ⟨root, last, congrArg _ split, rfl⟩))
  · cases answered

/-- The tokens before the rest spell the expression. -/
def Level.Takes (level : Level) (ts : List Token) (e : Expr) (rest : List Token) : Prop :=
  ∃ us, ts = us ++ rest ∧ Spells level us e

/-- Behind tokens that spell the left operand, the tokens before the rest make up the whole. -/
def Level.TakesOn (level : Level) (lhs : Expr) (ts : List Token) (whole : Expr)
    (rest : List Token) : Prop :=
  ∀ us, Spells level us lhs → ∃ vs, ts = vs ++ rest ∧ Spells level (us ++ vs) whole

mutual

theorem Reads.takes_sum {ts rest : List Token} {e : Expr} (reads : Reads Expr.sum ts e rest) :
    Level.sum.Takes ts e rest := by
  obtain ⟨first, behind, start, onward⟩ := reads.exists_product
  obtain ⟨us, split, spells⟩ := start.takes_product
  have shorter := start.length_lt
  obtain ⟨vs, splitBehind, whole⟩ := onward.takesOn_sum us (.term spells)
  exact ⟨us ++ vs, by rw [split, splitBehind, List.append_assoc], whole⟩
termination_by (ts.length, 3)

theorem Completes.takesOn_sum {ts rest : List Token} {lhs whole : Expr}
    (completes : Completes sumFrom lhs ts whole rest) :
    Level.sum.TakesOn lhs ts whole rest := by
  intro us spells
  rcases completes.sum_cases with
    ⟨rfl, rfl⟩ | ⟨token, vs, op, rhs, behind, split, isOp, operand, onward⟩
  · exact ⟨[], rfl, by rwa [List.append_nil]⟩
  · have here : vs.length < ts.length := by rw [split, List.length_cons]; omega
    have shorter := operand.length_lt
    obtain ⟨ws, splitOperand, spellsOperand⟩ := operand.takes_product
    obtain ⟨vs', splitBehind, whole⟩ := onward.takesOn_sum _ (.sum spells isOp spellsOperand)
    refine ⟨token :: ws ++ vs', ?_, by simpa using whole⟩
    rw [split, splitOperand, splitBehind, List.cons_append, List.cons_append, List.append_assoc]
termination_by (ts.length, 0)

theorem Reads.takes_product {ts rest : List Token} {e : Expr}
    (reads : Reads Expr.product ts e rest) :
    Level.product.Takes ts e rest := by
  obtain ⟨first, behind, start, onward⟩ := reads.exists_unary
  obtain ⟨us, split, spells⟩ := start.takes_unary
  have shorter := start.length_lt
  obtain ⟨vs, splitBehind, whole⟩ := onward.takesOn_product us (.factor spells)
  exact ⟨us ++ vs, by rw [split, splitBehind, List.append_assoc], whole⟩
termination_by (ts.length, 2)

theorem Completes.takesOn_product {ts rest : List Token} {lhs whole : Expr}
    (completes : Completes productFrom lhs ts whole rest) :
    Level.product.TakesOn lhs ts whole rest := by
  intro us spells
  rcases completes.product_cases with
    ⟨rfl, rfl⟩ | ⟨token, vs, op, rhs, behind, split, isOp, operand, onward⟩
  · exact ⟨[], rfl, by rwa [List.append_nil]⟩
  · have here : vs.length < ts.length := by rw [split, List.length_cons]; omega
    have shorter := operand.length_lt
    obtain ⟨ws, splitOperand, spellsOperand⟩ := operand.takes_unary
    obtain ⟨vs', splitBehind, whole⟩ :=
      onward.takesOn_product _ (.product spells isOp spellsOperand)
    refine ⟨token :: ws ++ vs', ?_, by simpa using whole⟩
    rw [split, splitOperand, splitBehind, List.cons_append, List.cons_append, List.append_assoc]
termination_by (ts.length, 0)

theorem Reads.takes_unary {ts rest : List Token} {e : Expr} (reads : Reads Expr.unary ts e rest) :
    Level.unary.Takes ts e rest := by
  rcases reads.unary_cases with ⟨us, inner, rfl, rfl, operand⟩ | ⟨us, rfl, operand⟩ | operand
  · obtain ⟨vs, rfl, spells⟩ := operand.takes_unary
    exact ⟨_, rfl, .minus spells⟩
  · obtain ⟨vs, rfl, spells⟩ := operand.takes_unary
    exact ⟨_, rfl, .plus spells⟩
  · obtain ⟨us, split, spells⟩ := operand.takes_primary
    exact ⟨us, split, .operand spells⟩
termination_by (ts.length, 1)

theorem Reads.takes_primary {ts rest : List Token} {e : Expr}
    (reads : Reads Expr.primary ts e rest) : Level.primary.Takes ts e rest := by
  rcases reads.primary_cases with
    ⟨value, rfl, rfl⟩ | ⟨us, rfl, inner⟩ | ⟨root, key, last, rfl, rfl⟩ | ⟨root, last, rfl, rfl⟩
  · exact ⟨_, rfl, .number⟩
  · obtain ⟨vs, rfl, spells⟩ := inner.takes_sum
    exact ⟨.lparen :: vs ++ [.rparen], by simp, .parens spells⟩
  · exact ⟨_, rfl, .lookup⟩
  · exact ⟨_, rfl, .field⟩
termination_by (ts.length, 0)

end

theorem spells_of_ofTokens (answered : ofTokens ts = .ok e) : Spells .sum ts e := by
  unfold ofTokens at answered
  split at answered
  · cases answered
  · next all taken =>
      cases answered
      have reads : Reads Expr.sum ts e [] := ⟨_, taken⟩
      obtain ⟨us, split, spells⟩ := reads.takes_sum
      rwa [split, List.append_nil]
  · cases answered

/-- The parser decides the grammar. -/
theorem ofTokens_eq_ok_iff : ofTokens ts = .ok e ↔ Spells .sum ts e :=
  ⟨spells_of_ofTokens, ofTokens_of_spells⟩

/-- A list of tokens spells at most one expression. -/
theorem Spells.unique (spells : Spells .sum ts e) (spellsOther : Spells .sum ts other) :
    e = other := by
  have same := (ofTokens_of_spells spells).symm.trans (ofTokens_of_spells spellsOther)
  exact Except.ok.inj same

theorem parse_of_tokens {source : String} (lexed : tokens source.toList = .ok ts) :
    parse source = (ofTokens ts).mapError (·.toError source) := by
  rw [parse, read, lexed]

/-- A text with tokens is read as the one expression that they spell, and refused as a malformed
    rule where they spell none. -/
theorem parse_iff_spells {source : String} (lexed : tokens source.toList = .ok ts) :
    (∀ e, parse source = .ok e ↔ Spells .sum ts e) ∧
      (∀ e other, Spells .sum ts e → Spells .sum ts other → e = other) ∧
      ((¬ ∃ e, Spells .sum ts e) ↔ ∃ detail, parse source = .error (.malformedRule detail)) := by
  have reads (e : Expr) : parse source = .ok e ↔ Spells .sum ts e := by
    rw [parse_of_tokens lexed, mapError_eq_ok, ofTokens_eq_ok_iff]
  refine ⟨reads, fun _ _ => Spells.unique, ?_⟩
  constructor
  · intro none
    cases answered : ofTokens ts with
    | ok e => exact absurd ⟨e, ofTokens_eq_ok_iff.1 answered⟩ none
    | error fault =>
        obtain ⟨detail, malformed⟩ : ∃ detail, fault.toError source = .malformedRule detail :=
          ⟨_, rfl⟩
        exact ⟨detail, by rw [parse_of_tokens lexed, answered, Except.mapError, malformed]⟩
  · rintro ⟨detail, refused⟩ ⟨e, spells⟩
    cases refused.symm.trans ((reads e).2 spells)

/-- A chain of differences whose first term is negated and whose second one is a product. -/
def negatedChain : Expr :=
  .binary .sub
    (.binary .sub (.neg (.binary .sub (.field "t" "a") (.literal 2)))
      (.binary .mul (.lookup "p" "l" "b") (.literal 3)))
    (.field "t" "c")

def chainTokens : List Token :=
  [.minus, .lparen, .ident "t", .dot, .ident "a", .minus, .number 2, .rparen, .minus, .ident "p",
    .key "l", .dot, .ident "b", .star, .plus, .number 3, .minus, .ident "t", .dot, .ident "c"]

theorem parse_negatedChain : tokens "-(t.a - 2) - p[l].b * +3 - t.c".toList = .ok chainTokens ∧
    Spells .sum chainTokens negatedChain ∧
    parse "-(t.a - 2) - p[l].b * +3 - t.c" = .ok negatedChain := by
  have lexed : (tokens "-(t.a - 2) - p[l].b * +3 - t.c".toList).toOption = some chainTokens := by
    decide +kernel
  have lexed := toOption_eq_some_iff.1 lexed
  have inner : Spells .sum ((chainTokens.drop 2).take 5)
      (.binary .sub (.field "t" "a") (.literal 2)) :=
    .sum (.term (.factor (.operand .field))) rfl (.factor (.operand .number))
  have negated : Spells .sum (chainTokens.take 8)
      (.neg (.binary .sub (.field "t" "a") (.literal 2))) :=
    .term (.factor (.minus (.operand (.parens inner))))
  have times : Spells .product ((chainTokens.drop 9).take 7)
      (.binary .mul (.lookup "p" "l" "b") (.literal 3)) :=
    .product (.factor (.operand .lookup)) rfl (.plus (.operand .number))
  have field : Spells .product (chainTokens.drop 17) (.field "t" "c") :=
    .factor (.operand .field)
  have two := @Spells.sum _ _ _ _ .minus _ negated rfl times
  have three := @Spells.sum _ _ _ _ .minus _ two rfl field
  exact ⟨lexed, three, ((parse_iff_spells lexed).1 _).2 three⟩

end AuctionBudget.Expr
