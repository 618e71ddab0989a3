import AuctionBudget.Expr.Grammar

/-! # Every expression of the grammar is read

A list of tokens that spells an expression is read as that expression, whatever stands behind it, as
long as that does not carry the expression on.

The parser reads a chain of operations in a loop, from left to right, and the grammar builds it from
its end. So for sums and products the induction is not about what the loop returns at the end of a
chain, but about what it would return if it went on from there.
-/

namespace AuctionBudget.Expr

variable {ts us rest left : List Token} {e first lhs rhs whole : Expr} {token : Token}
  {op : BinaryOp}

/-- A function of the parser reads an expression and leaves the rest. -/
def Reads (read : (ts : List Token) → Except SyntaxFault (Expr × Shorter ts)) (ts : List Token)
    (e : Expr) (rest : List Token) : Prop :=
  ∃ shorter, read ts = .ok (e, ⟨rest, shorter⟩)

/-- A loop of the parser completes what stands before a list of tokens and leaves the rest. -/
def Completes (read : Expr → (ts : List Token) → Except SyntaxFault (Expr × NotLonger ts))
    (lhs : Expr) (ts : List Token) (whole : Expr) (rest : List Token) : Prop :=
  ∃ notLonger, read lhs ts = .ok (whole, ⟨rest, notLonger⟩)

/-- Whether a token may stand behind an expression of a level without carrying it on. -/
def Level.EndsAt : Level → Token → Prop
  | .sum, token => token ≠ .dot ∧ token.multiplicative? = none ∧ token.additive? = none
  | .product, token => token ≠ .dot ∧ token.multiplicative? = none
  | .unary, token => token ≠ .dot
  | .primary, token => token ≠ .dot

/-- Nothing at the start of a list carries an expression of the level on. -/
def Level.Ends (level : Level) (ts : List Token) : Prop :=
  ∀ token ∈ ts.head?, level.EndsAt token

@[simp] theorem Level.ends_nil {level : Level} : level.Ends [] := by
  simp [Level.Ends]

@[simp] theorem Level.ends_cons {level : Level} :
    level.Ends (token :: ts) ↔ level.EndsAt token := by
  simp [Level.Ends]

theorem Level.Ends.product_of_sum (h : Level.sum.Ends ts) : Level.product.Ends ts :=
  fun token member => ⟨(h token member).1, (h token member).2.1⟩

theorem Level.Ends.unary_of_product (h : Level.product.Ends ts) : Level.unary.Ends ts :=
  fun token member => (h token member).1

/-- An operation of sums carries no product on. -/
theorem endsAt_of_additive? (h : token.additive? = some op) : Level.product.EndsAt token := by
  cases token with
  | plus | minus => exact ⟨by simp, rfl⟩
  | _ => simp [Token.additive?] at h

/-- An operation of products carries no factor on. -/
theorem endsAt_of_multiplicative? (h : token.multiplicative? = some op) :
    Level.unary.EndsAt token := by
  cases token with
  | star | slash => simp [Level.EndsAt]
  | _ => simp [Token.multiplicative?] at h

theorem completes_sumFrom_of_ends (ends : Level.sum.Ends ts) : Completes sumFrom lhs ts lhs ts := by
  cases ts with
  | nil => exact ⟨Nat.le_refl _, by rw [sumFrom]⟩
  | cons token after =>
      refine ⟨Nat.le_refl _, ?_⟩
      rw [sumFrom]
      split
      · rfl
      · next op found => simp [(Level.ends_cons.1 ends).2.2] at found

theorem completes_productFrom_of_ends (ends : Level.product.Ends ts) :
    Completes productFrom lhs ts lhs ts := by
  cases ts with
  | nil => exact ⟨Nat.le_refl _, by rw [productFrom]⟩
  | cons token after =>
      refine ⟨Nat.le_refl _, ?_⟩
      rw [productFrom]
      split
      · rfl
      · next op found => simp [(Level.ends_cons.1 ends).2] at found

theorem Completes.sum_cons (isOp : token.additive? = some op) (operand : Reads product us rhs rest)
    (onward : Completes sumFrom (.binary op lhs rhs) rest whole left) :
    Completes sumFrom lhs (token :: us) whole left := by
  obtain ⟨shorter, taken⟩ := operand
  obtain ⟨notLonger, completed⟩ := onward
  refine ⟨by simp only [List.length_cons]; omega, ?_⟩
  rw [sumFrom, isOp]
  simp [taken, completed]

theorem Completes.product_cons (isOp : token.multiplicative? = some op)
    (operand : Reads unary us rhs rest)
    (onward : Completes productFrom (.binary op lhs rhs) rest whole left) :
    Completes productFrom lhs (token :: us) whole left := by
  obtain ⟨shorter, taken⟩ := operand
  obtain ⟨notLonger, completed⟩ := onward
  refine ⟨by simp only [List.length_cons]; omega, ?_⟩
  rw [productFrom, isOp]
  simp [taken, completed]

theorem Reads.sum (start : Reads product ts first rest)
    (onward : Completes sumFrom first rest whole left) : Reads Expr.sum ts whole left := by
  obtain ⟨shorter, taken⟩ := start
  obtain ⟨notLonger, completed⟩ := onward
  refine ⟨by omega, ?_⟩
  rw [Expr.sum]
  simp [taken, completed]

theorem Reads.product (start : Reads unary ts first rest)
    (onward : Completes productFrom first rest whole left) :
    Reads Expr.product ts whole left := by
  obtain ⟨shorter, taken⟩ := start
  obtain ⟨notLonger, completed⟩ := onward
  refine ⟨by omega, ?_⟩
  rw [Expr.product]
  simp [taken, completed]

theorem Reads.minus (operand : Reads unary ts e rest) :
    Reads unary (.minus :: ts) (.neg e) rest := by
  obtain ⟨shorter, taken⟩ := operand
  refine ⟨by simp only [List.length_cons]; omega, ?_⟩
  rw [unary, taken]

theorem Reads.plus (operand : Reads unary ts e rest) : Reads unary (.plus :: ts) e rest := by
  obtain ⟨shorter, taken⟩ := operand
  refine ⟨by simp only [List.length_cons]; omega, ?_⟩
  rw [unary, taken]

/-- No sign starts a primary, so a primary stands for a factor. -/
theorem Reads.unary_of_primary (operand : Reads primary ts e rest) : Reads unary ts e rest := by
  obtain ⟨shorter, taken⟩ := operand
  refine ⟨shorter, ?_⟩
  rw [unary]
  · exact taken
  · rintro after rfl
    simp [primary] at taken
  · rintro after rfl
    simp [primary] at taken

theorem reads_number {value : Float} :
    Reads primary (.number value :: ts) (.literal value) ts :=
  ⟨by simp, by rw [primary]⟩

theorem Reads.parens (inner : Reads Expr.sum ts e (.rparen :: rest)) :
    Reads primary (.lparen :: ts) e rest := by
  obtain ⟨shorter, taken⟩ := inner
  simp only [List.length_cons] at shorter
  refine ⟨by simp only [List.length_cons]; omega, ?_⟩
  rw [primary, taken]

/-- A single name behind a dot, with no second dot behind it. -/
theorem fieldPath_eq (root last : String) (ends : Level.unary.Ends ts) :
    ∃ notLonger, fieldPath root (.dot :: .ident last :: ts) = .ok (last, ⟨ts, notLonger⟩) := by
  have shorter : ts.length ≤ (Token.dot :: .ident last :: ts).length := by
    simp only [List.length_cons]
    omega
  have one : segments root (.dot :: .ident last :: ts) = .ok ([last], ⟨ts, shorter⟩) := by
    cases ts with
    | nil => rfl
    | cons token after =>
        cases token with
        | dot => exact absurd rfl (Level.ends_cons.1 ends)
        | _ => rfl
  exact ⟨shorter, by rw [fieldPath, one]⟩

theorem reads_field {root last : String} (ends : Level.unary.Ends ts) :
    Reads primary (.ident root :: .dot :: .ident last :: ts) (.field root last) ts := by
  obtain ⟨notLonger, taken⟩ := fieldPath_eq root last ends
  refine ⟨by simp only [List.length_cons]; omega, ?_⟩
  rw [primary, path, taken]
  simp

theorem reads_lookup {root key last : String} (ends : Level.unary.Ends ts) :
    Reads primary (.ident root :: .key key :: .dot :: .ident last :: ts)
      (.lookup root key last) ts := by
  obtain ⟨notLonger, taken⟩ := fieldPath_eq root last ends
  refine ⟨by simp only [List.length_cons]; omega, ?_⟩
  rw [primary, path, taken]

/-- What the parser makes of the tokens of an expression. A sum or a product is read together with
    what its loop completes it to. -/
def Level.ReadsOn : Level → List Token → Expr → Prop
  | .sum, ts, e => ∀ {rest whole left}, Level.product.Ends rest →
      Completes sumFrom e rest whole left → Reads Expr.sum (ts ++ rest) whole left
  | .product, ts, e => ∀ {rest whole left}, Level.unary.Ends rest →
      Completes productFrom e rest whole left → Reads Expr.product (ts ++ rest) whole left
  | .unary, ts, e => ∀ {rest}, Level.unary.Ends rest → Reads Expr.unary (ts ++ rest) e rest
  | .primary, ts, e => ∀ {rest}, Level.unary.Ends rest → Reads Expr.primary (ts ++ rest) e rest

theorem Level.ReadsOn.reads_sum (h : Level.sum.ReadsOn ts e) (ends : Level.sum.Ends rest) :
    Reads Expr.sum (ts ++ rest) e rest :=
  h ends.product_of_sum (completes_sumFrom_of_ends ends)

theorem Level.ReadsOn.reads_product (h : Level.product.ReadsOn ts e)
    (ends : Level.product.Ends rest) : Reads Expr.product (ts ++ rest) e rest :=
  h ends.unary_of_product (completes_productFrom_of_ends ends)

theorem Spells.readsOn {level : Level} (h : Spells level ts e) : level.ReadsOn ts e := by
  induction h with
  | term _ ih =>
      intro rest whole left ends onward
      exact (ih.reads_product ends).sum onward
  | sum _ isOp _ ihLeft ihRight =>
      intro rest whole left ends onward
      rw [List.append_assoc]
      apply ihLeft (Level.ends_cons.2 (endsAt_of_additive? isOp))
      exact .sum_cons isOp (ihRight.reads_product ends) onward
  | factor _ ih =>
      intro rest whole left ends onward
      exact (ih ends).product onward
  | product _ isOp _ ihLeft ihRight =>
      intro rest whole left ends onward
      rw [List.append_assoc]
      apply ihLeft (Level.ends_cons.2 (endsAt_of_multiplicative? isOp))
      exact .product_cons isOp (ihRight ends) onward
  | minus _ ih => exact fun ends => (ih ends).minus
  | plus _ ih => exact fun ends => (ih ends).plus
  | operand _ ih => exact fun ends => (ih ends).unary_of_primary
  | number => exact fun _ => reads_number
  | parens _ ih =>
      intro rest _
      have closed : Level.sum.Ends (.rparen :: rest) := by
        simp [Level.EndsAt, Token.multiplicative?, Token.additive?]
      have inner := (ih.reads_sum closed).parens
      simpa using inner
  | lookup => exact fun ends => reads_lookup ends
  | field => exact fun ends => reads_field ends

/-- The parser reads every list of tokens that spells an expression. -/
theorem ofTokens_of_spells (h : Spells .sum ts e) : ofTokens ts = .ok e := by
  have behind : Level.sum.ReadsOn ts e := h.readsOn
  have all : Reads Expr.sum ts e [] := by simpa using behind.reads_sum Level.ends_nil
  obtain ⟨shorter, taken⟩ := all
  rw [ofTokens, taken]

end AuctionBudget.Expr
