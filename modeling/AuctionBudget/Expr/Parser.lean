import AuctionBudget.Expr.Token

/-! # Reading an expression

One function per rule of the grammar

```text
sum     := product (('+' | '-') product)*
product := unary (('*' | '/') unary)*
unary   := '-' unary | '+' unary | primary
primary := number | '(' sum ')' | path
path    := ident key '.' ident | ident '.' ident
```

Chains nest to the left. Each function returns what it read together with the tokens that are left,
which are fewer than it was given.
-/

namespace AuctionBudget.Expr

/-- Tokens left of a list from which at least one was taken. -/
abbrev Shorter (ts : List Token) := { rest : List Token // rest.length < ts.length }

/-- Tokens left of a list from which perhaps none was taken. -/
abbrev NotLonger (ts : List Token) := { rest : List Token // rest.length ≤ ts.length }

def Token.additive? : Token → Option BinaryOp
  | .plus => some .add
  | .minus => some .sub
  | _ => none

def Token.multiplicative? : Token → Option BinaryOp
  | .star => some .mul
  | .slash => some .div
  | _ => none

/-- The names behind dots. -/
def segments (root : String) :
    (ts : List Token) → Except SyntaxFault (List String × NotLonger ts)
  | .dot :: .ident name :: rest =>
      match segments root rest with
      | .error fault => .error fault
      | .ok (names, left) => .ok (name :: names, ⟨left.val, by grind⟩)
  | .dot :: _ => .error (.fieldExpected root)
  | ts => .ok ([], ⟨ts, Nat.le_refl _⟩)

/-- The single field behind a root or key. -/
def fieldPath (root : String) (ts : List Token) : Except SyntaxFault (String × NotLonger ts) :=
  match segments root ts with
  | .error fault => .error fault
  | .ok ([name], left) => .ok (name, left)
  | .ok ([], _) => .error (.fieldMissing root)
  | .ok (_ :: _ :: _, _) => .error (.pathTooDeep root)

def path (root : String) (ts : List Token) : Except SyntaxFault (Expr × NotLonger ts) :=
  match ts with
  | .key name :: rest =>
      match fieldPath root rest with
      | .error fault => .error fault
      | .ok (last, left) => .ok (.lookup root name last, ⟨left.val, by grind⟩)
  | ts =>
      match fieldPath root ts with
      | .error fault => .error fault
      | .ok (last, left) => .ok (.field root last, left)

mutual

/-- `sum := product (('+' | '-') product)*` -/
def sum (ts : List Token) : Except SyntaxFault (Expr × Shorter ts) :=
  match product ts with
  | .error fault => .error fault
  | .ok (first, rest) =>
      match sumFrom first rest.val with
      | .error fault => .error fault
      | .ok (whole, left) => .ok (whole, ⟨left.val, by grind⟩)
termination_by (ts.length, 3)

/-- The terms of a sum behind the part that is read already. -/
def sumFrom (lhs : Expr) (ts : List Token) : Except SyntaxFault (Expr × NotLonger ts) :=
  match ts with
  | [] => .ok (lhs, ⟨[], Nat.le_refl _⟩)
  | token :: after =>
      match token.additive? with
      | none => .ok (lhs, ⟨token :: after, Nat.le_refl _⟩)
      | some op =>
          match product after with
          | .error fault => .error fault
          | .ok (rhs, rest) =>
              match sumFrom (.binary op lhs rhs) rest.val with
              | .error fault => .error fault
              | .ok (whole, left) => .ok (whole, ⟨left.val, by grind⟩)
termination_by (ts.length, 0)

/-- `product := unary (('*' | '/') unary)*` -/
def product (ts : List Token) : Except SyntaxFault (Expr × Shorter ts) :=
  match unary ts with
  | .error fault => .error fault
  | .ok (first, rest) =>
      match productFrom first rest.val with
      | .error fault => .error fault
      | .ok (whole, left) => .ok (whole, ⟨left.val, by grind⟩)
termination_by (ts.length, 2)

/-- The factors of a product behind the part that is read already. -/
def productFrom (lhs : Expr) (ts : List Token) : Except SyntaxFault (Expr × NotLonger ts) :=
  match ts with
  | [] => .ok (lhs, ⟨[], Nat.le_refl _⟩)
  | token :: after =>
      match token.multiplicative? with
      | none => .ok (lhs, ⟨token :: after, Nat.le_refl _⟩)
      | some op =>
          match unary after with
          | .error fault => .error fault
          | .ok (rhs, rest) =>
              match productFrom (.binary op lhs rhs) rest.val with
              | .error fault => .error fault
              | .ok (whole, left) => .ok (whole, ⟨left.val, by grind⟩)
termination_by (ts.length, 0)

/-- `unary := '-' unary | '+' unary | primary`, where `'+'` adds nothing. -/
def unary (ts : List Token) : Except SyntaxFault (Expr × Shorter ts) :=
  match ts with
  | .minus :: after =>
      match unary after with
      | .error fault => .error fault
      | .ok (inner, left) => .ok (.neg inner, ⟨left.val, by grind⟩)
  | .plus :: after =>
      match unary after with
      | .error fault => .error fault
      | .ok (inner, left) => .ok (inner, ⟨left.val, by grind⟩)
  | ts => primary ts
termination_by (ts.length, 1)

/-- `primary := number | '(' sum ')' | path` -/
def primary (ts : List Token) : Except SyntaxFault (Expr × Shorter ts) :=
  match ts with
  | [] => .error .unexpectedEnd
  | .number value :: after => .ok (.literal value, ⟨after, by grind⟩)
  | .lparen :: after =>
      match sum after with
      | .error fault => .error fault
      | .ok (inner, ⟨.rparen :: left, shorter⟩) => .ok (inner, ⟨left, by grind⟩)
      | .ok _ => .error .missingParen
  | .ident root :: after =>
      match path root after with
      | .error fault => .error fault
      | .ok (read, left) => .ok (read, ⟨left.val, by grind⟩)
  | token :: _ => .error (.unexpectedToken token)
termination_by (ts.length, 0)

end

/-- The expression that a list of tokens spells, all of them used. -/
def ofTokens (ts : List Token) : Except SyntaxFault Expr :=
  match sum ts with
  | .error fault => .error fault
  | .ok (e, ⟨[], _⟩) => .ok e
  | .ok (_, ⟨token :: _, _⟩) => .error (.unexpectedToken token)

def read (source : String) : Except SyntaxFault Expr :=
  match tokens source.toList with
  | .error fault => .error fault
  | .ok ts => ofTokens ts

def parse (source : String) : Except Error Expr :=
  (read source).mapError (·.toError source)

end AuctionBudget.Expr
