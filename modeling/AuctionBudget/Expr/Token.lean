import AuctionBudget.Expr.Basic
import AuctionBudget.Error
import AuctionBudget.Number.Text
import AuctionBudget.Text.Blank
import AuctionBudget.Text.Cut
import AuctionBudget.Text.Numeric
import AuctionBudget.Text.Quoted

/-! # Tokens of an expression

A text is taken apart from left to right into numbers, names, bracketed keys and single signs;
blanks between them are skipped. A number takes a point only where a digit follows, so that
`l1.total` ends in a name and `2.` in a dot.
-/

namespace AuctionBudget.Expr

inductive Token where
  | number (value : Float)
  | ident (name : String)
  /-- A key in brackets. -/
  | key (name : String)
  | dot
  | plus
  | minus
  | star
  | slash
  | lparen
  | rparen
  deriving DecidableEq

def Token.text : Token → String
  | .number value => s!"Number({Number.text value})"
  | .ident name => s!"Ident({Text.quoted name})"
  | .key name => s!"Key({Text.quoted name})"
  | .dot => "Dot"
  | .plus => "Plus"
  | .minus => "Minus"
  | .star => "Star"
  | .slash => "Slash"
  | .lparen => "LParen"
  | .rparen => "RParen"

inductive SyntaxFault where
  /-- A bracket without its closing one. -/
  | unclosedKey
  /-- Brackets around nothing. -/
  | emptyKey
  /-- A character that starts no token. -/
  | unexpectedChar (c : Char)
  /-- A token that cannot stand in its place. -/
  | unexpectedToken (token : Token)
  /-- Nothing where an operand must stand. -/
  | unexpectedEnd
  /-- A parenthesis without its closing one. -/
  | missingParen
  /-- A dot without a name behind it. -/
  | fieldExpected (root : String)
  /-- A root by itself. -/
  | fieldMissing (root : String)
  /-- More than one field behind a root or key. -/
  | pathTooDeep (root : String)
  deriving DecidableEq

def SyntaxFault.message : SyntaxFault → String
  | .unclosedKey => "unclosed `[`"
  | .emptyKey => "empty map key"
  | .unexpectedChar c => s!"unexpected character `{c}`"
  | .unexpectedToken token => s!"unexpected {token.text}"
  | .unexpectedEnd => "unexpected end of expression"
  | .missingParen => "missing `)`"
  | .fieldExpected root => s!"expected a field name after `{root}.`"
  | .fieldMissing root => s!"`{root}` needs a field"
  | .pathTooDeep root => s!"`{root}` path is too deep"

/-- A fault in the text of an expression is a malformed rule. -/
def SyntaxFault.toError (source : String) (fault : SyntaxFault) : Error :=
  .malformedRule s!"{fault.message} in `{source}`"

def startsName (c : Char) : Bool :=
  Text.isAlphabetic c || c == '_'

def continuesName (c : Char) : Bool :=
  Text.isAlphanumeric c || c == '_'

/-- Quotes that may stand around a key. -/
def isQuote (c : Char) : Bool :=
  c == '\'' || c == '"'

/-- The key that a text in brackets names: without blanks and then quotes around it. -/
def keyName (inside : List Char) : List Char :=
  Text.stripBoth isQuote (Text.trim inside)

/-- The tokens that are one character long. -/
def signToken? : Char → Option Token
  | '.' => some .dot
  | '+' => some .plus
  | '-' => some .minus
  | '*' => some .star
  | '/' => some .slash
  | '(' => some .lparen
  | ')' => some .rparen
  | _ => none

/-- The fraction at the start of a text, a point and at least one digit, and what follows it. -/
def takeFraction (s : List Char) : List Char × List Char :=
  match s with
  | '.' :: d :: rest =>
      if Text.isAsciiDigit d then
        (d :: rest.takeWhile Text.isAsciiDigit, rest.dropWhile Text.isAsciiDigit)
      else ([], s)
  | _ => ([], s)

theorem length_dropWhile_le (inClass : Char → Bool) (s : List Char) :
    (s.dropWhile inClass).length ≤ s.length :=
  (List.dropWhile_sublist inClass).length_le

theorem length_takeFraction_le (s : List Char) : (takeFraction s).2.length ≤ s.length := by
  unfold takeFraction
  split
  · next d rest =>
      split
      · have := length_dropWhile_le Text.isAsciiDigit rest
        simp only [List.length_cons]
        omega
      · simp
  · simp

theorem length_lt_of_cutAt_eq_some {mark : Char} {s before after : List Char}
    (h : Text.cutAt mark s = some (before, after)) : after.length < s.length := by
  rw [Text.append_of_cutAt_eq_some h]
  simp only [List.length_append, List.length_cons]
  omega

/-- Take a text apart into tokens. -/
def tokens (s : List Char) : Except SyntaxFault (List Token) :=
  match s with
  | [] => .ok []
  | c :: rest =>
      if Text.isBlank c then tokens rest
      else if Text.isAsciiDigit c then
        let whole := c :: rest.takeWhile Text.isAsciiDigit
        let split := takeFraction (rest.dropWhile Text.isAsciiDigit)
        (tokens split.2).map (.number (Number.ofDigits whole split.1) :: ·)
      else if startsName c then
        let name := c :: rest.takeWhile continuesName
        (tokens (rest.dropWhile continuesName)).map (.ident (String.ofList name) :: ·)
      else if c = '[' then
        match _closed : Text.cutAt ']' rest with
        | none => .error .unclosedKey
        | some (inside, after) =>
            if (keyName inside).isEmpty then .error .emptyKey
            else (tokens after).map (.key (String.ofList (keyName inside)) :: ·)
      else
        match signToken? c with
        | none => .error (.unexpectedChar c)
        | some token => (tokens rest).map (token :: ·)
termination_by s.length
decreasing_by
  · simp
  · have := length_dropWhile_le Text.isAsciiDigit rest
    have := length_takeFraction_le (rest.dropWhile Text.isAsciiDigit)
    simp only [List.length_cons]
    omega
  · have := length_dropWhile_le continuesName rest
    simp only [List.length_cons]
    omega
  · have := length_lt_of_cutAt_eq_some _closed
    simp only [List.length_cons]
    omega
  · simp

end AuctionBudget.Expr
