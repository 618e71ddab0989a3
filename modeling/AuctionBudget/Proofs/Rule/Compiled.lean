import AuctionBudget.Proofs.Expr.Completeness
import AuctionBudget.Proofs.Rule.Cut
import AuctionBudget.Proofs.Rule.Indexing
import AuctionBudget.Proofs.Rule.Lexing
import AuctionBudget.Rule.Compiled

/-! # What a rule text means

However a formula is written, the rule compares that formula: expanding shorthand, cutting the text
at its operator, putting keys into brackets and reading tokens do not get into each other's way.
-/

namespace AuctionBudget.Rule

open Text

variable {s : List Char} {f : Formula} {operator : Operator} {threshold : Float} {rule : Rule}

/-- What the entries of the shorthand stand for. -/
def Shorthand.words (shorthand : Shorthand) : List (List Char) :=
  shorthand.entries.map (·.1.toList)

/-- A text is read as the expression that its tokens spell. -/
theorem parse_of_lexes {source : String} {ts : List Expr.Token} {e : Expr}
    (spells : Expr.Spells .sum ts e) (lexes : Lexes source.toList ts) :
    Expr.parse source = .ok e := by
  have tokens : Expr.tokens source.toList = .ok ts := by simpa using lexes loose_nil tokens_nil
  rw [Expr.parse, Expr.read, tokens]
  simp only [Expr.ofTokens_of_spells spells]
  rfl

/-- A text that writes a formula with its keys in brackets is read as that formula. -/
theorem parse_of_writes {source : String}
    (writes : Writes TierName.Bracketed .sum source.toList f) : Expr.parse source = .ok f.expr := by
  obtain ⟨ts, spells, lexes⟩ := writes.lexes
  exact parse_of_lexes spells lexes

theorem compile_eq_ok {cut : Comparison} {left : String} {expression : Expr}
    (written : Text.isAllBlank rule.statement.toList = false)
    (parses : Comparison.parse (expand rule.shorthand rule.statement) = .ok cut)
    (path : indexPaths rule.roots cut.left = left) (reads : Expr.parse left = .ok expression) :
    rule.compile = .ok { comparison := { cut with left }, expression } := by
  simp only [compile, written, parses, path, reads, bind, Except.bind, pure, Except.pure]
  rfl

theorem evaluate_eq {compiled : CompiledRule} {context : Context} (active : rule.active = true)
    (compiles : rule.compile = .ok compiled) :
    rule.evaluate context = compiled.remaining context := by
  rw [evaluate, active, compiles]
  rfl

/-- A rule that names tiers in three ways. -/
def mixedRule : Rule where
  id := .ofNat 1
  season := .ofNat 2
  tag := nextBidTag
  category := none
  name := none
  statement :=
    "2*(l1.totalAmountSpent + playerLevels['u2'].totalPlayerCount)" ++
      " - -playerLevels.u1.nextPlayerBudget < 7.5"
  shorthand := ⟨[("l", "playerLevels.l"), ("u", "playerLevels.")], by decide⟩
  roots := []
  active := true
  priority := 0
  created := 0

def spentField : KnownField TierAggregate.reader? := ⟨"totalAmountSpent", _, rfl⟩

def ceilingField : KnownField TierAggregate.reader? := ⟨"nextPlayerBudget", _, rfl⟩

end AuctionBudget.Rule
