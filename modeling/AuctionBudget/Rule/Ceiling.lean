import AuctionBudget.Rule.Compiled

/-! # Scopes and ceilings

A rule applies to the tiers that it reads, and to every tier if it reads none or its category says
so. The next-bid ceiling of a tier is the smallest of the budget and the allowances of the rules
that apply to it.
-/

namespace AuctionBudget.Rule

/-- The tiers that a rule applies to. -/
inductive Scope where
  | common
  /-- The listed tiers, ascending. -/
  | tiers (codes : List String)
  deriving DecidableEq

/-- Whether a category is the common one, in any mixture of upper and lower case. -/
def isCommonCategory (category : String) : Bool :=
  (Text.trim category.toList).map Char.toLower == commonCategory.toList

/-- The scope of a compiled rule. -/
def scope (rule : Rule) (compiled : CompiledRule) : Scope :=
  let codes := compiled.referencedTiers
  if rule.category.any isCommonCategory || codes.isEmpty then .common else .tiers codes

def Scope.appliesTo : Scope → String → Bool
  | .common, _ => true
  | .tiers codes, code => codes.contains code

/-- The smaller of two values, the first of equal ones. What is no number gives way. -/
def smaller (held value : Float) : Float :=
  if held.isNaN || value < held then value else held

def applicable (evaluated : List (Scope × Float)) (code : String) : List Float :=
  (evaluated.filter (·.1.appliesTo code)).map (·.2)

def ceiling (budget : Float) (evaluated : List (Scope × Float)) (code : String) : Float :=
  (applicable evaluated code).foldl smaller budget

def ceilings (budget : Float) (codes : List String) (evaluated : List (Scope × Float)) :
    List (String × Float) :=
  codes.map fun code => (code, ceiling budget evaluated code)

end AuctionBudget.Rule
