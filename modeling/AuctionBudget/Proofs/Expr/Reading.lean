import AuctionBudget.Rule.Compiled

/-! # What an expression reads

The value or the fault of an expression is decided by the team, the season, and what stands under
the keys that it names: spending and head counts, and for some keys the next-bid ceiling. What is
missing under a key reads as zero. So two contexts that agree on this much cannot be told apart.
-/

namespace AuctionBudget

theorem Money.units_zero : (0 : Money).units = 0.0 := by
  decide +kernel

theorem Number.ofInt_zero : Number.ofInt 0 = 0.0 := by
  decide +kernel

namespace Context

variable {c d : Context}

/-- The spending and the head count that rules read under a key. -/
def counts (context : Context) (key : String) : Money × Int32 :=
  ((context.tier? key).map fun tier => (tier.spent, tier.players)).getD (0, 0)

/-- The ceiling that rules read under a key. -/
def ceilingAt (context : Context) (key : String) : Money :=
  ((context.tier? key).bind (·.ceiling)).getD 0

theorem lookup_spent (context : Context) (key : String) :
    context.lookup "playerLevels" key "totalAmountSpent" = .ok (context.counts key).1.units := by
  change Except.ok (((context.tier? key).map fun tier => tier.spent.units).getD 0.0) = _
  cases found : context.tier? key <;> simp [counts, found, Money.units_zero]

theorem lookup_players (context : Context) (key : String) :
    context.lookup "playerLevels" key "totalPlayerCount" =
      .ok (Number.ofInt (context.counts key).2.toInt) := by
  change Except.ok (((context.tier? key).map fun tier => Number.ofInt tier.players.toInt).getD 0.0) = _
  cases found : context.tier? key <;> simp [counts, found, Number.ofInt_zero]

theorem lookup_ceiling (context : Context) (key : String) :
    context.lookup "playerLevels" key "nextPlayerBudget" = .ok (context.ceilingAt key).units := by
  change Except.ok (((context.tier? key).map fun tier =>
    (tier.ceiling.map Money.units).getD 0.0).getD 0.0) = _
  cases found : context.tier? key with
  | none => simp [ceilingAt, found, Money.units_zero]
  | some tier => cases ceiling : tier.ceiling <;> simp [ceilingAt, found, ceiling, Money.units_zero]

/-- A field of a tier tells apart only contexts that differ in it. -/
theorem lookup_congr {root key name : String} (counts : c.counts key = d.counts key)
    (ceilings : name = "nextPlayerBudget" → c.ceilingAt key = d.ceilingAt key) :
    c.lookup root key name = d.lookup root key name := by
  by_cases tiers : root = "playerLevels"
  · subst tiers
    by_cases spent : name = "totalAmountSpent"
    · subst spent
      rw [lookup_spent, lookup_spent, counts]
    by_cases players : name = "totalPlayerCount"
    · subst players
      rw [lookup_players, lookup_players, counts]
    by_cases ceiling : name = "nextPlayerBudget"
    · subst ceiling
      rw [lookup_ceiling, lookup_ceiling, ceilings rfl]
    · have unknown : TierAggregate.reader? name = none := by
        unfold TierAggregate.reader?
        split <;> trivial
      simp only [lookup, readRecord, unknown]
  · unfold lookup
    split
    · exact absurd rfl tiers
    · rfl
    · rfl
    · rfl

end Context

namespace Expr

variable {c d : Context} {e lhs rhs : Expr} {op : BinaryOp}

/-- The keys under which an expression reads the ceiling. -/
def ceilingKeys : Expr → List String
  | .literal _ => []
  | .field _ _ => []
  | .lookup _ key name => if name = "nextPlayerBudget" then [key] else []
  | .neg inner => inner.ceilingKeys
  | .binary _ lhs rhs => lhs.ceilingKeys ++ rhs.ceilingKeys

/-- Two contexts in which an expression reads the same. -/
structure ReadsAlike (e : Expr) (c d : Context) : Prop where
  team : c.team = d.team
  season : c.season = d.season
  counts : ∀ key ∈ e.keys, c.counts key = d.counts key
  ceilings : ∀ key ∈ e.ceilingKeys, c.ceilingAt key = d.ceilingAt key

namespace ReadsAlike

theorem left (alike : ReadsAlike (.binary op lhs rhs) c d) : ReadsAlike lhs c d where
  team := alike.team
  season := alike.season
  counts := fun key member => alike.counts key (List.mem_append_left _ member)
  ceilings := fun key member => alike.ceilings key (List.mem_append_left _ member)

theorem right (alike : ReadsAlike (.binary op lhs rhs) c d) : ReadsAlike rhs c d where
  team := alike.team
  season := alike.season
  counts := fun key member => alike.counts key (List.mem_append_right _ member)
  ceilings := fun key member => alike.ceilings key (List.mem_append_right _ member)

/-- An expression that reads the same has the same value, or the same fault. -/
theorem eval_eq (alike : ReadsAlike e c d) : e.eval c = e.eval d := by
  induction e with
  | literal value => rfl
  | field root name =>
      have same : c.field root name = d.field root name := by
        unfold Context.field
        rw [alike.team, alike.season]
      rw [eval, eval, same]
  | lookup root key name =>
      have same : c.lookup root key name = d.lookup root key name := by
        refine Context.lookup_congr (alike.counts key (by simp [keys])) fun ceiling => ?_
        exact alike.ceilings key (by simp [ceilingKeys, ceiling])
      rw [eval, eval, same]
  | neg inner ih =>
      have same : inner.eval c = inner.eval d :=
        ih ⟨alike.team, alike.season, alike.counts, alike.ceilings⟩
      rw [eval, eval, same]
  | binary op lhs rhs left right => rw [eval, eval, left alike.left, right alike.right]

end ReadsAlike
end Expr

/-- A rule whose expression reads the same leaves the same allowance, or has the same fault. -/
theorem CompiledRule.remaining_congr {c d : Context} {compiled : CompiledRule}
    (alike : compiled.expression.ReadsAlike c d) : compiled.remaining c = compiled.remaining d := by
  rw [remaining, remaining, total, total, Expr.evaluate, Expr.evaluate, alike.eval_eq]

end AuctionBudget
