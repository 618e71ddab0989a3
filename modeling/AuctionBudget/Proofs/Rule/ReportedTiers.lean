import AuctionBudget.Auction.Tally
import AuctionBudget.Proofs.Auction.Allowances
import AuctionBudget.Proofs.Expr.Reading

/-! # Rules read only the tiers that they report

A tier that is missing reads like one on which nothing was spent. So contexts with the same team and
season that agree on the reported tiers in this sense cannot be told apart by a rule, whatever else
they hold.
-/

namespace AuctionBudget

namespace Context

variable {c d : Context} {codes : List String} {code key : String} {tier : TierAggregate}

/-- A tier as rules see it: one that is missing counts as empty. -/
def tierOrZero (context : Context) (code : String) : TierAggregate :=
  (context.tier? code).getD (.zero code)

theorem counts_eq (context : Context) (key : String) :
    context.counts key = ((context.tierOrZero key).spent, (context.tierOrZero key).players) := by
  unfold counts tierOrZero
  cases context.tier? key with
  | none => rfl
  | some tier => rfl

theorem ceilingAt_eq (context : Context) (key : String) :
    context.ceilingAt key = (context.tierOrZero key).ceiling.getD 0 := by
  unfold ceilingAt tierOrZero
  cases context.tier? key with
  | none => rfl
  | some tier => rfl

/-- Two contexts have the same team and season, and the same tiers under some codes. -/
structure AgreeOn (codes : List String) (c d : Context) : Prop where
  team : c.team = d.team
  season : c.season = d.season
  tiers : ∀ code ∈ codes, c.tierOrZero code = d.tierOrZero code

/-- Drop a tier. -/
def withoutTier (context : Context) (code : String) : Context :=
  { context with tiers := context.tiers.filter (·.code ≠ code) }

theorem tier?_withoutTier (context : Context) (code key : String) :
    (context.withoutTier code).tier? key = if key = code then none else context.tier? key := by
  rw [tier?, withoutTier, List.find?_filter]
  split
  · next same =>
      rw [List.find?_eq_none]
      intro tier _
      simp [same]
  · next other =>
      have kept : (fun t : TierAggregate => decide (decide (t.code ≠ code) = true ∧
          decide (t.code = key) = true)) = fun t => decide (t.code = key) := by
        funext t
        by_cases found : t.code = key
        · simp [found, other]
        · simp [found]
      rw [kept, tier?]

theorem agreeOn_withTier (other : tier.code ∉ codes) : AgreeOn codes (c.withTier tier) c where
  team := rfl
  season := rfl
  tiers key member := by
    have apart : key ≠ tier.code := by
      rintro rfl
      exact other member
    rw [tierOrZero, tier?_withTier, if_neg apart, tierOrZero]

theorem agreeOn_withoutTier (other : code ∉ codes) : AgreeOn codes (c.withoutTier code) c where
  team := rfl
  season := rfl
  tiers key member := by
    have apart : key ≠ code := by
      rintro rfl
      exact other member
    rw [tierOrZero, tier?_withoutTier, if_neg apart, tierOrZero]

/-- An empty tier is like a missing one. -/
theorem agreeOn_withZero (missing : c.tier? code = none) :
    AgreeOn codes (c.withTier (.zero code)) c where
  team := rfl
  season := rfl
  tiers key member := by
    rw [tierOrZero, tier?_withTier, tierOrZero]
    split
    · next same =>
        obtain rfl : key = code := same
        rw [missing]
        rfl
    · rfl

end Context

namespace Expr

variable {e : Expr} {c d : Context} {key : String}

theorem mem_keys_of_mem_ceilingKeys (member : key ∈ e.ceilingKeys) : key ∈ e.keys := by
  induction e with
  | literal | field => cases member
  | lookup root other name =>
      unfold ceilingKeys at member
      split at member
      · exact member
      · cases member
  | neg inner ih => exact ih member
  | binary op lhs rhs left right =>
      rcases List.mem_append.1 member with inLeft | inRight
      · exact List.mem_append_left _ (left inLeft)
      · exact List.mem_append_right _ (right inRight)

/-- The tiers that are reported are all that an expression reads. -/
theorem readsAlike_of_agreeOn (agree : Context.AgreeOn e.referencedTiers c d) :
    e.ReadsAlike c d where
  team := agree.team
  season := agree.season
  counts key member := by
    rw [Context.counts_eq, Context.counts_eq, agree.tiers key (mem_referencedTiers.2 member)]
  ceilings key member := by
    have read := mem_keys_of_mem_ceilingKeys member
    rw [Context.ceilingAt_eq, Context.ceilingAt_eq, agree.tiers key (mem_referencedTiers.2 read)]

end Expr

namespace Rule

variable {rule : Rule} {compiled : CompiledRule} {c d : Context}

/-- A rule yields the same in two contexts, a value or a fault. -/
structure YieldsAlike (rule : Rule) (compiled : CompiledRule) (c d : Context) : Prop where
  total : compiled.total c = compiled.total d
  remaining : compiled.remaining c = compiled.remaining d
  evaluate : rule.evaluate c = rule.evaluate d

theorem yieldsAlike_of_agreeOn (compiles : rule.compile = .ok compiled)
    (agree : Context.AgreeOn compiled.referencedTiers c d) : YieldsAlike rule compiled c d := by
  have alike := Expr.readsAlike_of_agreeOn agree
  have remaining := CompiledRule.remaining_congr alike
  refine ⟨by rw [CompiledRule.total, CompiledRule.total, Expr.evaluate, Expr.evaluate,
    alike.eval_eq], remaining, ?_⟩
  rw [evaluate, evaluate, compiles]
  simp only [bind, Except.bind, remaining]

/-- What a rule yields depends on the tiers that it reports and on no others. -/
theorem reported_decide (compiles : rule.compile = .ok compiled) :
    (∀ c d, Context.AgreeOn compiled.referencedTiers c d → YieldsAlike rule compiled c d) ∧
      (∀ (c : Context) tier, tier.code ∉ compiled.referencedTiers →
        YieldsAlike rule compiled (c.withTier tier) c) ∧
      (∀ (c : Context) code, code ∉ compiled.referencedTiers →
        YieldsAlike rule compiled (c.withoutTier code) c) ∧
      (∀ (c : Context) code, c.tier? code = none →
        YieldsAlike rule compiled (c.withTier (.zero code)) c) :=
  ⟨fun _ _ => yieldsAlike_of_agreeOn compiles,
    fun _ _ other => yieldsAlike_of_agreeOn compiles (Context.agreeOn_withTier other),
    fun _ _ other => yieldsAlike_of_agreeOn compiles (Context.agreeOn_withoutTier other),
    fun _ _ missing => yieldsAlike_of_agreeOn compiles (Context.agreeOn_withZero missing)⟩

/-- A rule on the tier `l1` does not see the tier `l2`, nor that `l1` is missing. -/
theorem reported_limiting :
    ∃ compiled, (limiting spentField.name).compile = .ok compiled ∧
      YieldsAlike (limiting spentField.name) compiled
        (Context.empty.withTier ⟨"l2", ⟨50⟩, 1, some ⟨3⟩⟩) Context.empty ∧
      YieldsAlike (limiting spentField.name) compiled
        ((Context.empty.withTier ⟨"l2", ⟨50⟩, 1, none⟩).withoutTier "l2")
        (Context.empty.withTier ⟨"l2", ⟨50⟩, 1, none⟩) ∧
      YieldsAlike (limiting spentField.name) compiled
        (Context.empty.withTier (.zero "l1")) Context.empty ∧
      YieldsAlike (limiting spentField.name) compiled
        ⟨none, none, [.zero "l1", ⟨"l3", ⟨7⟩, 1, none⟩]⟩ Context.empty := by
  have compiles : (limiting spentField.name).compile = .ok _ := compile_limiting (.inl rfl)
  obtain ⟨all, added, dropped, zero⟩ := reported_decide compiles
  refine ⟨_, compiles, added _ _ (by decide +kernel), dropped _ _ (by decide +kernel),
    zero _ _ rfl, all _ _ ⟨rfl, rfl, ?_⟩⟩
  decide +kernel

end Rule
end AuctionBudget
