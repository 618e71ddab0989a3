import AuctionBudget.Proofs.Number.Overflow
import AuctionBudget.Proofs.Rule.Allowance
import AuctionBudget.Proofs.Rule.Compiled
import AuctionBudget.Proofs.Rule.Minimum

/-! # Allowances without a limit

An operation inside an expression is refused when its result is not finite. The arithmetic behind it
is not looked at: a difference is multiplied by a hundred to be rounded, which leaves the finite
numbers from one float on, and the allowance is infinite from there.
-/

namespace AuctionBudget.Rule

open Number Float.Model Float.Model.UnpackedFloat

variable {x y : Float} {q : ℚ}

/-- Rounding to cents keeps the order of what is not negative, up to the infinite float. -/
theorem inOrder_roundHalfUp (order : InOrder x y) : InOrder (roundHalfUp x) (roundHalfUp y) := by
  have scaled := order.mul_right value?_hundred (by norm_num)
  have hair := scaled.abs.mul_right value?_hair (by positivity)
  have half : InOrder 0.5 0.5 := .refl ((le_iff value?_zero value?_half).2 (by norm_num))
  exact ((scaled.add hair).add half).floor.div_right value?_hundred (by norm_num)

/-- Only the hundredfold is looked at. -/
theorem roundHalfUp_congr
    (same : (x * 100.0).toModel.unpack = (y * 100.0).toModel.unpack) :
    roundHalfUp x = roundHalfUp y := by
  have magnitude : (x * 100.0).abs = (y * 100.0).abs :=
    congrArg (fun u => Float.ofModel (.pack (abs u))) same
  have moved (hair : Float) : x * 100.0 + hair = y * 100.0 + hair :=
    congrArg (fun u => Float.ofModel (.pack (add .binary64 u hair.toModel.unpack))) same
  rw [roundHalfUp_eq, roundHalfUp_eq, lifted, lifted, magnitude, moved]

/-- The infinite float below all others and its hair make no number. -/
theorem not_lt_roundHalfUp_neg_infinity : ¬ 0.0 < roundHalfUp (-1.0 / 0.0) := by
  decide +kernel

/-- The hair of what is not positive is too small to make up for it, so that only the half lies above
    zero. -/
theorem exists_lifted_le {s : ℚ} (scaled : value? (x * 100.0) = some s) (below : s ≤ 0) :
    ∃ l, value? (lifted x) = some l ∧ l ≤ 1 / 2 := by
  have size := abs_of_nonpos below
  have magnitude := value?_abs scaled
  have part : |s| * (4951760157141521 * 2 ^ (-92 : ℤ)) ≤ |s| :=
    mul_le_of_le_one_right (abs_nonneg s) (by norm_num)
  obtain ⟨finiteHair, nonnegHair, smallHair⟩ :=
    abs_rounded_lt_of_between value?_zero magnitude (by positivity) part
  have hair := value?_mul magnitude value?_hair finiteHair
  generalize rounded (|s| * _) = t at hair nonnegHair smallHair
  obtain ⟨finiteMoved, -, highMoved⟩ :=
    abs_rounded_lt_of_between scaled value?_zero (by linarith : s ≤ s + t) (by linarith)
  have moved := value?_add scaled hair finiteMoved
  generalize rounded (s + t) = m at moved highMoved
  obtain ⟨finiteLifted, -, highLifted⟩ :=
    abs_rounded_lt_of_between moved value?_half (by linarith : m ≤ m + 1 / 2) (by linarith)
  exact ⟨_, value?_add moved value?_half finiteLifted, highLifted⟩

/-- What has a value that is not positive is rounded to nothing. -/
theorem not_lt_roundHalfUp (value : value? x = some q) (negative : q ≤ 0) :
    ¬ 0.0 < roundHalfUp x := by
  have below : rounded (q * 100) ≤ 0 := by
    have mono := rounded_mono (by linarith : q * 100 ≤ 0)
    rwa [rounded_zero] at mono
  have notLarge := below.trans_lt (pow_pos two_pos 1024)
  by_cases low : rounded (q * 100) ≤ -2 ^ 1024
  -- The hundredfold is infinite, and what is added to it too, with the other sign.
  · have infinite : roundedPlace (q * 100) = ⊥ := by
      rw [roundedPlace, if_neg notLarge.not_ge, if_pos low]
    have place := place?_mul value value?_hundred
    have taken := unpack_of_place?_bot (place.trans (congrArg some infinite))
    rw [roundHalfUp_congr (y := -1.0 / 0.0) taken]
    exact not_lt_roundHalfUp_neg_infinity
  · have finite : |rounded (q * 100)| < 2 ^ 1024 := abs_lt.2 ⟨not_le.1 low, notLarge⟩
    obtain ⟨l, lifts, most⟩ := exists_lifted_le (value?_mul value value?_hundred finite) below
    have whole : ⌊l⌋ ≤ 0 := Int.lt_add_one_iff.1 (Int.floor_lt.2 (by push_cast; linarith))
    have quotient := place?_div (value?_floor lifts) value?_hundred (by norm_num)
    rw [roundHalfUp_eq, lt_iff_place (place?_of_value? value?_zero) quotient, not_lt,
      ← roundedPlace_zero]
    refine roundedPlace_mono (div_nonpos_of_nonpos_of_nonneg ?_ (by norm_num))
    exact_mod_cast whole

/-- Only what is not negative is rounded to something positive. -/
theorem nonneg_of_roundHalfUp_pos (more : 0.0 < roundHalfUp x) : 0.0 ≤ x := by
  have hundredfold {y : Float} (same : x.toModel.unpack = y.toModel.unpack) :
      roundHalfUp x = roundHalfUp y :=
    roundHalfUp_congr
      (congrArg (fun u => (pack (mul .binary64 u (100.0 : Float).toModel.unpack)).unpack) same)
  cases taken : x.toModel.unpack with
  | notANumber =>
      rw [hundredfold (y := 0.0 / 0.0) (taken.trans rfl)] at more
      exact absurd more (by decide)
  | infinity sign =>
      cases sign with
      | negative =>
          rw [hundredfold (y := -1.0 / 0.0) (taken.trans rfl)] at more
          exact absurd more not_lt_roundHalfUp_neg_infinity
      | positive => exact nonneg_of_place (congrArg placeOf? taken) le_top
  | zero | finite =>
      have value := congrArg meant? taken
      refine (le_iff value?_zero value).2 (le_of_not_ge fun negative => ?_)
      exact not_lt_roundHalfUp value negative more

/-- The largest difference that is rounded to a finite number. -/
def largestLeft : Float := 1.797693134860518e306

/-- The next float. -/
def firstUnlimited : Float := 1.7976931348605184e306

theorem bits_largestLeft : largestLeft = Float.ofBits 0x7f847ae147adfdf6 ∧
    firstUnlimited = Float.ofBits 0x7f847ae147adfdf7 := by
  decide +kernel

theorem value?_largestLeft :
    value? largestLeft = some ((5764607523028470 : ℕ) * (2 : ℚ) ^ (965 : ℤ)) := by
  have taken : (Float.ofBits 0x7f847ae147adfdf6).toModel.unpack =
      .finite .positive 5764607523028470 965 (by decide) := rfl
  rw [bits_largestLeft.1, value?, taken, meant?, signed_positive]

theorem value?_firstUnlimited :
    value? firstUnlimited = some (((5764607523028470 : ℕ) + 1) * (2 : ℚ) ^ (965 : ℤ)) := by
  have taken : (Float.ofBits 0x7f847ae147adfdf7).toModel.unpack =
      .finite .positive (5764607523028470 + 1) 965 (by decide) := rfl
  rw [bits_largestLeft.2, value?, taken, meant?, signed_positive, Nat.cast_add_one]

theorem isInf_roundHalfUp_largestLeft : (roundHalfUp largestLeft).isInf = false ∧
    (roundHalfUp firstUnlimited).isInf = true := by
  decide +kernel

theorem firstUnlimited_le (more : largestLeft < x) : firstUnlimited ≤ x := by
  obtain ⟨p, place⟩ := isNaN_eq_false_iff.1 (isNaN_of_lt more).2
  have order := (lt_iff_place (place?_of_value? value?_largestLeft) place).1 more
  rcases placeOf?_eq_some place with ⟨-, rfl⟩ | ⟨-, rfl⟩ | ⟨q, meant, rfl⟩
  · exact absurd order not_lt_bot
  · exact (le_iff_place (place?_of_value? value?_firstUnlimited) place).2 le_top
  · have above := (lt_iff value?_largestLeft meant).1 more
    exact (le_iff value?_firstUnlimited meant).2
      (add_one_mul_two_zpow_le meant (by norm_num) above)

/-- An allowance is infinite where the difference is larger than what can be rounded, and only
    there. -/
theorem isInf_remaining_iff (threshold : Float) (operator : Operator) (total : Float) :
    (remaining threshold operator total).isInf = true ↔
      largestLeft < adjustedThreshold threshold operator - total := by
  unfold remaining
  dsimp only
  generalize adjustedThreshold threshold operator - total = left
  obtain ⟨finiteLargest, infiniteNext⟩ := isInf_roundHalfUp_largestLeft
  have numberLargest := isNaN_eq_false_iff.2 ⟨_, place?_of_value? value?_largestLeft⟩
  constructor
  · intro infinite
    split at infinite
    · next some =>
        by_contra notMore
        have nonneg := nonneg_of_roundHalfUp_pos some
        have within := Number.le_of_not_lt numberLargest (isNaN_of_le nonneg).2 notMore
        have top := place?_top_of_isInf (Number.le_of_lt some) infinite
        have limit := place?_top_of_le top (inOrder_roundHalfUp ⟨nonneg, within⟩).le
        rw [isInf_of_place?_top limit] at finiteLargest
        cases finiteLargest
    · cases infinite
  · intro more
    have nonneg : 0.0 ≤ firstUnlimited := (le_iff value?_zero value?_firstUnlimited).2 (by positivity)
    have order := inOrder_roundHalfUp ⟨nonneg, firstUnlimited_le more⟩
    have top := place?_top_of_le (place?_top_of_isInf order.nonneg infiniteNext) order.le
    have positive : 0.0 < roundHalfUp left :=
      (lt_iff_place (place?_of_value? value?_zero) top).2 (WithBot.coe_lt_coe.2 (WithTop.coe_lt_top 0))
    rw [if_pos positive]
    exact isInf_of_place?_top top

/-- A rule is refused in a context, or leaves a number that is not negative. That number is infinite
    where the total is further below the adjusted threshold than can be rounded. -/
theorem evaluate_outcome (rule : Rule) (context : Context) :
    (∃ error, rule.evaluate context = .error error) ∨
      ∃ compiled total x, rule.compile = .ok compiled ∧ compiled.total context = .ok total ∧
        rule.evaluate context = .ok x ∧ 0.0 ≤ x ∧ x.isNaN = false ∧
        (x.isFinite = true ↔ ¬ largestLeft <
          adjustedThreshold compiled.comparison.threshold compiled.comparison.operator - total) := by
  cases evaluates : rule.evaluate context with
  | error error => exact .inl ⟨error, rfl⟩
  | ok x =>
      obtain ⟨compiled, total, compiles, totals, rfl⟩ := evaluate_eq_ok evaluates
      have number := isNaN_remaining compiled.comparison.threshold compiled.comparison.operator total
      refine .inr ⟨compiled, total, _, compiles, totals, rfl, zero_le_remaining _ _ _, number, ?_⟩
      rw [isFinite_eq number, ← isInf_remaining_iff, Bool.not_eq_true', Bool.not_eq_true]

/-- The number of players of a team. -/
def playersTotal : KnownField TeamTotals.reader? := ⟨"totalPlayer", _, rfl⟩

/-- A one and 307 zeros. -/
def manyDigits : List Char :=
  '1' :: List.replicate 307 '0'

theorem isDigits_manyDigits : IsDigits manyDigits := by
  refine ⟨List.cons_ne_nil _ _, fun c member => ?_⟩
  rw [manyDigits, List.mem_cons] at member
  rcases member with rfl | zero
  · decide
  · rw [List.eq_of_mem_replicate zero]
    decide

/-- A rule whose threshold is finite, but not a hundred times the threshold. -/
def generous : Rule :=
  { mixedRule with
    statement := "team.totalPlayer <= " ++ String.ofList manyDigits
    shorthand := .empty }

theorem compile_generous : ∃ left, generous.compile = .ok {
    comparison := ⟨left, .atMost, Number.ofDigits manyDigits []⟩
    expression := .field "team" playersTotal.name } := by
  have unchanged : expand generous.shorthand generous.statement = generous.statement := by
    have none : generous.shorthand.entries = [] := rfl
    rw [expand, none, List.foldl_nil, String.ofList_toList]
  have text : generous.statement.toList =
      [] ++ ("team".toList ++ '.' :: playersTotal.name.toList) ++
        ([' '] ++ "<=".toList ++ [' '] ++ manyDigits ++ []) := by
    simp [generous, playersTotal]
  have blank : Gap [' '] := List.forall_mem_singleton.2 (by decide)
  have total := Writes.term (.factor (.primary (.operand
    (@Operand.team (TierName.Known []) playersTotal))))
  have spelled : ("<=", .atMost) ∈ Operator.spellings := by decide
  have states := States.mk .nil total (by decide) blank spelled (by decide) blank
    (.unsigned (.whole isDigits_manyDigits)) .nil
  rw [← text] at states
  obtain ⟨s, writes, reads⟩ := Comparison.read_eq states
  have parses : Comparison.parse (expand generous.shorthand generous.statement) =
      .ok ⟨String.ofList s, .atMost, Number.ofDigits manyDigits []⟩ := by
    rw [unchanged, Comparison.parse, reads]
    rfl
  exact ⟨_, compile_eq_ok states.isAllBlank_eq parses rfl
    (parse_of_writes (writes_indexPaths (.inl rfl) writes))⟩

/-- Without players it leaves more than every number. -/
theorem not_finite_generous : generous.active = true ∧
    generous.evaluate .empty = .ok (1.0 / 0.0) ∧ (1.0 / 0.0 : Float).isFinite = false := by
  obtain ⟨left, compiles⟩ := compile_generous
  have infinite : remaining (Number.ofDigits manyDigits []) .atMost 0.0 = 1.0 / 0.0 := by
    decide +kernel
  refine ⟨rfl, ?_, rfl⟩
  rw [evaluate_eq rfl compiles, ← infinite]
  rfl

end AuctionBudget.Rule
