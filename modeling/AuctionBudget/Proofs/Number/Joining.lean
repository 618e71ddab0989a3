import AuctionBudget.Proofs.Number.Value

/-! # Sums and products of many numbers

When numbers are added or multiplied one after another, each step rounds, and so the result can
depend on their order. It does not where the exact result is one of binary64 whichever of the
numbers are joined: then nothing is rounded. In all other cases the result is off the exact one by
about half a last place for each step, measured against the result without signs, as long as no
product is so small that digits are lost.
-/

namespace AuctionBudget.Number

section Step

variable {p q : ℚ}

/-- The number is one of binary64. -/
def IsBinary64 (q : ℚ) : Prop :=
  ∃ x, value? x = some q

/-- The number lies on the grid of the smallest numbers. -/
def OnFinestGrid (q : ℚ) : Prop :=
  ∃ n : ℤ, q = n * 2 ^ (-1074 : ℤ)

theorem onFinestGrid_rounded (q : ℚ) : OnFinestGrid (rounded q) := by
  obtain ⟨steps, same⟩ := Int.eq_ofNat_of_zero_le (sub_nonneg.2 (le_gridExponent q))
  refine ⟨nearestEven (q / 2 ^ gridExponent q) * 2 ^ steps, ?_⟩
  have split : (2 : ℚ) ^ gridExponent q = 2 ^ steps * 2 ^ (-1074 : ℤ) := by
    rw [← zpow_natCast, ← zpow_add₀ two_ne_zero]
    congr 1
    omega
  rw [rounded, Int.cast_mul, Int.cast_pow, Int.cast_ofNat, mul_assoc, ← split]

theorem IsBinary64.onFinestGrid (number : IsBinary64 q) : OnFinestGrid q := by
  obtain ⟨x, value⟩ := number
  have grid := onFinestGrid_rounded q
  rwa [rounded_value value] at grid

theorem OnFinestGrid.add (left : OnFinestGrid p) (right : OnFinestGrid q) :
    OnFinestGrid (p + q) := by
  obtain ⟨n, rfl⟩ := left
  obtain ⟨m, rfl⟩ := right
  exact ⟨n + m, by rw [Int.cast_add, add_mul]⟩

/-- Where no digits below the finest grid are lost, rounding moves a number by half a last place. -/
theorem abs_rounded_sub_le_mul (kept : OnFinestGrid q ∨ 2 ^ (-1022 : ℤ) ≤ |q|) :
    |rounded q - q| ≤ 1 / 2 ^ 53 * |q| := by
  by_cases zero : q = 0
  · subst zero
    simp
  by_cases finest : OnFinestGrid q ∧ gridExponent q ≤ -1074
  · obtain ⟨⟨n, rfl⟩, coarse⟩ := finest
    rw [rounded_of_gridExponent_le coarse, sub_self, abs_zero]
    positivity
  · have normal : gridExponent q = Int.log 2 |q| - 52 := by
      refine max_eq_left ?_
      rcases kept with grid | large
      · have above : ¬ gridExponent q ≤ -1074 := fun coarse => finest ⟨grid, coarse⟩
        rw [gridExponent] at above
        omega
      · have := (Int.zpow_le_iff_le_log (b := 2) (by decide) (abs_pos.2 zero)).1
          (by exact_mod_cast large)
        omega
    have power : (2 : ℚ) ^ Int.log 2 |q| ≤ |q| := by
      exact_mod_cast Int.zpow_log_le_self (b := 2) (by decide) (abs_pos.2 zero)
    calc |rounded q - q| ≤ 2 ^ gridExponent q / 2 := abs_rounded_sub_le_grid q
      _ = 1 / 2 ^ 53 * 2 ^ Int.log 2 |q| := by
          rw [normal, zpow_sub₀ two_ne_zero]
          norm_num
          ring
      _ ≤ 1 / 2 ^ 53 * |q| := mul_le_mul_of_nonneg_left power (by positivity)

end Step

/-- The two ways of making one number of many, whatever their order. -/
inductive Joining where
  | sum
  | product

namespace Joining

variable {kind : Joining} {p q c s ε : ℚ} {ps qs : List ℚ}

def join : Joining → ℚ → ℚ → ℚ
  | .sum, p, q => p + q
  | .product, p, q => p * q

/-- The exact result for all numbers. -/
def total : Joining → List ℚ → ℚ
  | .sum, qs => qs.sum
  | .product, qs => qs.prod

/-- The result that the numbers would have without their signs. -/
def size (kind : Joining) (qs : List ℚ) : ℚ :=
  kind.total (qs.map abs)

@[simp] theorem total_singleton : kind.total [p] = p := by
  cases kind with
  | sum => exact List.sum_singleton
  | product => exact List.prod_singleton

theorem total_cons : kind.total (q :: qs) = kind.join q (kind.total qs) := by
  cases kind with
  | sum => exact List.sum_cons
  | product => exact List.prod_cons

theorem total_cons_cons : kind.total (p :: q :: qs) = kind.total (kind.join p q :: qs) := by
  rw [total_cons, total_cons, total_cons]
  cases kind with
  | sum => exact (add_assoc p q _).symm
  | product => exact (mul_assoc p q _).symm

theorem total_concat : kind.total (qs ++ [q]) = kind.join (kind.total qs) q := by
  cases kind with
  | sum => simp [total, join]
  | product => simp [total, join]

theorem total_perm (same : ps.Perm qs) : kind.total ps = kind.total qs := by
  cases kind with
  | sum => exact same.sum_eq
  | product => exact same.prod_eq

theorem size_concat : kind.size (qs ++ [q]) = kind.join (kind.size qs) |q| := by
  rw [size, List.map_append]
  exact total_concat

theorem size_perm (same : ps.Perm qs) : kind.size ps = kind.size qs :=
  total_perm (same.map abs)

theorem size_cons : kind.size (q :: qs) = kind.join |q| (kind.size qs) :=
  total_cons

theorem size_product : size .product qs = |total .product qs| := by
  induction qs with
  | nil => simp [size, total]
  | cons q qs ih =>
      rw [size_cons, total_cons, ih]
      exact (abs_mul _ _).symm

theorem abs_total_le_size : |kind.total qs| ≤ kind.size qs := by
  cases kind with
  | sum =>
      induction qs with
      | nil => simp [total, size]
      | cons q qs ih =>
          rw [size_cons, total_cons]
          exact (abs_add_le _ _).trans (add_le_add_right ih _)
  | product => exact size_product.ge

/-- Whichever of the numbers are joined, the exact result is one of binary64. -/
def Exact (kind : Joining) (qs : List ℚ) : Prop :=
  ∀ ps, List.Subperm ps qs → IsBinary64 (kind.total ps)

theorem Exact.of_subperm (exact : kind.Exact qs) (some : List.Subperm ps qs) : kind.Exact ps :=
  fun _ fewer => exact _ (fewer.trans some)

/-- A bound of what any of the whole numbers can make. -/
def reach : Joining → List ℤ → ℤ
  | .sum, ns => (ns.map fun n => |n|).sum
  | .product, ns => (ns.map fun n => max 1 |n|).prod

theorem reach_sum_cons (n : ℤ) (ns : List ℤ) : reach .sum (n :: ns) = |n| + reach .sum ns :=
  List.sum_cons

theorem reach_product_cons (n : ℤ) (ns : List ℤ) :
    reach .product (n :: ns) = max 1 |n| * reach .product ns :=
  List.prod_cons

theorem one_le_reach_product (ns : List ℤ) : 1 ≤ reach .product ns := by
  induction ns with
  | nil => exact le_rfl
  | cons n ns ih =>
      rw [reach_product_cons]
      exact one_le_mul_of_one_le_of_one_le (le_max_left _ _) ih

/-- What some of the whole numbers make is whole and within their reach. -/
theorem total_whole (kind : Joining) {ms ns : List ℤ} (some : List.Sublist ms ns) :
    ∃ n : ℤ, kind.total (ms.map (↑)) = n ∧ |n| ≤ kind.reach ns := by
  induction some with
  | slnil =>
      cases kind with
      | sum => exact ⟨0, by simp [total], le_rfl⟩
      | product => exact ⟨1, by simp [total], le_rfl⟩
  | cons m _ ih =>
      obtain ⟨n, whole, within⟩ := ih
      refine ⟨n, whole, within.trans ?_⟩
      cases kind with
      | sum =>
          rw [reach_sum_cons]
          exact le_add_of_nonneg_left (abs_nonneg m)
      | product =>
          rw [reach_product_cons]
          exact le_mul_of_one_le_left (zero_le_one.trans (one_le_reach_product _)) (le_max_left _ _)
  | cons_cons m _ ih =>
      obtain ⟨n, whole, within⟩ := ih
      cases kind with
      | sum =>
          refine ⟨m + n, ?_, ?_⟩
          · rw [List.map_cons, total_cons, whole]
            exact (Int.cast_add m n).symm
          · rw [reach_sum_cons]
            exact (abs_add_le m n).trans (add_le_add_right within _)
      | product =>
          refine ⟨m * n, ?_, ?_⟩
          · rw [List.map_cons, total_cons, whole]
            exact (Int.cast_mul m n).symm
          · rw [reach_product_cons, abs_mul]
            exact mul_le_mul (le_max_right _ _) within (abs_nonneg n) (by positivity)

theorem total_whole_of_subperm (kind : Joining) {ns : List ℤ}
    (some : List.Subperm ps (ns.map (↑))) : ∃ n : ℤ, kind.total ps = n ∧ |n| ≤ kind.reach ns := by
  obtain ⟨ordered, same, sub⟩ := some
  obtain ⟨ms, fewer, rfl⟩ := List.sublist_map_iff.1 sub
  rw [← total_perm same]
  exact total_whole kind fewer

/-- Whole numbers are exact as long as they do not reach beyond `2 ^ 53`. -/
theorem exact_of_whole {ns : List ℤ} (small : kind.reach ns ≤ 2 ^ 53) :
    kind.Exact (ns.map (↑)) := by
  intro ps some
  obtain ⟨n, whole, within⟩ := total_whole_of_subperm kind some
  refine ⟨ofInt n, ?_⟩
  rw [whole]
  exact value?_ofInt (within.trans small)

/-- The result of joining from the left when each step is rounded. -/
def roundedTotal (kind : Joining) (first : ℚ) (rest : List ℚ) : ℚ :=
  rest.foldl (fun sofar q => rounded (kind.join sofar q)) first

theorem roundedTotal_concat :
    kind.roundedTotal p (qs ++ [q]) = rounded (kind.join (kind.roundedTotal p qs) q) := by
  rw [roundedTotal, List.foldl_append]
  rfl

/-- The bound of the relative error of so many rounded steps. -/
def growth (steps : ℕ) : ℚ :=
  (1 + 1 / 2 ^ 53) ^ steps - 1

theorem growth_succ (steps : ℕ) :
    growth (steps + 1) = 1 / 2 ^ 53 * (1 + growth steps) + growth steps := by
  unfold growth
  ring

theorem growth_nonneg (steps : ℕ) : 0 ≤ growth steps :=
  sub_nonneg.2 (one_le_pow₀ (by norm_num))

theorem growth_mono {fewer more : ℕ} (le : fewer ≤ more) : growth fewer ≤ growth more :=
  sub_le_sub_right (pow_le_pow_right₀ (by norm_num) le) 1

/-- A step from a result that is off a little: the error grows like the result without signs. -/
theorem abs_join_sub_le {a : ℚ} (kind : Joining) (q : ℚ) (bound : |s| ≤ a) (nonneg : 0 ≤ ε)
    (close : |c - s| ≤ ε * a) :
    |kind.join c q - kind.join s q| ≤ ε * kind.join a |q| ∧
      |kind.join c q| ≤ (1 + ε) * kind.join a |q| := by
  have magnitude : |c| ≤ (1 + ε) * a := by
    have := abs_sub_abs_le_abs_sub c s
    linarith
  have more := abs_nonneg q
  cases kind with
  | sum =>
      simp only [join]
      constructor
      · calc |c + q - (s + q)| = |c - s| := by rw [add_sub_add_right_eq_sub]
          _ ≤ ε * (a + |q|) := by linarith [mul_nonneg nonneg more]
      · calc |c + q| ≤ |c| + |q| := abs_add_le c q
          _ ≤ (1 + ε) * (a + |q|) := by linarith [mul_nonneg nonneg more]
  | product =>
      simp only [join]
      constructor
      · calc |c * q - s * q| = |c - s| * |q| := by rw [← sub_mul, abs_mul]
          _ ≤ ε * a * |q| := mul_le_mul_of_nonneg_right close more
          _ = ε * (a * |q|) := mul_assoc _ _ _
      · calc |c * q| = |c| * |q| := abs_mul c q
          _ ≤ (1 + ε) * a * |q| := mul_le_mul_of_nonneg_right magnitude more
          _ = (1 + ε) * (a * |q|) := mul_assoc _ _ _

/-- No product of some of the numbers is so small that digits are lost, even where it is off as much
as that of so many numbers can be. -/
def Ample (kind : Joining) (qs : List ℚ) : Prop :=
  kind = .product → ∀ ps, List.Subperm ps qs →
    kind.total ps = 0 ∨ 2 ^ (-1022 : ℤ) ≤ (1 - growth qs.length) * |kind.total ps|

theorem ample_sum : Ample .sum qs :=
  nofun

theorem Ample.of_subperm (ample : kind.Ample qs) (some : List.Subperm ps qs) : kind.Ample ps := by
  intro product os fewer
  rcases ample product os (fewer.trans some) with zero | large
  · exact .inl zero
  · refine .inr (large.trans ?_)
    have less := growth_mono some.length_le
    exact mul_le_mul_of_nonneg_right (by linarith) (abs_nonneg _)

/-- Products of whole numbers lose no digits, unless there are very many. -/
theorem ample_of_whole {ns : List ℤ} (few : growth ns.length ≤ 1 / 2) :
    kind.Ample (ns.map (↑)) := by
  intro _ ps some
  obtain ⟨n, whole, -⟩ := total_whole_of_subperm kind some
  rw [whole, List.length_map]
  rcases eq_or_ne n 0 with rfl | nonzero
  · exact .inl Int.cast_zero
  · have least : (1 : ℚ) ≤ |(n : ℚ)| := by exact_mod_cast Int.one_le_abs nonzero
    have half : (1 : ℚ) / 2 ≤ 1 - growth ns.length := by linarith
    refine .inr ?_
    calc (2 : ℚ) ^ (-1022 : ℤ) ≤ 2 ^ (-1 : ℤ) := zpow_le_zpow_right₀ (by norm_num) (by norm_num)
      _ = 1 / 2 * 1 := by norm_num
      _ ≤ (1 - growth ns.length) * |(n : ℚ)| :=
          mul_le_mul half least zero_le_one ((by norm_num : (0 : ℚ) ≤ 1 / 2).trans half)

/-- A step from a result that is off a little loses no digits. -/
theorem step_kept (grid : OnFinestGrid c) (number : IsBinary64 q)
    (ample : kind.Ample (p :: qs ++ [q]))
    (close : |kind.join c q - kind.join s q| ≤ growth qs.length * kind.size (p :: qs ++ [q]))
    (exact : kind.join s q = kind.total (p :: qs ++ [q])) :
    OnFinestGrid (kind.join c q) ∨ 2 ^ (-1022 : ℤ) ≤ |kind.join c q| := by
  cases kind with
  | sum => exact .inl (grid.add number.onFinestGrid)
  | product =>
      rw [exact, size_product] at close
      rcases ample rfl _ (List.Subperm.refl _) with zero | large
      · rw [zero, abs_zero, mul_zero, sub_zero, abs_nonpos_iff] at close
        exact .inl ⟨0, by rw [close]; simp⟩
      · refine .inr (large.trans ?_)
        have triangle := abs_sub_abs_le_abs_sub (total .product (p :: qs ++ [q])) (join .product c q)
        rw [abs_sub_comm] at triangle
        have less := growth_mono (show qs.length ≤ (p :: qs ++ [q]).length by simp; omega)
        have nonneg := abs_nonneg (total .product (p :: qs ++ [q]))
        linarith [mul_le_mul_of_nonneg_right less nonneg]

theorem onFinestGrid_roundedTotal (number : IsBinary64 p) :
    OnFinestGrid (kind.roundedTotal p qs) := by
  induction qs using List.reverseRecOn with
  | nil => exact number.onFinestGrid
  | append_singleton qs q _ =>
      rw [roundedTotal_concat]
      exact onFinestGrid_rounded _

/-- Each step adds half a last place of the result without signs. -/
theorem abs_roundedTotal_sub_le (numbers : ∀ q ∈ p :: qs, IsBinary64 q)
    (ample : kind.Ample (p :: qs)) :
    |kind.roundedTotal p qs - kind.total (p :: qs)| ≤
      growth qs.length * kind.size (p :: qs) := by
  induction qs using List.reverseRecOn with
  | nil => simp [roundedTotal, growth]
  | append_singleton qs q ih =>
      rw [← List.cons_append] at numbers ample ⊢
      have fewer : List.Subperm (p :: qs) (p :: qs ++ [q]) :=
        (List.sublist_append_left _ _).subperm
      have before := ih (fun r member => numbers r (List.mem_append_left _ member))
        (ample.of_subperm fewer)
      obtain ⟨carried, magnitude⟩ := abs_join_sub_le kind q abs_total_le_size
        (growth_nonneg qs.length) before
      rw [← size_concat] at carried magnitude
      have kept := step_kept (onFinestGrid_roundedTotal (numbers p (by simp)))
        (numbers q (by simp)) ample carried total_concat.symm
      rw [roundedTotal_concat, total_concat, List.length_append, List.length_singleton]
      set computed := kind.join (kind.roundedTotal p qs) q
      set exact := kind.join (kind.total (p :: qs)) q
      calc |rounded computed - exact|
          ≤ |rounded computed - computed| + |computed - exact| := abs_sub_le _ _ _
        _ ≤ 1 / 2 ^ 53 * ((1 + growth qs.length) * kind.size (p :: qs ++ [q])) +
              growth qs.length * kind.size (p :: qs ++ [q]) :=
            add_le_add ((abs_rounded_sub_le_mul kept).trans
              (mul_le_mul_of_nonneg_left magnitude (by positivity))) carried
        _ = growth (qs.length + 1) * kind.size (p :: qs ++ [q]) := by
            rw [growth_succ]
            ring

end Joining
end AuctionBudget.Number
