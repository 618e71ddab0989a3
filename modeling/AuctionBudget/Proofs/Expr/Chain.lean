import AuctionBudget.Expr.Eval
import AuctionBudget.Proofs.Expr.Soundness
import AuctionBudget.Proofs.Number.Combine
import AuctionBudget.Proofs.Number.Near
import AuctionBudget.Proofs.Refusal

/-! # Chains of additions and of multiplications

A chain is evaluated from left to right, and each step rounds. So two operands can be exchanged, but
from three operands on the order can matter: what a step rounds off depends on what came before. The
order does not matter where whichever operands are joined have an exact result in binary64, and in
general each result is off the exact one by about half a last place for each step.
-/

namespace AuctionBudget

open Number

namespace Number.Joining

def op : Joining → BinaryOp
  | .sum => .add
  | .product => .mul

/-- The sign between the operands. -/
def sign : Joining → Expr.Token
  | .sum => .plus
  | .product => .star

/-- The rule of the grammar for a chain. -/
def chainLevel : Joining → Expr.Level
  | .sum => .sum
  | .product => .product

/-- The rule of the grammar for an operand. -/
def operandLevel : Joining → Expr.Level
  | .sum => .product
  | .product => .unary

end Number.Joining

namespace Expr

variable {kind : Joining} {context : Context} {e f : Expr} {es fs : List Expr}
variable {a b x y : Float} {as bs : List Float} {p q : ℚ} {ps qs : List ℚ}

/-- The chain `first + … + last` or `first * … * last`. -/
def chain (kind : Joining) (first : Expr) (rest : List Expr) : Expr :=
  rest.foldl (.binary kind.op) first

theorem Spells.operand_chain {ts : List Token} (first : Spells kind.operandLevel ts e) :
    Spells kind.chainLevel ts e := by
  cases kind with
  | sum => exact .term first
  | product => exact .factor first

theorem Spells.chain_binary {ts us : List Token} (before : Spells kind.chainLevel ts e)
    (next : Spells kind.operandLevel us f) :
    Spells kind.chainLevel (ts ++ kind.sign :: us) (.binary kind.op e f) := by
  cases kind with
  | sum => exact .sum before rfl next
  | product => exact .product before rfl next

/-- Operands with a sign before each but the first spell their chain. -/
theorem spells_chain (kind : Joining) {ts : List Token} {uss : List (List Token)}
    (first : Spells kind.operandLevel ts e)
    (rest : List.Forall₂ (Spells kind.operandLevel) uss es) :
    Spells kind.chainLevel (ts ++ uss.flatMap fun us => kind.sign :: us) (chain kind e es) := by
  replace first := first.operand_chain
  induction rest generalizing ts e with
  | nil =>
      rw [List.flatMap_nil, List.append_nil]
      exact first
  | @cons us f _ _ next _ ih =>
      rw [List.flatMap_cons, ← List.append_assoc]
      exact ih (first.chain_binary next)

/-- What a chain makes of the values of its operands. -/
def accumulate (kind : Joining) (a : Float) (bs : List Float) : Except EvalFault Float :=
  bs.foldlM (apply kind.op) a

theorem apply_eq : apply kind.op a b =
    if (kind.combine a b).isFinite then .ok (kind.combine a b) else .error (.overflow kind.op) := by
  cases kind <;> rfl

theorem apply_comm : apply kind.op a b = apply kind.op b a := by
  rw [apply_eq, apply_eq, kind.combine_comm a b]

theorem apply_eq_ok : apply kind.op a b = .ok x ↔
    (kind.combine a b).isFinite = true ∧ kind.combine a b = x := by
  rw [apply_eq]
  split
  · next finite => simp [finite]
  · next infinite => simp [infinite]

theorem apply_of_exact (left : value? a = some p) (right : value? b = some q)
    (number : IsBinary64 (kind.join p q)) : apply kind.op a b = .ok (kind.combine a b) :=
  apply_eq_ok.2 ⟨isFinite_of_value? (Joining.value?_combine_of_exact left right number), rfl⟩

/-- A chain that ends has the value of rounding step by step. -/
theorem value?_accumulate (first : value? a = some p)
    (rest : List.Forall₂ (fun b q => value? b = some q) bs qs)
    (ends : accumulate kind a bs = .ok x) : value? x = some (kind.roundedTotal p qs) := by
  induction rest generalizing a p with
  | nil =>
      cases ends
      exact first
  | cons value _ ih =>
      obtain ⟨c, step, later⟩ := bind_eq_ok.1 ends
      obtain ⟨finite, rfl⟩ := apply_eq_ok.1 step
      exact ih (Joining.value?_combine first value finite) later

/-- A chain whose partial results are all in binary64 ends with the exact result. -/
theorem accumulate_of_exact (first : value? a = some p)
    (rest : List.Forall₂ (fun b q => value? b = some q) bs qs)
    (partials : ∀ ws, ws <+: qs → IsBinary64 (kind.total (p :: ws))) :
    ∃ x, accumulate kind a bs = .ok x ∧ value? x = some (kind.total (p :: qs)) ∧
      kind.mark x.toModel.unpack = (bs.map fun b => kind.mark b.toModel.unpack).foldl kind.mix
        (kind.mark a.toModel.unpack) := by
  induction rest generalizing a p with
  | nil => exact ⟨a, rfl, by rw [first, Joining.total_singleton], rfl⟩
  | @cons b q bs qs value _ ih =>
      have number : IsBinary64 (kind.join p q) := by
        have two := partials [q] (List.prefix_append [q] qs)
        rwa [Joining.total_cons_cons, Joining.total_singleton] at two
      have later (ws) (start : ws <+: qs) : IsBinary64 (kind.total (kind.join p q :: ws)) := by
        rw [← Joining.total_cons_cons]
        exact partials (q :: ws) (List.prefix_cons_iff.2 (.inr ⟨ws, rfl, start⟩))
      obtain ⟨x, ends, total, mark⟩ :=
        ih (Joining.value?_combine_of_exact first value number) later
      refine ⟨x, bind_eq_ok.2 ⟨_, apply_of_exact first value number, ends⟩, ?_, ?_⟩
      · rw [total, Joining.total_cons_cons]
      · rw [mark, Joining.mark_combine first value number]
        rfl

/-- The operands evaluate to these floats, and the floats have these values. -/
structure Operands (context : Context) (es : List Expr) (as : List Float) (qs : List ℚ) : Prop where
  evaluated : List.Forall₂ (fun e a => e.eval context = .ok a) es as
  valued : List.Forall₂ (fun a q => value? a = some q) as qs

/-- The operands in another order. -/
theorem Operands.perm (operands : Operands context es as qs) (same : es.Perm fs) :
    ∃ bs ps, Operands context fs bs ps ∧ bs.Perm as ∧ ps.Perm qs := by
  obtain ⟨bs, evaluated, floats⟩ := List.perm_comp_forall₂ same.symm operands.evaluated
  obtain ⟨ps, valued, values⟩ := List.perm_comp_forall₂ floats operands.valued
  exact ⟨bs, ps, ⟨evaluated, valued⟩, floats, values⟩

theorem Operands.isBinary64 (operands : Operands context es as qs) : ∀ q ∈ qs, IsBinary64 q := by
  obtain ⟨evaluated, valued⟩ := operands
  clear evaluated
  induction valued with
  | nil => exact List.forall_mem_nil _
  | cons value _ ih => exact List.forall_mem_cons.2 ⟨⟨_, value⟩, ih⟩

theorem eval_chain_from {start : Except EvalFault Float} (first : e.eval context = start)
    (rest : List.Forall₂ (fun e a => e.eval context = .ok a) es as) :
    (chain kind e es).eval context = start >>= fun a => accumulate kind a as := by
  induction rest generalizing e start with
  | nil =>
      rw [chain, List.foldl_nil, first]
      cases start <;> rfl
  | @cons f b fs bs next _ ih =>
      have step : (Expr.binary kind.op e f).eval context =
          start >>= fun a => apply kind.op a b := by
        rw [eval, first, next]
        rfl
      rw [chain, List.foldl_cons]
      refine (ih step).trans ?_
      rw [bind_assoc]
      rfl

/-- A chain is evaluated by accumulating the values of its operands. -/
theorem eval_chain (first : e.eval context = .ok a)
    (rest : List.Forall₂ (fun e a => e.eval context = .ok a) es as) :
    (chain kind e es).eval context = accumulate kind a as :=
  eval_chain_from first rest

/-- If a chain has a number, all its operands have one. -/
theorem exists_accumulate (ends : (chain kind e es).eval context = .ok x) :
    ∃ a as, e.eval context = .ok a ∧
      List.Forall₂ (fun e a => e.eval context = .ok a) es as ∧ accumulate kind a as = .ok x := by
  induction es generalizing e with
  | nil => exact ⟨x, [], ends, .nil, rfl⟩
  | cons f fs ih =>
      obtain ⟨c, bs, step, rest, later⟩ := ih ends
      obtain ⟨a, first, step⟩ := bind_eq_ok.1 step
      obtain ⟨b, next, step⟩ := bind_eq_ok.1 step
      exact ⟨a, b :: bs, first, .cons next rest, bind_eq_ok.2 ⟨c, step, later⟩⟩

theorem exists_values (ends : accumulate kind a bs = .ok x) :
    ∃ qs, List.Forall₂ (fun b q => value? b = some q) bs qs := by
  induction bs generalizing a with
  | nil => exact ⟨[], .nil⟩
  | cons b bs ih =>
      obtain ⟨c, step, later⟩ := bind_eq_ok.1 ends
      obtain ⟨-, q, value⟩ := Joining.exists_values_of_isFinite (apply_eq_ok.1 step).1
      obtain ⟨qs, values⟩ := ih later
      exact ⟨q :: qs, .cons value values⟩

/-- All operands of a chain that ends have values, unless there is just one. -/
theorem exists_operands (ends : (chain kind e (f :: fs)).eval context = .ok x) :
    ∃ as qs, Operands context (e :: f :: fs) as qs := by
  obtain ⟨a, bs, first, rest, run⟩ := exists_accumulate ends
  obtain ⟨b, bs, next, others, rfl⟩ := List.forall₂_cons_left_iff.1 rest
  obtain ⟨c, step, -⟩ := bind_eq_ok.1 run
  obtain ⟨⟨p, value⟩, -⟩ := Joining.exists_values_of_isFinite (apply_eq_ok.1 step).1
  obtain ⟨qs, values⟩ := exists_values run
  exact ⟨a :: b :: bs, p :: qs, .cons first rest, .cons value values⟩

/-- A chain that ends is near its exact result. -/
theorem near_chain (operands : Operands context (e :: es) as qs) (ample : kind.Ample qs)
    (ends : (chain kind e es).eval context = .ok x) :
    Near x (kind.total qs) (Joining.growth es.length * kind.size qs) := by
  have numbers := operands.isBinary64
  obtain ⟨evaluated, valued⟩ := operands
  obtain ⟨a, as, first, rest, rfl⟩ := List.forall₂_cons_left_iff.1 evaluated
  obtain ⟨p, qs, value, values, rfl⟩ := List.forall₂_cons_left_iff.1 valued
  rw [eval_chain first rest] at ends
  have length : es.length = qs.length := rest.length_eq.trans values.length_eq
  rw [length]
  exact ⟨_, value?_accumulate value values ends, Joining.abs_roundedTotal_sub_le numbers ample⟩

/-- A chain ends with its exact result if whichever operands are joined have one in binary64. -/
theorem eval_chain_of_exact (operands : Operands context (e :: es) as qs) (exact : kind.Exact qs) :
    ∃ a bs x, as = a :: bs ∧ (chain kind e es).eval context = .ok x ∧
      value? x = some (kind.total qs) ∧
      kind.mark x.toModel.unpack = (bs.map fun b => kind.mark b.toModel.unpack).foldl kind.mix
        (kind.mark a.toModel.unpack) := by
  obtain ⟨evaluated, valued⟩ := operands
  obtain ⟨a, as, first, rest, rfl⟩ := List.forall₂_cons_left_iff.1 evaluated
  obtain ⟨p, qs, value, values, rfl⟩ := List.forall₂_cons_left_iff.1 valued
  have partials (ws) (start : ws <+: qs) : IsBinary64 (kind.total (p :: ws)) :=
    exact _ ((start.sublist.cons_cons p).subperm)
  obtain ⟨x, ends, total, mark⟩ := accumulate_of_exact value values partials
  exact ⟨a, as, x, rfl, (eval_chain first rest).trans ends, total, mark⟩

/-- All chains of so many operands have the same number in every order in which they have one. -/
def OrderFree (kind : Joining) (n : ℕ) : Prop :=
  ∀ (context : Context) (e f : Expr) (es fs : List Expr) (x y : Float),
    (e :: es).Perm (f :: fs) → (e :: es).length = n →
      (chain kind e es).evaluate context = .ok x →
        (chain kind f fs).evaluate context = .ok y → x = y

theorem exists_apply (ends : (chain kind e [f]).evaluate context = .ok x) :
    ∃ a b, e.eval context = .ok a ∧ f.eval context = .ok b ∧ apply kind.op a b = .ok x := by
  obtain ⟨a, as, first, rest, run⟩ := exists_accumulate (mapError_eq_ok.1 ends)
  obtain ⟨b, bs, next, none, rfl⟩ := List.forall₂_cons_left_iff.1 rest
  cases none
  obtain ⟨c, step, ⟨⟩⟩ := bind_eq_ok.1 run
  exact ⟨a, b, first, next, step⟩

theorem orderFree_of_le_two {n : ℕ} (few : n ≤ 2) : OrderFree kind n := by
  rintro context e f es fs x y same rfl left right
  match es with
  | [] =>
      obtain ⟨rfl, rfl⟩ := List.cons.inj (List.singleton_perm.1 same)
      exact Except.ok.inj (left.symm.trans right)
  | [g] =>
      rcases List.pair_perm.1 same with kept | swapped
      · obtain ⟨rfl, rfl⟩ := List.cons.inj kept
        exact Except.ok.inj (left.symm.trans right)
      · obtain ⟨rfl, rfl⟩ := List.cons.inj swapped
        obtain ⟨a, b, first, second, step⟩ := exists_apply left
        obtain ⟨b', a', second', first', step'⟩ := exists_apply right
        obtain rfl := Except.ok.inj (first.symm.trans first')
        obtain rfl := Except.ok.inj (second.symm.trans second')
        rw [apply_comm] at step'
        exact Except.ok.inj (step.symm.trans step')
  | _ :: _ :: _ => simp at few

theorem evaluate_literals (ends : accumulate kind a as = .ok x) :
    (chain kind (.literal a) (as.map .literal)).evaluate context = .ok x := by
  have rest : List.Forall₂ (fun e a => eval context e = .ok a) (as.map .literal) as :=
    List.forall₂_map_left_iff.2 (List.forall₂_same.2 fun _ _ => rfl)
  exact mapError_eq_ok.2 ((eval_chain rfl rest).trans ends)

theorem accumulate_replicate {z : Float} (still : apply kind.op x z = .ok x) (k : ℕ) :
    accumulate kind x (List.replicate k z) = .ok x := by
  induction k with
  | zero => rfl
  | succ k ih => exact bind_eq_ok.2 ⟨x, still, ih⟩

/-- Three operands whose order matters, and others that change nothing. -/
theorem not_orderFree {c r s z : Float} (left : accumulate kind a [b, c] = .ok r)
    (right : accumulate kind b [c, a] = .ok s) (still : apply kind.op r z = .ok r)
    (still' : apply kind.op s z = .ok s) (apart : r ≠ s) (k : ℕ) : ¬ OrderFree kind (k + 3) := by
  intro free
  have more {a r : Float} {bs : List Float} (ends : accumulate kind a bs = .ok r)
      (still : apply kind.op r z = .ok r) :
      accumulate kind a (bs ++ List.replicate k z) = .ok r := by
    rw [accumulate, List.foldlM_append]
    exact bind_eq_ok.2 ⟨r, ends, accumulate_replicate still k⟩
  have same : (a :: ([b, c] ++ List.replicate k z)).Perm (b :: ([c, a] ++ List.replicate k z)) :=
    List.Perm.append_right _ (@List.perm_append_comm _ [a] [b, c])
  exact apart (free .empty _ _ _ _ r s (same.map .literal) (by simp)
    (evaluate_literals (more left still)) (evaluate_literals (more right still')))

/-! A summand that is much smaller than the others is lost unless these cancel out first. -/

theorem accumulate_lost : accumulate .sum 1.0 [1e16, -1e16] = .ok 0.0 := by
  decide +kernel

theorem accumulate_kept : accumulate .sum 1e16 [-1e16, 1.0] = .ok 1.0 := by
  decide +kernel

theorem not_orderFree_add_three (kind : Joining) (k : ℕ) : ¬ OrderFree kind (k + 3) := by
  cases kind with
  | sum =>
      exact not_orderFree accumulate_lost accumulate_kept (z := 0.0) (by decide +kernel)
        (by decide +kernel) (by decide +kernel) k
  | product =>
      have early : accumulate .product 0.1 [3.0, 10.0] = .ok 3.0000000000000004 := by
        decide +kernel
      have late : accumulate .product 3.0 [10.0, 0.1] = .ok 3.0 := by decide +kernel
      exact not_orderFree early late (z := 1.0) (by decide +kernel) (by decide +kernel)
        (by decide +kernel) k

def small : Expr :=
  .literal 1.0

def large : Expr :=
  .literal 1e16

theorem evaluate_cancelling : (chain .sum small [large, .neg large]).evaluate .empty = .ok 0.0 ∧
    (chain .sum large [.neg large, small]).evaluate .empty = .ok 1.0 := by
  constructor
  · exact mapError_eq_ok.2 ((eval_chain rfl (.cons rfl (.cons rfl .nil))).trans accumulate_lost)
  · exact mapError_eq_ok.2 ((eval_chain rfl (.cons rfl (.cons rfl .nil))).trans accumulate_kept)

theorem perm_cancelling : [small, large, .neg large].Perm [large, .neg large, small] :=
  @List.perm_append_comm _ [small] [large, .neg large]

theorem operands_cancelling :
    Operands .empty [small, large, .neg large] [1.0, 1e16, -1e16] [1, 10 ^ 16, -10 ^ 16] := by
  have first : value? 1.0 = some 1 := by
    have taken : (1.0 : Float).toModel.unpack =
        .finite .positive 4503599627370496 (-52) (by decide) := rfl
    rw [value?, taken, meant?]
    norm_num
  have second : value? 1e16 = some (10 ^ 16) := by
    have taken : (1e16 : Float).toModel.unpack =
        .finite .positive 5000000000000000 1 (by decide) := rfl
    rw [value?, taken, meant?]
    norm_num
  have third : value? (-1e16) = some (-10 ^ 16) := by
    have taken : (-1e16 : Float).toModel.unpack =
        .finite .negative 5000000000000000 1 (by decide) := rfl
    rw [value?, taken, meant?]
    norm_num
  exact ⟨.cons rfl (.cons rfl (.cons rfl .nil)), .cons first (.cons second (.cons third .nil))⟩

/-- Decimals that are whole numbers. -/
theorem operands_whole {ns : List ℤ} (few : ∀ n ∈ ns, |n| ≤ 2 ^ 53) :
    Operands context (ns.map fun n => .literal (ofInt n)) (ns.map ofInt) (ns.map (↑)) := by
  induction ns with
  | nil => exact ⟨.nil, .nil⟩
  | cons n ns ih =>
      obtain ⟨small, others⟩ := List.forall_mem_cons.1 few
      obtain ⟨evaluated, valued⟩ := ih others
      exact ⟨.cons rfl evaluated, .cons (value?_ofInt small) valued⟩

/-- The order of the operands of a chain can matter only where there are three or more. If a chain of
two or more has a number, its operands have values. If whichever of these are joined have an exact
result in binary64, every order ends with the exact result. In general, where no product is too
small, no order is off the exact result by more than half a last place for each step. -/
theorem chain_order (kind : Joining) :
    (∀ n, OrderFree kind n ↔ n ≤ 2) ∧
    (∀ (context : Context) (e f : Expr) (fs : List Expr) (x : Float),
      (chain kind e (f :: fs)).evaluate context = .ok x →
        ∃ as qs, Operands context (e :: f :: fs) as qs) ∧
    ∀ (context : Context) (e f : Expr) (es fs : List Expr) (as : List Float) (qs : List ℚ),
      (e :: es).Perm (f :: fs) → Operands context (e :: es) as qs →
        (kind.Exact qs → ∃ x, (chain kind e es).evaluate context = .ok x ∧
          (chain kind f fs).evaluate context = .ok x ∧ value? x = some (kind.total qs)) ∧
        (kind.Ample qs → ∀ x y, (chain kind e es).evaluate context = .ok x →
          (chain kind f fs).evaluate context = .ok y →
            Near x (kind.total qs) (Joining.growth es.length * kind.size qs) ∧
            Near y (kind.total qs) (Joining.growth es.length * kind.size qs)) := by
  refine ⟨fun n => ⟨fun free => ?_, orderFree_of_le_two⟩,
    fun _ _ _ _ _ ends => exists_operands (mapError_eq_ok.1 ends), ?_⟩
  · by_contra many
    obtain ⟨k, rfl⟩ := Nat.exists_eq_add_of_le' (Nat.not_le.1 many)
    exact not_orderFree_add_three kind k free
  intro context e f es fs as qs same operands
  obtain ⟨bs, ps, others, floats, values⟩ := operands.perm same
  have total := @Joining.total_perm kind _ _ values
  constructor
  · intro exact
    obtain ⟨a, as, x, rfl, ends, value, mark⟩ := eval_chain_of_exact operands exact
    obtain ⟨b, bs, y, rfl, ends', value', mark'⟩ :=
      eval_chain_of_exact others (exact.of_subperm values.subperm)
    have marks := kind.mix_perm (floats.symm.map fun b => kind.mark b.toModel.unpack)
    rw [total] at value'
    obtain rfl := Joining.eq_of_mark value value' (by rw [mark, mark', marks])
    exact ⟨x, mapError_eq_ok.2 ends, mapError_eq_ok.2 ends', value⟩
  · intro ample x y left right
    have length : fs.length = es.length := Nat.succ.inj same.length_eq.symm
    have near := near_chain others (ample.of_subperm values.subperm) (mapError_eq_ok.1 right)
    rw [total, Joining.size_perm values, length] at near
    exact ⟨near_chain operands ample (mapError_eq_ok.1 left), near⟩

/-- A product of whole numbers is exact in both orders. Of the sum that cancels out, both results are
near the exact one, for numbers of this size. -/
theorem chain_order_whole :
    (∃ x, (chain .product (.literal (ofInt 2)) [.literal (ofInt 3), .literal (ofInt 7)]).evaluate
        .empty = .ok x ∧
      (chain .product (.literal (ofInt 7)) [.literal (ofInt 3), .literal (ofInt 2)]).evaluate
        .empty = .ok x ∧
      value? x = some 42 ∧ Near x 42 (Joining.growth 2 * 42)) ∧
    Near 0.0 1 (Joining.growth 2 * (2 * 10 ^ 16 + 1)) ∧
      Near 1.0 1 (Joining.growth 2 * (2 * 10 ^ 16 + 1)) := by
  have whole := (chain_order .product).2.2 .empty (.literal (ofInt 2)) (.literal (ofInt 7))
    [.literal (ofInt 3), .literal (ofInt 7)] [.literal (ofInt 3), .literal (ofInt 2)]
    ([2, 3, 7].map ofInt) ([2, 3, 7].map (↑)) (List.reverse_perm _).symm
    (@operands_whole _ [2, 3, 7] (by decide))
  have product : Joining.total .product ([2, 3, 7].map (↑)) = 42 := by
    norm_num [Joining.total]
  have size : Joining.size .product ([2, 3, 7].map (↑)) = 42 := by
    rw [Joining.size_product, product]
    norm_num
  have reach : Joining.reach .product [2, 3, 7] ≤ 2 ^ 53 := by decide
  have few : Joining.growth [(2 : ℤ), 3, 7].length ≤ 1 / 2 := by
    norm_num [Joining.growth]
  obtain ⟨x, left, right, value⟩ := whole.1 (Joining.exact_of_whole reach)
  obtain ⟨near, -⟩ := whole.2 (Joining.ample_of_whole few) x x left right
  have total : Joining.total .sum [1, 10 ^ 16, -10 ^ 16] = 1 := by
    norm_num [Joining.total]
  have width : Joining.size .sum [1, 10 ^ 16, -10 ^ 16] = 2 * 10 ^ 16 + 1 := by
    norm_num [Joining.size, Joining.total]
  obtain ⟨lost, kept⟩ := evaluate_cancelling
  have apart := ((chain_order .sum).2.2 .empty small large [large, .neg large] [.neg large, small] _ _
    perm_cancelling operands_cancelling).2 Joining.ample_sum 0.0 1.0 lost kept
  rw [product, size] at near
  rw [product] at value
  rw [total, width] at apart
  exact ⟨⟨x, left, right, value, near⟩, apart⟩

/-- What is written first decides what is lost. -/
theorem not_orderFree_cancelling :
    parse "1 + 10000000000000000 + -10000000000000000" =
      .ok (chain .sum small [large, .neg large]) ∧
    parse "10000000000000000 + -10000000000000000 + 1" =
      .ok (chain .sum large [.neg large, small]) ∧
    ¬ OrderFree .sum 3 := by
  have number (value : Float) : Spells .product [.number value] (.literal value) :=
    .factor (.operand .number)
  have minus (value : Float) : Spells .product [.minus, .number value] (.neg (.literal value)) :=
    .factor (.minus (.operand .number))
  refine ⟨?_, ?_, fun free => ?_⟩
  · have lexed : (tokens "1 + 10000000000000000 + -10000000000000000".toList).toOption =
        some [.number 1.0, .plus, .number 1e16, .plus, .minus, .number 1e16] := by decide +kernel
    have spells := spells_chain .sum (number 1.0)
      (.cons (number 1e16) (.cons (minus 1e16) .nil))
    rw [parse_of_tokens (toOption_eq_some_iff.1 lexed)]
    exact mapError_eq_ok.2 (ofTokens_of_spells spells)
  · have lexed : (tokens "10000000000000000 + -10000000000000000 + 1".toList).toOption =
        some [.number 1e16, .plus, .minus, .number 1e16, .plus, .number 1.0] := by decide +kernel
    have spells := spells_chain .sum (number 1e16)
      (.cons (minus 1e16) (.cons (number 1.0) .nil))
    rw [parse_of_tokens (toOption_eq_some_iff.1 lexed)]
    exact mapError_eq_ok.2 (ofTokens_of_spells spells)
  · obtain ⟨left, right⟩ := evaluate_cancelling
    have same := free .empty small large _ _ 0.0 1.0 perm_cancelling rfl left right
    revert same
    decide +kernel

end Expr
end AuctionBudget
