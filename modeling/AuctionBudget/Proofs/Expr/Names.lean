import AuctionBudget.Expr.Eval
import AuctionBudget.Proofs.Refusal

/-! # Names that cannot be read

Whether a name can be read does not depend on the snapshot: a missing record or tier reads as zero,
and a name that is not in the fixed list is refused wherever it is read. Operands are evaluated from
left to right, so an expression with such a name gets stuck at the first one, unless the arithmetic
of the operands before it fails.
-/

namespace AuctionBudget

/-- The fault of reading a field of a record, if there is no such field. -/
def missingField? {α : Type} (reader? : String → Option (α → Float)) (root field : String) :
    Option ReadFault :=
  match reader? field with
  | none => some (.unknownField root field)
  | some _ => none

/-- The fault of reading `root.field`. -/
def fieldFault? (root field : String) : Option ReadFault :=
  match root with
  | "team" => missingField? TeamTotals.reader? root field
  | "season" => missingField? SeasonLimits.reader? root field
  | "playerLevels" => some (.keyExpected root field)
  | _ => some (.unknownRoot root)

/-- The fault of reading `root[key].field`, whatever the key. -/
def lookupFault? (root field : String) : Option ReadFault :=
  match root with
  | "playerLevels" => missingField? TierAggregate.reader? root field
  | "team" | "season" => some (.notAMap root)
  | _ => some (.unknownRoot root)

namespace Context

variable {root name : String} {fault : ReadFault} (context : Context)

theorem readRecord_error_iff {α : Type} {reader? : String → Option (α → Float)}
    {record : Option α} :
    readRecord root name reader? record = .error fault ↔
      missingField? reader? root name = some fault := by
  unfold readRecord missingField?
  cases reader? name with
  | none => simp
  | some read => simp

theorem field_error_iff :
    context.field root name = .error fault ↔ fieldFault? root name = some fault := by
  unfold field fieldFault?
  split
  · exact readRecord_error_iff
  · exact readRecord_error_iff
  · simp
  · simp

theorem lookup_error_iff (key : String) :
    context.lookup root key name = .error fault ↔ lookupFault? root name = some fault := by
  unfold lookup lookupFault?
  split
  · exact readRecord_error_iff
  · simp
  · simp
  · simp

end Context

namespace Expr

/-- Every name of an expression can be read. -/
def Readable : Expr → Prop
  | .literal _ => True
  | .field root name => fieldFault? root name = none
  | .lookup root _ name => lookupFault? root name = none
  | .neg inner => inner.Readable
  | .binary _ lhs rhs => lhs.Readable ∧ rhs.Readable

/-- Evaluation in a context gets to a name that cannot be read: all operands before it have
    values. -/
inductive StuckAt (context : Context) (fault : ReadFault) : Expr → Prop where
  | field {root name : String} (unknown : fieldFault? root name = some fault) :
      StuckAt context fault (.field root name)
  | lookup {root key name : String} (unknown : lookupFault? root name = some fault) :
      StuckAt context fault (.lookup root key name)
  | neg {inner : Expr} (stuck : StuckAt context fault inner) : StuckAt context fault (.neg inner)
  | left {op : BinaryOp} {lhs rhs : Expr} (stuck : StuckAt context fault lhs) :
      StuckAt context fault (.binary op lhs rhs)
  | right {op : BinaryOp} {lhs rhs : Expr} {value : Float} (evaluates : lhs.eval context = .ok value)
      (stuck : StuckAt context fault rhs) : StuckAt context fault (.binary op lhs rhs)

variable {e : Expr} {op : BinaryOp} {context : Context} {fault : ReadFault} {value : Float}

theorem StuckAt.not_readable (stuck : StuckAt context fault e) : ¬ e.Readable := by
  intro readable
  induction stuck with
  | field unknown => cases unknown.symm.trans readable
  | lookup unknown => cases unknown.symm.trans readable
  | neg _ ih => exact ih readable
  | left _ ih => exact ih readable.1
  | right _ _ ih => exact ih readable.2

/-- Where a value comes out, every name was read. -/
theorem readable_of_eval_eq_ok (evaluates : e.eval context = .ok value) : e.Readable := by
  induction e generalizing value with
  | literal => trivial
  | field root name =>
      cases found : fieldFault? root name with
      | none => exact found
      | some fault =>
          rw [eval, context.field_error_iff.2 found] at evaluates
          cases evaluates
  | lookup root key name =>
      cases found : lookupFault? root name with
      | none => exact found
      | some fault =>
          rw [eval, (context.lookup_error_iff key).2 found] at evaluates
          cases evaluates
  | neg inner ih =>
      obtain ⟨held, evaluates, -⟩ := map_eq_ok.1 evaluates
      exact ih evaluates
  | binary op lhs rhs ihLeft ihRight =>
      obtain ⟨a, left, evaluates⟩ := bind_eq_ok.1 evaluates
      obtain ⟨b, right, -⟩ := bind_eq_ok.1 evaluates
      exact ⟨ihLeft left, ihRight right⟩

theorem apply_ne_read {a b : Float} : apply op a b ≠ .error (.read fault) := by
  unfold apply
  split
  · simp
  · split <;> simp

theorem StuckAt.eval_eq (stuck : StuckAt context fault e) : e.eval context = .error (.read fault) := by
  induction stuck with
  | field unknown =>
      rw [eval, context.field_error_iff.2 unknown]
      rfl
  | lookup unknown =>
      rw [eval, (context.lookup_error_iff _).2 unknown]
      rfl
  | neg _ ih => rw [eval, ih, Except.map]
  | left _ ih =>
      rw [eval, ih]
      rfl
  | right evaluates _ ih =>
      rw [eval, evaluates, ih]
      rfl

/-- Evaluation fails at a name just when it gets to one that cannot be read. -/
theorem eval_eq_read_iff : e.eval context = .error (.read fault) ↔ StuckAt context fault e := by
  constructor
  · intro fails
    induction e with
    | literal => cases fails
    | field root name =>
        obtain ⟨held, refused, same⟩ := mapError_eq_error.1 fails
        cases same
        exact .field (context.field_error_iff.1 refused)
    | lookup root key name =>
        obtain ⟨held, refused, same⟩ := mapError_eq_error.1 fails
        cases same
        exact .lookup ((context.lookup_error_iff key).1 refused)
    | neg inner ih => exact .neg (ih (map_eq_error.1 fails))
    | binary op lhs rhs ihLeft ihRight =>
        rcases bind_eq_error.1 fails with left | ⟨a, evaluates, fails⟩
        · exact .left (ihLeft left)
        rcases bind_eq_error.1 fails with right | ⟨b, -, fails⟩
        · exact .right evaluates (ihRight right)
        · exact absurd fails apply_ne_read
  · exact StuckAt.eval_eq

end Expr
end AuctionBudget
