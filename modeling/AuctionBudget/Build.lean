import AuctionBudget.Error

/-! # Integers of limited width

Amounts are stored in 64 bits and counts in 32. Where a sum leaves its range a checked build stops
the call, and a release build lets the sum wrap around.
-/

namespace AuctionBudget

/-- How the program was built. -/
inductive Build where
  | checked
  | release
  deriving DecidableEq

namespace Build

/-- The wrapped result of an addition, or the end of the call where it does not fit and the build
    checks that. -/
def settle (build : Build) (fits : Bool) (wrapped : α) : Except Error α :=
  match build with
  | .checked => if fits then .ok wrapped else .error .overflow
  | .release => .ok wrapped

/-- The number after a count. -/
def next (build : Build) (count : Int32) : Except Error Int32 :=
  build.settle (count ≠ Int32.maxValue) (count + 1)

/-- The number after a count that may leave something out. -/
def nextIf (build : Build) (counted : Bool) (count : Int32) : Except Error Int32 :=
  if counted then build.next count else .ok count

@[simp] theorem settle_release (fits : Bool) (wrapped : α) :
    release.settle fits wrapped = .ok wrapped :=
  rfl

@[simp] theorem settle_true (build : Build) (wrapped : α) : build.settle true wrapped = .ok wrapped := by
  cases build <;> rfl

@[simp] theorem settle_checked_false (wrapped : α) :
    checked.settle false wrapped = .error .overflow :=
  rfl

end Build
end AuctionBudget
