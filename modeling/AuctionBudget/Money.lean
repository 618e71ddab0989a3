import AuctionBudget.Build
import AuctionBudget.Number.Text
import AuctionBudget.Ordered
import AuctionBudget.Text.Blank
import AuctionBudget.Text.Cut
import AuctionBudget.Text.Numeric

/-! # Money

Amounts are whole cents in 64 bits, so sums never drift; one that leaves the range wraps around, or
ends the call in a checked build. An amount is written in units with two decimals, and read from a
text of digits with at most two decimals behind a point or a comma. Rules calculate with amounts in
units as binary64 numbers; `units` and `ofUnits` cross that border.
-/

namespace AuctionBudget

/-- An amount of money as it is stored. -/
structure Money where
  stored : Int64
  deriving DecidableEq

namespace Money

/-- The amount in cents. -/
def cents (amount : Money) : Int :=
  amount.stored.toInt

/-- The amount of so many cents, wrapped around if they leave the range. -/
def ofCents (cents : Int) : Money :=
  ⟨.ofInt cents⟩

def largestCents : Int := 9223372036854775807

def smallestCents : Int := -9223372036854775808

/-- The numbers of cents that can be stored. -/
def InRange (cents : Int) : Prop :=
  smallestCents ≤ cents ∧ cents ≤ largestCents

instance (cents : Int) : Decidable (InRange cents) :=
  inferInstanceAs (Decidable (_ ∧ _))

instance : Zero Money := ⟨⟨0⟩⟩
instance : Add Money := ⟨fun a b => ⟨a.stored + b.stored⟩⟩
instance : Sub Money := ⟨fun a b => ⟨a.stored - b.stored⟩⟩

@[simp] theorem cents_zero : (0 : Money).cents = 0 := rfl

@[ext] theorem ext {a b : Money} (same : a.cents = b.cents) : a = b := by
  cases a
  cases b
  exact congrArg mk (Int64.toInt_inj.1 same)

theorem inRange_cents (amount : Money) : InRange amount.cents := by
  have low := Int64.le_toInt amount.stored
  have high := Int64.toInt_lt amount.stored
  simp only [InRange, smallestCents, largestCents, cents]
  omega

theorem cents_ofCents {cents : Int} (inRange : InRange cents) : (ofCents cents).cents = cents := by
  simp only [InRange, smallestCents, largestCents] at inRange
  exact Int64.toInt_ofInt_of_le (by omega) (by omega)

@[simp] theorem ofCents_cents (amount : Money) : ofCents amount.cents = amount :=
  congrArg mk (Int64.ofInt_toInt amount.stored)

/-- Sums wrap around as their cents do. -/
theorem ofCents_add (m n : Int) : ofCents (m + n) = ofCents m + ofCents n :=
  congrArg mk (Int64.ofInt_add m n)

def add (build : Build) (a b : Money) : Except Error Money :=
  build.settle (InRange (a.cents + b.cents)) (a + b)

def sub (build : Build) (a b : Money) : Except Error Money :=
  build.settle (InRange (a.cents - b.cents)) (a - b)

def sum (build : Build) (amounts : List Money) : Except Error Money :=
  amounts.foldlM (add build) 0

/-- The sums of the first one, two, three, … amounts. -/
def runningSums (build : Build) : List Money → Money → Except Error (List Money)
  | [], _ => .ok []
  | amount :: rest, before => do
      let reached ← add build before amount
      return reached :: (← runningSums build rest reached)

/-- The first amount less all others; nothing for no amounts. -/
def difference? (build : Build) : List Money → Except Error (Option Money)
  | [] => .ok none
  | first :: rest => some <$> rest.foldlM (sub build) first

def sorted (amounts : List Money) : List Money :=
  Ordered.sortBy (fun a b => a.cents ≤ b.cents) amounts

/-- The amount in units, as rules see it. -/
def units (amount : Money) : Float :=
  Number.ofInt amount.cents / 100.0

/-- The amount nearest to a number of units, halves of a cent going away from zero. What lies beyond
    the amounts that can be stored becomes the nearest of them, and what is no number nothing. -/
def ofUnits (value : Float) : Money :=
  ofCents (Number.toIntWithin smallestCents largestCents (value * 100.0))

/-- The amount in units with two decimals. -/
def text (amount : Money) : String :=
  String.ofList <|
    (if amount.cents < 0 then ['-'] else []) ++ Number.hundredths amount.cents.natAbs

inductive AmountFault where
  /-- Nothing but blanks. -/
  | empty
  /-- Something other than digits around one point or comma, or more units than can be stored. -/
  | unreadable (source : String)
  /-- More than two decimals. -/
  | tooManyDecimals
  /-- More cents than can be stored. -/
  | tooLarge
  deriving DecidableEq

def AmountFault.message : AmountFault → String
  | .empty => "empty amount"
  | .unreadable source => s!"invalid amount: {source}"
  | .tooManyDecimals => "too many decimals"
  | .tooLarge => "amount too large"

/-- The cents that zero, one or two decimals stand for. -/
def centsOfDecimals? : List Char → Option Nat
  | [] => some 0
  | [tenths] => some (10 * Nat.ofDigitChars 10 [tenths] 0)
  | [tenths, hundredths] => some (Nat.ofDigitChars 10 [tenths, hundredths] 0)
  | _ => none

/-- Read an amount: digits, and behind a point or comma at most two more digits. -/
def read (source : String) : Except AmountFault Money := do
  let trimmed := Text.trim source.toList
  if trimmed.isEmpty then throw .empty
  let pointed := trimmed.map fun c => if c = ',' then '.' else c
  let (whole, decimals) := (Text.cutAt '.' pointed).getD (pointed, [])
  if whole.isEmpty || !whole.all Text.isAsciiDigit || !decimals.all Text.isAsciiDigit then
    throw (.unreadable source)
  let units := Nat.ofDigitChars 10 whole 0
  if largestCents < units then throw (.unreadable source)
  let some cents := centsOfDecimals? decimals | throw .tooManyDecimals
  let total := units * 100 + cents
  if largestCents < total then throw .tooLarge
  return ofCents total

def parse (source : String) : Except Error Money :=
  (read source).mapError fun fault => .invalidAmount fault.message

end Money
end AuctionBudget
