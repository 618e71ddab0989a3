/-! # Times as text

A time is a number of nanoseconds since the start of 1970. Times are kept as text and order as their
texts do: the date, the time of day, and the fraction of the second in as many groups of three digits
as it takes. The years 0 to 9999 have four digits. A later year is written with a plus sign and an
earlier one with a minus, and both signs come before the digits.
-/

namespace AuctionBudget.Timestamp

/-- A number with zeros in front of it up to a width. -/
def padded (width n : Nat) : List Char :=
  List.leftpad width '0' (Nat.toDigits 10 n)

def nanosPerDay : Int := 86400000000000

/-- The day of a time, counted from the start of the year 0. -/
def dayOf (time : Int) : Int :=
  time / nanosPerDay + 719528

/-- The days between the start of the year 0 and that of a year. -/
def startOfYear (year : Int) : Int :=
  365 * year + (year + 3) / 4 - (year + 99) / 100 + (year + 399) / 400

/-- The year of a day. A year of average length tells it, or the year before. -/
def yearOfDay (day : Int) : Int :=
  let early := (day - 2) * 400 / 146097
  if startOfYear (early + 1) ≤ day then early + 1 else early

def year (time : Int) : Int :=
  yearOfDay (dayOf time)

/-- The days of the year that are over at a time. -/
def dayOfYear (time : Int) : Nat :=
  (dayOf time - startOfYear (year time)).toNat

def isLeap (year : Int) : Bool :=
  startOfYear (year + 1) - startOfYear year = 366

/-- The days before every month of a year. -/
def monthStarts (leap : Bool) : List Nat :=
  let leapDay := if leap then 1 else 0
  [0, 31] ++ [59, 90, 120, 151, 181, 212, 243, 273, 304, 334].map (· + leapDay)

/-- The starts of the months of a year that have begun by a day. -/
def begun (leap : Bool) (day : Nat) : List Nat :=
  (monthStarts leap).filter (· ≤ day)

def month (leap : Bool) (day : Nat) : Nat :=
  (begun leap day).length

def dayOfMonth (leap : Bool) (day : Nat) : Nat :=
  day - (begun leap day).getLastD 0 + 1

/-- The nanoseconds of the day that are over at a time. -/
def nanosOfDay (time : Int) : Nat :=
  (time % nanosPerDay).toNat

/-- A group of three digits and what follows, unless nothing is left to show. -/
def group (unit : Nat) (rest : Nat → List Char) (n : Nat) : List Char :=
  if n = 0 then [] else padded 3 (n / unit) ++ rest (n % unit)

def fraction (nanos : Nat) : List Char :=
  if nanos = 0 then [] else '.' :: group 1000000 (group 1000 (group 1 fun _ => [])) nanos

def yearText (year : Int) : List Char :=
  if year < 0 then '-' :: padded 4 year.natAbs
  else if year ≤ 9999 then padded 4 year.natAbs
  else '+' :: padded 4 year.natAbs

def dateText (leap : Bool) (day : Nat) : List Char :=
  '-' :: padded 2 (month leap day) ++ '-' :: padded 2 (dayOfMonth leap day)

def clockText (nanos : Nat) : List Char :=
  let seconds := nanos / 1000000000
  'T' :: padded 2 (seconds / 3600) ++ ':' :: padded 2 (seconds / 60 % 60) ++
    ':' :: padded 2 (seconds % 60) ++ fraction (nanos % 1000000000)

/-- A time as it is kept, at no offset from universal time. -/
def text (time : Int) : List Char :=
  yearText (year time) ++ dateText (isLeap (year time)) (dayOfYear time) ++
    clockText (nanosOfDay time) ++ ['+', '0', '0', ':', '0', '0']

/-- Whether the text of a time comes no later than that of another. -/
def precedes (a b : Int) : Bool :=
  ¬ text b < text a

@[simp] theorem precedes_eq_true_iff {a b : Int} : precedes a b = true ↔ ¬ text b < text a :=
  decide_eq_true_iff

/-- Of two times one precedes the other. -/
theorem precedes_total (a b : Int) : precedes a b = true ∨ precedes b a = true := by
  rw [precedes_eq_true_iff, precedes_eq_true_iff]
  exact List.le_total (text a) (text b)

theorem precedes_trans (a b c : Int) (ab : precedes a b = true) (bc : precedes b c = true) :
    precedes a c = true := by
  rw [precedes_eq_true_iff] at *
  exact List.le_trans ab bc

end AuctionBudget.Timestamp
