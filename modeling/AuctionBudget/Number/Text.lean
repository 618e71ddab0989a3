import AuctionBudget.Number.Binary64
import AuctionBudget.Number.Shortest

/-! # Numbers as text

Two forms. `text` shows a number in a message by the fewest digits that read back, always with a
fraction: positional from `0.0001` up to below `10 ^ 16`, and with an exponent outside of that.
`twoPlaces` shows an allowance in a report with two decimals, ties going to the even neighbour.
-/

namespace AuctionBudget.Number

/-- A number of hundredths, as units with two decimals. -/
def hundredths (n : Nat) : List Char :=
  Nat.toDigits 10 (n / 100) ++ ['.', Nat.digitChar (n / 10 % 10), Nat.digitChar (n % 10)]

def signText : Float.Model.UnpackedFloat.Sign → List Char
  | .positive => []
  | .negative => ['-']

/-- Digits with the point after the first `point` of them, filled up with zeros so that a digit
    stands on both sides of it. -/
def positional (digits : List Char) (point : Int) : List Char :=
  if point ≤ 0 then '0' :: '.' :: List.replicate (-point).toNat '0' ++ digits
  else
    let whole := digits.take point.toNat
    let fraction := digits.drop point.toNat
    whole ++ List.replicate (point.toNat - whole.length) '0' ++
      '.' :: (if fraction.isEmpty then ['0'] else fraction)

/-- Digits with the point after the first one, and the power of ten that it stands for. -/
def scientific (digits : List Char) (power : Int) : List Char :=
  let fraction := digits.drop 1
  digits.take 1 ++ (if fraction.isEmpty then [] else '.' :: fraction) ++
    'e' :: (toString power).toList

/-- A decimal as text: positional where between three zeros behind the point and sixteen digits
    before it suffice. -/
def Decimal.text (d : Decimal) : List Char :=
  let digits := Nat.toDigits 10 d.digits
  let point := d.exponent + digits.length
  if -3 ≤ point ∧ point ≤ 16 then positional digits point else scientific digits (point - 1)

/-- A number by the fewest digits that read back. -/
def text (x : Float) : String :=
  String.ofList <|
    match x.toModel.unpack with
    | .notANumber => "NaN".toList
    | .infinity sign => signText sign ++ "inf".toList
    | .zero sign => signText sign ++ "0.0".toList
    | .finite sign mantissa exponent _ => signText sign ++ (shortest mantissa exponent).text

def twoPlaces (x : Float) : String :=
  String.ofList <|
    match x.toModel.unpack with
    | .notANumber => "NaN".toList
    | .infinity sign => signText sign ++ "inf".toList
    | .zero sign => signText sign ++ hundredths 0
    | .finite sign mantissa exponent _ =>
        let (num, den) := asQuotient mantissa exponent
        signText sign ++ hundredths (roundDiv .even (100 * num) den)

end AuctionBudget.Number
