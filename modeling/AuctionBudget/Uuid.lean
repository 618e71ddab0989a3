import AuctionBudget.Text.Hex

/-! # Identifiers

Seasons, team-seasons and rules are told apart by 128-bit numbers. They are written as thirty-two
hexadecimal digits in groups of 8, 4, 4, 4 and 12, and order as numbers.
-/

namespace AuctionBudget

/-- An identifier. -/
structure Uuid where
  value : BitVec 128
  deriving DecidableEq

namespace Uuid

/-- The identifier with a given number. -/
def ofNat (n : Nat) : Uuid := ⟨BitVec.ofNat 128 n⟩

/-- The number of an identifier. -/
def toNat (id : Uuid) : Nat := id.value.toNat

/-- The random identifier that 128 random bits make: the four bits of the version are 4, the two of
    the variant are 2. -/
def ofRandomBits (bits : BitVec 128) : Uuid :=
  let version : BitVec 128 := 0xF#128 <<< 76
  let variant : BitVec 128 := 3#128 <<< 62
  ⟨(bits &&& ~~~(version ||| variant)) ||| 4#128 <<< 76 ||| 2#128 <<< 62⟩

/-- The thirty-two hexadecimal digits. -/
def digits (id : Uuid) : List Char :=
  let shown := Nat.toDigits 16 id.toNat
  List.replicate (32 - shown.length) '0' ++ shown

/-- Cut a text into pieces of the given lengths. -/
def pieces : List Nat → List Char → List (List Char)
  | [], _ => []
  | n :: lengths, s => s.take n :: pieces lengths (s.drop n)

/-- How many digits stand in each group. -/
def groups : List Nat := [8, 4, 4, 4, 12]

/-- The digits in groups, in lower case. -/
def text (id : Uuid) : String :=
  String.ofList (List.intercalate ['-'] (pieces groups id.digits))

/-- The digits of a text in groups, without the hyphens between the groups. -/
def ungroup? (s : List Char) : Option (List Char) :=
  let a := s.take 8
  let b := (s.drop 9).take 4
  let c := (s.drop 14).take 4
  let d := (s.drop 19).take 4
  let e := s.drop 24
  if s.length = 36 ∧ s = a ++ '-' :: b ++ '-' :: c ++ '-' :: d ++ '-' :: e then
    some (a ++ b ++ c ++ d ++ e)
  else none

/-- What may stand in front of an identifier, in either case. -/
def urnHead : List Char := "urn:uuid:".toList

/-- The text inside of braces or behind `urn:uuid:`, or the text itself. -/
def unwrap (s : List Char) : List Char :=
  match s with
  | '\x7b' :: inner => if inner.getLast? = some '\x7d' then inner.dropLast else s
  | _ => if (s.take urnHead.length).map Char.toLower = urnHead then s.drop urnHead.length else s

/-- Read an identifier: the digits alone or in groups, in either case; grouped digits may stand in
    braces or behind `urn:uuid:`, which may be in either case. -/
def parse? (source : String) : Option Uuid :=
  let s := source.toList
  let digits := if s.length = 32 then some s else ungroup? (unwrap s)
  digits.bind fun ds => (Text.ofHex? ds).map ofNat

end Uuid
end AuctionBudget
