/-! # Blanks

The characters that count as white space (property White_Space), and trimming. Texts are lists of
characters here; `trimmed` is the same operation on strings.

A text trims to nothing just when all its characters are blanks.
-/

namespace AuctionBudget.Text

/-- The white-space characters of any script. -/
def isBlank (c : Char) : Bool :=
  let n := c.toNat
  (0x09 ≤ n && n ≤ 0x0d) || n == 0x20 || n == 0x85 || n == 0xa0 || n == 0x1680 ||
    (0x2000 ≤ n && n ≤ 0x200a) || n == 0x2028 || n == 0x2029 || n == 0x202f || n == 0x205f ||
    n == 0x3000

/-- Remove the longest run of characters in the class from both ends. -/
def stripBoth (inClass : Char → Bool) (s : List Char) : List Char :=
  ((s.dropWhile inClass).reverse.dropWhile inClass).reverse

def trim (s : List Char) : List Char :=
  stripBoth isBlank s

def trimmed (s : String) : String :=
  String.ofList (trim s.toList)

def isAllBlank (s : List Char) : Bool :=
  s.all isBlank

theorem dropWhile_eq_nil_iff {inClass : Char → Bool} {s : List Char} :
    s.dropWhile inClass = [] ↔ s.all inClass = true := by
  induction s with
  | nil => simp
  | cons c rest ih =>
      by_cases hc : inClass c = true
      · rw [List.dropWhile_cons_of_pos hc, ih]
        simp [hc]
      · rw [List.dropWhile_cons_of_neg hc]
        simp [hc]

/-- A text trims to nothing just when all its characters are blanks. -/
theorem trim_eq_nil_iff {s : List Char} : trim s = [] ↔ isAllBlank s = true := by
  rw [trim, stripBoth, List.reverse_eq_nil_iff, dropWhile_eq_nil_iff, List.all_reverse, isAllBlank,
    ← dropWhile_eq_nil_iff (s := s)]
  constructor
  · intro kept
    cases dropped : s.dropWhile isBlank with
    | nil => rfl
    | cons c rest =>
        have first : isBlank c = false := by
          have := List.head_dropWhile_not isBlank (l := s) (by simp [dropped])
          simpa [dropped] using this
        simp [dropped, first] at kept
  · intro dropped
    simp [dropped]

end AuctionBudget.Text
