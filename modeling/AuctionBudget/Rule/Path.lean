import AuctionBudget.Rule.Reference
import AuctionBudget.Text.Blank

/-! # Map paths

A root such as `playerLevels` names a map, and the segment behind it is a key:
`playerLevels.l1.totalAmountSpent` reads the field of the tier `l1`. For the expression grammar the
key is put into brackets, `playerLevels[l1].totalAmountSpent`. Only the first segment behind a root
is a key.
-/

namespace AuctionBudget.Rule

/-- The root of the tiers, which is the only root where a rule lists none. -/
def tierRoot : String := "playerLevels"

/-- The ASCII letters and digits, of which keys are made. -/
def isKeyChar (c : Char) : Bool :=
  c.isAlphanum

/-- Put the keys behind one root into brackets. Blank roots do nothing. -/
def indexRoot (s : List Char) (root : String) : List Char :=
  let name := Text.trim root.toList
  if name.isEmpty then s
  else
    replaceReferences (name ++ ['.']) isKeyChar
      (fun _ key => name ++ '[' :: key ++ [']', '.']) [] s

/-- Put the keys behind every root into brackets, root by root. -/
def indexPaths (roots : List String) (source : String) : String :=
  let roots := if roots.isEmpty then [tierRoot] else roots
  String.ofList (roots.foldl indexRoot source.toList)

end AuctionBudget.Rule
