import AuctionBudget.Rule.Reference
import AuctionBudget.Text.Blank
import AuctionBudget.Text.Cut

/-! # Shorthand

A rule names a tier by shorthand: with the entry `l ↦ playerLevels.l`, the reference `l1.` stands
for `playerLevels.l1.`. The entries are a map from patterns to replacements, kept in ascending order
of the patterns, and are applied in that order.

What is put in front of a reference is the replacement without the pattern at its end, so
`playerLevels.l` and `playerLevels.` mean the same. A reference that already follows a dot, or what
would be put in front of it, stays as it is.
-/

namespace AuctionBudget.Rule

/-- The shorthand of a rule: patterns with their replacements, ascending by pattern. -/
structure Shorthand where
  entries : List (String × String)
  ascending : entries.Pairwise (·.1 < ·.1)
  deriving DecidableEq

namespace Shorthand

def empty : Shorthand := ⟨[], .nil⟩

/-- Set the replacement of a pattern in a list of ascending patterns. -/
def put (pattern replacement : String) : List (String × String) → List (String × String)
  | [] => [(pattern, replacement)]
  | (p, r) :: rest =>
      if pattern < p then (pattern, replacement) :: (p, r) :: rest
      else if pattern = p then (pattern, replacement) :: rest
      else (p, r) :: put pattern replacement rest

theorem fst_of_mem_put {pattern replacement : String} {entries : List (String × String)}
    {entry : String × String} (h : entry ∈ put pattern replacement entries) :
    entry.1 = pattern ∨ entry ∈ entries := by
  induction entries with
  | nil => simp only [put, List.mem_singleton] at h; simp [h]
  | cons e rest ih =>
      simp only [put] at h
      split at h
      · rcases List.mem_cons.1 h with rfl | h
        · simp
        · exact .inr h
      · split at h
        · rcases List.mem_cons.1 h with rfl | h
          · simp
          · exact .inr (List.mem_cons_of_mem _ h)
        · rcases List.mem_cons.1 h with rfl | h
          · simp
          · rcases ih h with h | h
            · exact .inl h
            · exact .inr (List.mem_cons_of_mem _ h)

theorem pairwise_put (pattern replacement : String) {entries : List (String × String)}
    (ascending : entries.Pairwise (·.1 < ·.1)) :
    (put pattern replacement entries).Pairwise (·.1 < ·.1) := by
  induction entries with
  | nil => simp [put]
  | cons e rest ih =>
      have ⟨first, later⟩ := List.pairwise_cons.1 ascending
      simp only [put]
      split
      · next smaller =>
          refine List.pairwise_cons.2 ⟨fun x member => ?_, ascending⟩
          rcases List.mem_cons.1 member with rfl | member
          · exact smaller
          · exact String.lt_trans smaller (first x member)
      · next notSmaller =>
          split
          · next same => subst same; exact List.pairwise_cons.2 ⟨first, later⟩
          · next other =>
              refine List.pairwise_cons.2 ⟨fun x member => ?_, ih later⟩
              rcases fst_of_mem_put member with key | member
              · rw [key]
                rcases Decidable.em (e.1 < pattern) with larger | notLarger
                · exact larger
                · exact absurd (String.le_antisymm (String.not_lt.1 notLarger)
                    (String.not_lt.1 notSmaller)) other
              · exact first x member

def insert (shorthand : Shorthand) (pattern replacement : String) : Shorthand :=
  ⟨put pattern replacement shorthand.entries, pairwise_put _ _ shorthand.ascending⟩

/-- The shorthand with the given entries; the last one of a pattern counts. -/
def ofList (entries : List (String × String)) : Shorthand :=
  entries.foldl (fun shorthand (pattern, replacement) => shorthand.insert pattern replacement) empty

end Shorthand

/-- What is put in front of the references of a pattern. -/
def frontOf (pattern replacement : List Char) : List Char :=
  Text.dropEnding pattern replacement

/-- Put the front before a reference, unless the text before it, which is given backwards, ends with
    a dot or with the front. -/
def withFront (pattern front before digits : List Char) : List Char :=
  let reference := pattern ++ digits ++ ['.']
  if ['.'].isPrefixOf before || front.reverse.isPrefixOf before then reference
  else front ++ reference

/-- Apply one entry. Entries with a blank pattern or replacement do nothing. -/
def expandEntry (s : List Char) (entry : String × String) : List Char :=
  let pattern := Text.trim entry.1.toList
  let replacement := Text.trim entry.2.toList
  if pattern.isEmpty || replacement.isEmpty then s
  else
    replaceReferences pattern Text.isWordDigit
      (withFront pattern (frontOf pattern replacement)) [] s

def expand (shorthand : Shorthand) (source : String) : String :=
  String.ofList (shorthand.entries.foldl expandEntry source.toList)

end AuctionBudget.Rule
