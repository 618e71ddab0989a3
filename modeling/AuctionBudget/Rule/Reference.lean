import AuctionBudget.Text.Cut
import AuctionBudget.Text.Word

/-! # Dotted references in a rule text

A rule text names its data by dotted references. Two replacements look for the same shape, a fixed
head, a run of characters of one class, and a dot, standing at a border of a word:

* shorthand such as `l12.` is a pattern followed by decimal digits;
* a map path such as `playerLevels.l12.` is a root with a dot, followed by a key.

References are replaced from left to right and do not overlap.
-/

namespace AuctionBudget.Rule

/-- The run and what follows the dot, where a text starts with the head, at least one character of
    the class, and a dot that ends the run. -/
def referenceAt? (head : List Char) (inRun : Char → Bool) (s : List Char) :
    Option (List Char × List Char) :=
  match Text.after? head s with
  | none => none
  | some behind =>
      match behind.takeWhile inRun, behind.dropWhile inRun with
      | first :: run, '.' :: rest => some (first :: run, rest)
      | _, _ => none

/-- A reference is not empty. -/
theorem length_lt_of_referenceAt?_eq_some {head : List Char} {inRun : Char → Bool}
    {s run rest : List Char} (h : referenceAt? head inRun s = some (run, rest)) :
    rest.length < s.length := by
  unfold referenceAt? at h
  split at h
  · simp at h
  · next behind found =>
      have bound : behind.length ≤ s.length := by
        simp [Text.after?_eq_some_iff.1 found]
      split at h
      · next first tail left right e₁ e₂ =>
          simp only [Option.some.injEq, Prod.mk.injEq] at h
          obtain ⟨-, rfl⟩ := h
          have drop := (List.dropWhile_sublist (l := behind) inRun).length_le
          rw [e₂] at drop
          simp only [List.length_cons] at drop
          omega
      · simp at h

/-- Replace the references with the given head in a text that continues `before`, which is given
    backwards. `replacement` sees what stands before a reference, backwards, and its run. -/
def replaceReferences (head : List Char) (inRun : Char → Bool)
    (replacement : List Char → List Char → List Char) (before s : List Char) : List Char :=
  match s with
  | [] => []
  | c :: rest =>
      if Text.isWordBorder before (c :: rest) then
        match _found : referenceAt? head inRun (c :: rest) with
        | some (run, behind) =>
            replacement before run ++
              replaceReferences head inRun replacement
                ((head ++ run ++ ['.']).reverse ++ before) behind
        | none => c :: replaceReferences head inRun replacement (c :: before) rest
      else c :: replaceReferences head inRun replacement (c :: before) rest
termination_by s.length
decreasing_by
  · exact length_lt_of_referenceAt?_eq_some _found
  · simp
  · simp

end AuctionBudget.Rule
