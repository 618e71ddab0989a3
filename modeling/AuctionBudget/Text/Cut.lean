/-! # Cutting a text

A text is cut in two at the first place where a character stands, and a given start or end is
taken off it.
-/

namespace AuctionBudget.Text

/-- What stands before and after the first `mark`, which is left out; `none` without one. -/
def cutAt (mark : Char) : List Char → Option (List Char × List Char)
  | [] => none
  | c :: rest =>
      if c = mark then some ([], rest)
      else (cutAt mark rest).map fun (before, after) => (c :: before, after)

/-- What follows the given start of a text; `none` where the text starts otherwise. -/
def after? : (start s : List Char) → Option (List Char)
  | [], s => some s
  | _ :: _, [] => none
  | a :: start, c :: s => if a = c then after? start s else none

/-- The start and what follows it are the text. -/
theorem after?_eq_some_iff {start s rest : List Char} :
    after? start s = some rest ↔ s = start ++ rest := by
  induction start generalizing s with
  | nil => simp [after?, eq_comm]
  | cons a start ih =>
      cases s with
      | nil => simp [after?]
      | cons c s =>
          by_cases same : a = c
          · simp [after?, same, ih]
          · simp [after?, same, Ne.symm same]

/-- A text without the given ending, or the whole text where it ends otherwise. -/
def dropEnding (ending s : List Char) : List Char :=
  (ending.isSuffixOf? s).getD s

/-- The two parts with the mark between them are the text. -/
theorem append_of_cutAt_eq_some {mark : Char} {s before after : List Char}
    (h : cutAt mark s = some (before, after)) : s = before ++ mark :: after := by
  induction s generalizing before with
  | nil => simp [cutAt] at h
  | cons c rest ih =>
      by_cases hc : c = mark
      · simp only [cutAt, hc, if_true, Option.some.injEq, Prod.mk.injEq] at h
        obtain ⟨rfl, rfl⟩ := h
        simp [hc]
      · simp only [cutAt, hc, if_false, Option.map_eq_some_iff, Prod.mk.injEq, Prod.exists] at h
        obtain ⟨found, rest', hfound, rfl, rfl⟩ := h
        simp [ih hfound]

/-- The cut is made at the first mark. -/
theorem not_mem_of_cutAt_eq_some {mark : Char} {s before after : List Char}
    (h : cutAt mark s = some (before, after)) : mark ∉ before := by
  induction s generalizing before with
  | nil => simp [cutAt] at h
  | cons c rest ih =>
      by_cases hc : c = mark
      · simp only [cutAt, hc, if_true, Option.some.injEq, Prod.mk.injEq] at h
        simp [← h.1]
      · simp only [cutAt, hc, if_false, Option.map_eq_some_iff, Prod.mk.injEq, Prod.exists] at h
        obtain ⟨found, rest', hfound, rfl, rfl⟩ := h
        simp [ih hfound, Ne.symm hc]

/-- Without a mark there is no cut, and only then. -/
theorem cutAt_eq_none_iff {mark : Char} {s : List Char} : cutAt mark s = none ↔ mark ∉ s := by
  induction s with
  | nil => simp [cutAt]
  | cons c rest ih =>
      by_cases hc : c = mark
      · simp [cutAt, hc]
      · simp [cutAt, hc, ih, Ne.symm hc]

end AuctionBudget.Text
