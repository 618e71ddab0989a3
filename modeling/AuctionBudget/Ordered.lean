/-! # Lists in order

Sorting by insertion. Items that compare equal keep their places, so sorting by a second key and
then by a first one orders by both. The result holds the same items and is ordered whenever the
comparison is total and transitive. What is in order stays as it is, and some of the items come out
in the order that they have among all.
-/

namespace AuctionBudget.Ordered

/-- Put an item in front of the first one that it may precede. -/
def insertBy (le : α → α → Bool) (a : α) : List α → List α
  | [] => [a]
  | b :: rest => if le a b then a :: b :: rest else b :: insertBy le a rest

/-- The items in ascending order; equal ones keep their places. -/
def sortBy (le : α → α → Bool) (items : List α) : List α :=
  items.foldr (insertBy le) []

theorem insertBy_perm (le : α → α → Bool) (a : α) (items : List α) :
    (insertBy le a items).Perm (a :: items) := by
  induction items with
  | nil => exact .refl _
  | cons b rest ih =>
      unfold insertBy
      split
      · exact .refl _
      · exact (ih.cons b).trans (.swap a b rest)

/-- Sorting loses nothing and adds nothing. -/
theorem sortBy_perm (le : α → α → Bool) (items : List α) : (sortBy le items).Perm items := by
  induction items with
  | nil => exact .refl _
  | cons a rest ih => exact (insertBy_perm le a _).trans (ih.cons a)

@[simp] theorem mem_sortBy {le : α → α → Bool} {items : List α} {a : α} :
    a ∈ sortBy le items ↔ a ∈ items :=
  (sortBy_perm le items).mem_iff

variable {le : α → α → Bool}

theorem pairwise_insertBy (total : ∀ a b, le a b = true ∨ le b a = true)
    (trans : ∀ a b c, le a b = true → le b c = true → le a c = true) (a : α) {items : List α}
    (sorted : items.Pairwise (le · ·)) : (insertBy le a items).Pairwise (le · ·) := by
  induction items with
  | nil => simp [insertBy]
  | cons b rest ih =>
      rw [List.pairwise_cons] at sorted
      unfold insertBy
      split
      · next first =>
          refine List.pairwise_cons.2 ⟨fun c member => ?_, List.pairwise_cons.2 sorted⟩
          rcases List.mem_cons.1 member with rfl | later
          · exact first
          · exact trans _ _ _ first (sorted.1 c later)
      · next later =>
          refine List.pairwise_cons.2 ⟨fun c member => ?_, ih sorted.2⟩
          rcases List.mem_cons.1 ((insertBy_perm le a rest).mem_iff.1 member) with rfl | other
          · exact (total c b).resolve_left later
          · exact sorted.1 c other

/-- The result of sorting is ordered. -/
theorem pairwise_sortBy (total : ∀ a b, le a b = true ∨ le b a = true)
    (trans : ∀ a b c, le a b = true → le b c = true → le a c = true) (items : List α) :
    (sortBy le items).Pairwise (le · ·) := by
  induction items with
  | nil => simp [sortBy]
  | cons a rest ih => exact pairwise_insertBy total trans a ih

theorem map_insertBy {f : α → β} {le : β → β → Bool} (a : α) (items : List α) :
    (insertBy (fun a b => le (f a) (f b)) a items).map f = insertBy le (f a) (items.map f) := by
  induction items with
  | nil => rfl
  | cons b rest ih =>
      simp only [insertBy, List.map_cons]
      split
      · rfl
      · rw [List.map_cons, ih]

/-- Items may be sorted before or after they are changed. -/
theorem map_sortBy {f : α → β} {le : β → β → Bool} (items : List α) :
    (sortBy (fun a b => le (f a) (f b)) items).map f = sortBy le (items.map f) := by
  induction items with
  | nil => rfl
  | cons a rest ih => exact (map_insertBy a _).trans (congrArg (insertBy le (f a)) ih)

theorem insertBy_of_forall {a : α} {items : List α} (first : ∀ b ∈ items, le a b = true) :
    insertBy le a items = a :: items := by
  cases items with
  | nil => rfl
  | cons b rest => rw [insertBy, if_pos (first b List.mem_cons_self)]

theorem filter_insertBy (trans : ∀ a b c, le a b = true → le b c = true → le a c = true)
    (keep : α → Bool) (a : α) {items : List α} (sorted : items.Pairwise (le · ·)) :
    (insertBy le a items).filter keep =
      if keep a then insertBy le a (items.filter keep) else items.filter keep := by
  induction items with
  | nil => cases kept : keep a <;> simp [insertBy, kept]
  | cons b rest ih =>
      obtain ⟨behind, later⟩ := List.pairwise_cons.1 sorted
      by_cases first : le a b = true
      · -- What is kept of the rest stays behind `a`.
        have before : ∀ c ∈ (b :: rest).filter keep, le a c = true := by
          intro c member
          rcases List.mem_cons.1 (List.mem_filter.1 member).1 with rfl | there
          · exact first
          · exact trans a b c first (behind c there)
        rw [insertBy, if_pos first, List.filter_cons, insertBy_of_forall before]
      · rw [insertBy, if_neg first]
        by_cases kept : keep b = true
        · rw [List.filter_cons_of_pos kept, List.filter_cons_of_pos kept, ih later, insertBy,
            if_neg first]
          split <;> rfl
        · rw [List.filter_cons_of_neg kept, List.filter_cons_of_neg kept, ih later]

/-- Some of the items come out in the order that they have among all. -/
theorem filter_sortBy (total : ∀ a b, le a b = true ∨ le b a = true)
    (trans : ∀ a b c, le a b = true → le b c = true → le a c = true) (keep : α → Bool)
    (items : List α) : (sortBy le items).filter keep = sortBy le (items.filter keep) := by
  induction items with
  | nil => rfl
  | cons a rest ih =>
      have step : (sortBy le (a :: rest)).filter keep =
          if keep a then insertBy le a ((sortBy le rest).filter keep)
          else (sortBy le rest).filter keep :=
        filter_insertBy trans keep a (pairwise_sortBy total trans rest)
      rw [step, ih, List.filter_cons]
      split <;> rfl

end AuctionBudget.Ordered
