import AuctionBudget.Proofs.Rule.Reference
import AuctionBudget.Rule.Shorthand

/-! # What an abbreviation does to a text

An entry of the shorthand puts its front before a reference, unless a dot or the front stands there
already. So it only inserts, and leaves a text alone just when every reference that is found in it
is guarded in this way.
-/

namespace AuctionBudget.Rule

open Text

/-- A pattern, and what is put in front of its references. -/
structure Abbreviation where
  pattern : List Char
  front : List Char
  deriving DecidableEq

/-- What an entry of a shorthand does; nothing if its pattern or its replacement is blank. -/
def abbreviation? (entry : String × String) : Option Abbreviation :=
  let pattern := trim entry.1.toList
  let replacement := trim entry.2.toList
  if pattern.isEmpty || replacement.isEmpty then none
  else some ⟨pattern, frontOf pattern replacement⟩

def Shorthand.abbreviations (shorthand : Shorthand) : List Abbreviation :=
  shorthand.entries.filterMap abbreviation?

/-- A dot or the front stands at the end of a text, which is given backwards. -/
def Guarded (front before : List Char) : Prop :=
  ['.'] <+: before ∨ front.reverse <+: before

theorem withFront_guarded {pattern front before digits : List Char}
    (guarded : Guarded front before) :
    withFront pattern front before digits = pattern ++ digits ++ ['.'] := by
  simp only [withFront, Bool.or_eq_true, List.isPrefixOf_iff_prefix]
  exact if_pos guarded

theorem withFront_bare {pattern front before digits : List Char} (bare : ¬ Guarded front before) :
    withFront pattern front before digits = front ++ (pattern ++ digits ++ ['.']) := by
  simp only [withFront, Bool.or_eq_true, List.isPrefixOf_iff_prefix]
  exact if_neg bare

namespace Abbreviation

variable {a : Abbreviation} {before s t w w' rest behind behind' stands : List Char} {c : Char}

/-- Apply an abbreviation to a text that continues `before`, which is given backwards. -/
def expand (a : Abbreviation) (before s : List Char) : List Char :=
  replaceReferences a.pattern isWordDigit (withFront a.pattern a.front) before s

/-- The pattern with a number behind it. -/
def Names (a : Abbreviation) (w : List Char) : Prop :=
  ∃ digits, digits ≠ [] ∧ AllIn isWordDigit digits ∧ w = a.pattern ++ digits

theorem names_iff_drop : a.Names w ↔
    a.pattern <+: w ∧ w.drop a.pattern.length ≠ [] ∧
      AllIn isWordDigit (w.drop a.pattern.length) := by
  constructor
  · rintro ⟨digits, nonempty, all, rfl⟩
    rw [List.drop_left]
    exact ⟨List.prefix_append _ _, nonempty, all⟩
  · rintro ⟨⟨digits, rfl⟩, nonempty, all⟩
    rw [List.drop_left] at nonempty all
    exact ⟨digits, nonempty, all, rfl⟩

instance : Decidable (a.Names w) := decidable_of_iff _ names_iff_drop.symm

/-- A text starts with a reference, at the border of a word. -/
structure RefersAt (a : Abbreviation) (before s w behind : List Char) : Prop where
  names : a.Names w
  split : s = w ++ '.' :: behind
  border : isWordBorder before s = true

theorem RefersAt.ne_nil (refers : a.RefersAt before s w behind) : s ≠ [] := by
  rw [refers.split]
  simp

theorem referenceAt?_eq_some {digits : List Char} :
    referenceAt? a.pattern isWordDigit s = some (digits, behind) ↔
      digits ≠ [] ∧ AllIn isWordDigit digits ∧ s = a.pattern ++ digits ++ '.' :: behind :=
  referenceAt?_eq_some_iff (by decide)

theorem RefersAt.unique (one : a.RefersAt before s w behind)
    (other : a.RefersAt before s w' behind') : w = w' ∧ behind = behind' := by
  obtain ⟨digits, nonempty, all, rfl⟩ := one.names
  obtain ⟨digits', nonempty', all', rfl⟩ := other.names
  have found := referenceAt?_eq_some.2 ⟨nonempty, all, one.split⟩
  have found' := referenceAt?_eq_some.2 ⟨nonempty', all', other.split⟩
  cases found.symm.trans found'
  exact ⟨rfl, rfl⟩

/-- What an abbreviation makes of a text, from left to right. -/
inductive Expands (a : Abbreviation) : (before s t : List Char) → Prop where
  | nil {before : List Char} : Expands a before [] []
  | kept {before s w behind t : List Char} : a.RefersAt before s w behind →
      Guarded a.front before → Expands a ('.' :: w.reverse ++ before) behind t →
      Expands a before s (w ++ '.' :: t)
  | fronted {before s w behind t : List Char} : a.RefersAt before s w behind →
      ¬ Guarded a.front before → Expands a ('.' :: w.reverse ++ before) behind t →
      Expands a before s (a.front ++ (w ++ '.' :: t))
  | later {before : List Char} {c : Char} {rest t : List Char} :
      (∀ w behind, ¬ a.RefersAt before (c :: rest) w behind) → Expands a (c :: before) rest t →
      Expands a before (c :: rest) (c :: t)

theorem expands_expand (a : Abbreviation) (before s : List Char) :
    Expands a before s (a.expand before s) := by
  unfold expand
  fun_induction replaceReferences a.pattern isWordDigit (withFront a.pattern a.front) before s with
  | case1 => exact .nil
  | case2 before c rest border digits behind found ih =>
      obtain ⟨nonempty, all, split⟩ := referenceAt?_eq_some.1 found
      have refers : a.RefersAt before (c :: rest) (a.pattern ++ digits) behind :=
        ⟨⟨digits, nonempty, all, rfl⟩, split, border⟩
      rw [List.reverse_concat'] at ih
      by_cases guarded : Guarded a.front before
      · have kept := Expands.kept refers guarded ih
        rw [withFront_guarded guarded]
        simpa using kept
      · have fronted := Expands.fronted refers guarded ih
        rw [withFront_bare guarded]
        simpa using fronted
  | case3 before c rest border none ih =>
      refine .later ?_ ih
      rintro w behind ⟨⟨digits, nonempty, all, rfl⟩, split, -⟩
      cases none.symm.trans (referenceAt?_eq_some.2 ⟨nonempty, all, split⟩)
  | case4 before c rest inside ih =>
      refine .later ?_ ih
      intro w behind refers
      exact inside refers.border

/-- What stands before a reference that is found in a text. Reading goes on behind each reference
    that it finds, so that references do not overlap. -/
inductive Finds (a : Abbreviation) : (before s stands : List Char) → Prop where
  | here {before s w behind : List Char} : a.RefersAt before s w behind → Finds a before s before
  | behind {before s w behind stands : List Char} : a.RefersAt before s w behind →
      Finds a ('.' :: w.reverse ++ before) behind stands → Finds a before s stands
  | later {before : List Char} {c : Char} {rest stands : List Char} :
      (∀ w behind, ¬ a.RefersAt before (c :: rest) w behind) → Finds a (c :: before) rest stands →
      Finds a before (c :: rest) stands

theorem finds_of_refersAt (refers : a.RefersAt before s w behind) :
    a.Finds before s stands ↔
      stands = before ∨ a.Finds ('.' :: w.reverse ++ before) behind stands := by
  constructor
  · intro finds
    cases finds with
    | here => exact .inl rfl
    | behind other onward =>
        obtain ⟨rfl, rfl⟩ := refers.unique other
        exact .inr onward
    | later none => exact absurd refers (none _ _)
  · rintro (rfl | onward)
    · exact .here refers
    · exact .behind refers onward

theorem finds_later (none : ∀ w behind, ¬ a.RefersAt before (c :: rest) w behind) :
    a.Finds before (c :: rest) stands ↔ a.Finds (c :: before) rest stands := by
  constructor
  · intro finds
    cases finds with
    | here refers => exact absurd refers (none _ _)
    | behind refers => exact absurd refers (none _ _)
    | later _ onward => exact onward
  · exact .later none

/-- An abbreviation only inserts. -/
theorem Expands.sublist (expands : a.Expands before s t) : s.Sublist t := by
  induction expands with
  | nil => exact List.Sublist.refl []
  | kept refers _ _ ih =>
      rw [refers.split]
      exact (ih.cons_cons '.').append_left _
  | fronted refers _ _ ih =>
      rw [refers.split]
      exact ((ih.cons_cons '.').append_left _).trans (List.sublist_append_right _ _)
  | later _ _ ih => exact ih.cons_cons _

/-- An abbreviation leaves a text alone just when every reference that it finds is guarded, and
    makes every other text longer. -/
theorem Expands.eq_or_longer (expands : a.Expands before s t) :
    (t = s ∧ ∀ stands, a.Finds before s stands → Guarded a.front stands) ∨
      (s.length < t.length ∧ ∃ stands, a.Finds before s stands ∧ ¬ Guarded a.front stands) := by
  induction expands with
  | nil =>
      refine .inl ⟨rfl, ?_⟩
      intro stands finds
      cases finds with
      | here refers => exact absurd rfl refers.ne_nil
      | behind refers => exact absurd rfl refers.ne_nil
  | kept refers guarded _ ih =>
      rcases ih with ⟨rfl, all⟩ | ⟨longer, stands, finds, bare⟩
      · refine .inl ⟨refers.split.symm, ?_⟩
        intro stands finds
        rcases (finds_of_refersAt refers).1 finds with rfl | onward
        · exact guarded
        · exact all stands onward
      · refine .inr ⟨?_, stands, .behind refers finds, bare⟩
        rw [refers.split]
        simpa using longer
  | fronted refers bare onward ih =>
      refine .inr ⟨?_, _, .here refers, bare⟩
      have nonempty : a.front ≠ [] := by
        intro empty
        exact bare (.inr (by simp [empty]))
      have positive := List.length_pos_iff.2 nonempty
      have behindLonger := onward.sublist.length_le
      rw [refers.split]
      simp only [List.length_append, List.length_cons]
      omega
  | later none _ ih =>
      rcases ih with ⟨rfl, all⟩ | ⟨longer, stands, finds, bare⟩
      · exact .inl ⟨rfl, fun stands finds => all stands ((finds_later none).1 finds)⟩
      · exact .inr ⟨Nat.succ_lt_succ longer, stands, .later none finds, bare⟩

theorem expand_eq_self_iff :
    a.expand before s = s ↔ ∀ stands, a.Finds before s stands → Guarded a.front stands := by
  rcases (a.expands_expand before s).eq_or_longer with ⟨same, all⟩ | ⟨longer, stands, finds, bare⟩
  · exact iff_of_true same all
  · refine iff_of_false (fun same => ?_) fun all => bare (all stands finds)
    rw [same] at longer
    exact Nat.lt_irrefl _ longer

theorem sublist_expand : s.Sublist (a.expand before s) :=
  (a.expands_expand before s).sublist

end Abbreviation

def expandAll (abbreviations : List Abbreviation) (s : List Char) : List Char :=
  abbreviations.foldl (fun s a => a.expand [] s) s

theorem expandEntry_eq {s : List Char} {entry : String × String} :
    expandEntry s entry = (abbreviation? entry).elim s (·.expand [] s) := by
  simp only [expandEntry, abbreviation?]
  split <;> rfl

theorem toList_expand (shorthand : Shorthand) (source : String) :
    (expand shorthand source).toList = expandAll shorthand.abbreviations source.toList := by
  simp only [expand, String.toList_ofList, expandAll, Shorthand.abbreviations,
    List.foldl_filterMap]
  congr 1
  funext s entry
  rw [expandEntry_eq]
  cases abbreviation? entry <;> rfl

theorem sublist_expandAll {abbreviations : List Abbreviation} {s : List Char} :
    s.Sublist (expandAll abbreviations s) := by
  induction abbreviations generalizing s with
  | nil => exact List.Sublist.refl s
  | cons a later ih => exact Abbreviation.sublist_expand.trans ih

/-- What one abbreviation inserts, no other one takes away. -/
theorem expandAll_eq_self_iff {abbreviations : List Abbreviation} {s : List Char} :
    expandAll abbreviations s = s ↔ ∀ a ∈ abbreviations, a.expand [] s = s := by
  induction abbreviations with
  | nil => simp [expandAll]
  | cons a later ih =>
      have first : expandAll (a :: later) s = expandAll later (a.expand [] s) := rfl
      rw [List.forall_mem_cons, first, ← ih]
      rcases (a.expands_expand [] s).eq_or_longer with ⟨same, -⟩ | ⟨longer, -⟩
      · rw [same]
        simp
      · refine iff_of_false (fun all => ?_) fun both => ?_
        · have kept : (a.expand [] s).length ≤ (expandAll later (a.expand [] s)).length :=
            sublist_expandAll.length_le
          rw [all] at kept
          omega
        · rw [both.1] at longer
          exact Nat.lt_irrefl _ longer

end AuctionBudget.Rule
