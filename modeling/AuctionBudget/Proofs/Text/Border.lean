import AuctionBudget.Text.Blank
import AuctionBudget.Text.Cut
import AuctionBudget.Text.Word
import Mathlib.Data.List.Basic

/-! # Runs of characters and their borders

A text that is made of runs of one class of characters, with other characters between them, can be
taken apart in one way only. Rule texts are such texts: names, keys and numbers are runs of word
characters, and blanks, signs and parentheses separate them.
-/

namespace AuctionBudget.Text

variable {inClass : Char → Bool} {c : Char} {u v w s t rest : List Char}

/-- What holds of every character of a text is decided by going through the text, not through all
    characters that there are. -/
scoped instance (priority := high) decidableForallMem {α : Type} {p : α → Prop}
    [DecidablePred p] {items : List α} :
    Decidable (∀ a ∈ items, p a) :=
  List.decidableBAll p items

/-- All characters of a text are in the class. -/
abbrev AllIn (inClass : Char → Bool) (s : List Char) : Prop := ∀ c ∈ s, inClass c = true

theorem AllIn.nil : AllIn inClass [] := List.forall_mem_nil _

theorem AllIn.cons (first : inClass c = true) (later : AllIn inClass s) : AllIn inClass (c :: s) :=
  List.forall_mem_cons.2 ⟨first, later⟩

theorem AllIn.append (left : AllIn inClass s) (right : AllIn inClass t) : AllIn inClass (s ++ t) :=
  List.forall_mem_append.2 ⟨left, right⟩

/-- A text does not start in the class. -/
def StartsOutside (inClass : Char → Bool) (s : List Char) : Prop :=
  ∀ c ∈ s.head?, inClass c = false

@[simp] theorem startsOutside_nil : StartsOutside inClass [] := by
  simp [StartsOutside]

@[simp] theorem startsOutside_cons : StartsOutside inClass (c :: s) ↔ inClass c = false := by
  simp [StartsOutside]

theorem takeWhile_of_startsOutside (outside : StartsOutside inClass s) :
    s.takeWhile inClass = [] := by
  cases s with
  | nil => rfl
  | cons c rest => simp [outside c rfl]

theorem dropWhile_of_startsOutside (outside : StartsOutside inClass s) :
    s.dropWhile inClass = s := by
  cases s with
  | nil => rfl
  | cons c rest => simp [outside c rfl]

theorem startsOutside_dropWhile : StartsOutside inClass (s.dropWhile inClass) := by
  intro c first
  have outside := List.head?_dropWhile_not inClass s
  rwa [Option.mem_def.1 first] at outside

/-- A run ends where the text behind it leaves the class. -/
theorem takeWhile_run (run : AllIn inClass u) (outside : StartsOutside inClass s) :
    (u ++ s).takeWhile inClass = u := by
  rw [List.takeWhile_append_of_pos run, takeWhile_of_startsOutside outside, List.append_nil]

theorem dropWhile_run (run : AllIn inClass u) (outside : StartsOutside inClass s) :
    (u ++ s).dropWhile inClass = s := by
  rw [List.dropWhile_append_of_pos run, dropWhile_of_startsOutside outside]

/-- A text has only one run at its start. -/
theorem run_unique (left : AllIn inClass u) (right : AllIn inClass v)
    (outsideLeft : StartsOutside inClass s) (outsideRight : StartsOutside inClass t)
    (same : u ++ s = v ++ t) : u = v ∧ s = t := by
  have runs : u = v := by
    rw [← takeWhile_run left outsideLeft, same, takeWhile_run right outsideRight]
  subst runs
  exact ⟨rfl, List.append_cancel_left same⟩

@[simp] theorem startsWord_nil : startsWord [] = false := rfl

@[simp] theorem startsWord_cons : startsWord (c :: s) = isWordChar c := rfl

theorem startsWord_of_startsOutside (outside : StartsOutside isWordChar s) :
    startsWord s = false := by
  cases s with
  | nil => rfl
  | cons c rest => exact outside c rfl

theorem startsWord_append (nonempty : w ≠ []) (word : AllIn isWordChar w) :
    startsWord (w ++ s) = true := by
  cases w with
  | nil => exact absurd rfl nonempty
  | cons c w => exact word c List.mem_cons_self

/-- A place in front of a word character is a border if none stands before it. -/
theorem isWordBorder_iff (start : startsWord t = true) :
    isWordBorder s t = true ↔ startsWord s = false := by
  simp [isWordBorder, start]

/-- The blanks, one by one. -/
def blanks : List Char :=
  ['\t', '\n', '\x0b', '\x0c', '\r', ' ', '\u0085', '\u00a0', '\u1680', '\u2000', '\u2001',
    '\u2002', '\u2003', '\u2004', '\u2005', '\u2006', '\u2007', '\u2008', '\u2009', '\u200a',
    '\u2028', '\u2029', '\u202f', '\u205f', '\u3000']

theorem mem_blanks_of_isBlank (h : isBlank c = true) : c ∈ blanks := by
  have code : c.toNat ∈ blanks.map Char.toNat := by
    simp only [isBlank, Bool.or_eq_true, Bool.and_eq_true, decide_eq_true_eq, beq_iff_eq] at h
    simp only [blanks, List.map, List.mem_cons, Char.reduceToNat, List.not_mem_nil]
    omega
  obtain ⟨d, member, same⟩ := List.mem_map.1 code
  rwa [Char.toNat_inj.1 same] at member

/-- The signs that stand between the operands of an expression. -/
def signs : List Char := ['+', '-', '*', '/', '(', ')']

/-- Characters that separate the operands of an expression. -/
def isSeparator (c : Char) : Bool :=
  isBlank c || signs.contains c

theorem isSeparator_of_isBlank (h : isBlank c = true) : isSeparator c = true := by
  simp [isSeparator, h]

theorem mem_of_isSeparator (h : isSeparator c = true) : c ∈ blanks ++ signs := by
  simp only [isSeparator, Bool.or_eq_true, List.contains_iff_mem] at h
  rcases h with blank | sign
  · exact List.mem_append_left _ (mem_blanks_of_isBlank blank)
  · exact List.mem_append_right _ sign

/-- No separator belongs to a word or number, or to an operator of a comparison. -/
theorem separators_apart : ∀ c ∈ blanks ++ signs,
    isWordChar c = false ∧ isAlphanumeric c = false ∧ c ≠ '.' ∧ c ≠ '_' ∧
      c ≠ '<' ∧ c ≠ '>' ∧ c ≠ '=' := by
  decide +kernel

theorem isWordChar_of_isSeparator (h : isSeparator c = true) : isWordChar c = false :=
  (separators_apart c (mem_of_isSeparator h)).1

/-- A text is empty or starts with a separator. -/
def Loose (s : List Char) : Prop := ∀ c ∈ s.head?, isSeparator c = true

@[simp] theorem loose_nil : Loose [] := by
  simp [Loose]

@[simp] theorem loose_cons : Loose (c :: s) ↔ isSeparator c = true := by
  simp [Loose]

theorem Loose.of_gap (nonempty : w ≠ []) (gap : AllIn isSeparator w) : Loose (w ++ s) := by
  cases w with
  | nil => exact absurd rfl nonempty
  | cons c w => exact loose_cons.2 (gap c List.mem_cons_self)

theorem Loose.startsOutside_words (h : Loose s) : StartsOutside isWordChar s :=
  fun c member => isWordChar_of_isSeparator (h c member)

theorem Loose.noDot (h : Loose s) : s.head? ≠ some '.' :=
  fun dot => (separators_apart '.' (mem_of_isSeparator (h '.' dot))).2.2.1 rfl

theorem Loose.append (left : Loose s) (right : Loose t) : Loose (s ++ t) := by
  cases s with
  | nil => exact right
  | cons c rest => exact left

/-- A text that trimming leaves as it is. -/
structure Solid (s : List Char) : Prop where
  nonempty : s ≠ []
  first : StartsOutside isBlank s
  last : StartsOutside isBlank s.reverse

theorem Solid.of_forall (nonempty : s ≠ []) (none : ∀ c ∈ s, isBlank c = false) : Solid s where
  nonempty := nonempty
  first c member := none c (List.mem_of_mem_head? member)
  last c member := none c (List.mem_reverse.1 (List.mem_of_mem_head? member))

theorem StartsOutside.append (outside : StartsOutside inClass s) (nonempty : s ≠ []) :
    StartsOutside inClass (s ++ t) := by
  cases s with
  | nil => exact absurd rfl nonempty
  | cons c s => simpa using outside

/-- The ends of two texts are those of all that starts with the one and ends with the other. -/
theorem Solid.around (left : Solid s) (right : Solid t) : Solid (s ++ w ++ t) where
  nonempty := by simp [left.nonempty]
  first := by
    rw [List.append_assoc]
    exact left.first.append left.nonempty
  last := by
    rw [List.reverse_append]
    exact right.last.append (by simpa using right.nonempty)

theorem Solid.append (left : Solid s) (right : Solid t) : Solid (s ++ t) := by
  simpa using left.around (w := []) right

/-- What is around a text is taken off it and nothing else. -/
theorem stripBoth_around (nonempty : s ≠ []) (first : StartsOutside inClass s)
    (last : StartsOutside inClass s.reverse) (lead : AllIn inClass u) (trail : AllIn inClass v) :
    stripBoth inClass (u ++ s ++ v) = s := by
  have trailBack : AllIn inClass v.reverse := fun c member => trail c (List.mem_reverse.1 member)
  rw [stripBoth, List.append_assoc, dropWhile_run lead (first.append nonempty),
    List.reverse_append, dropWhile_run trailBack last, List.reverse_reverse]

theorem trim_around (lead : AllIn isBlank u) (solid : Solid s) (trail : AllIn isBlank v) :
    trim (u ++ s ++ v) = s :=
  stripBoth_around solid.nonempty solid.first solid.last lead trail

theorem trim_of_solid (solid : Solid s) : trim s = s := by
  have whole := trim_around .nil solid .nil
  simpa using whole

/-- Trimming takes blanks off both ends of a text and leaves a text without blanks at its ends. -/
theorem exists_blanks_around (visible : isAllBlank s = false) :
    ∃ u v, AllIn isBlank u ∧ Solid (trim s) ∧ AllIn isBlank v ∧ s = u ++ trim s ++ v := by
  have nonempty : trim s ≠ [] := by
    intro empty
    rw [trim_eq_nil_iff.1 empty] at visible
    cases visible
  have ends : ∃ v, AllIn isBlank v ∧ s.dropWhile isBlank = trim s ++ v := by
    refine ⟨((s.dropWhile isBlank).reverse.takeWhile isBlank).reverse, fun c member => ?_, ?_⟩
    · exact List.all_eq_true.1 List.all_takeWhile c (List.mem_reverse.1 member)
    · rw [trim, stripBoth, ← List.reverse_append, List.takeWhile_append_dropWhile,
        List.reverse_reverse]
  obtain ⟨v, trail, ends⟩ := ends
  refine ⟨s.takeWhile isBlank, v, List.all_eq_true.1 List.all_takeWhile, ⟨nonempty, ?_, ?_⟩,
    trail, ?_⟩
  · have first : StartsOutside isBlank (trim s ++ v) := ends ▸ startsOutside_dropWhile
    cases kept : trim s with
    | nil => exact absurd kept nonempty
    | cons c rest =>
        rw [kept] at first
        exact first
  · rw [trim, stripBoth, List.reverse_reverse]
    exact startsOutside_dropWhile
  · rw [List.append_assoc, ← ends, List.takeWhile_append_dropWhile]

/-- Blanks around a text do not matter to trimming. -/
theorem trim_between (lead : AllIn isBlank u) (trail : AllIn isBlank v) :
    trim (u ++ s ++ v) = trim s := by
  by_cases blank : isAllBlank s = true
  · have all : AllIn isBlank (u ++ s ++ v) := (lead.append (List.all_eq_true.1 blank)).append trail
    rw [trim_eq_nil_iff.2 blank, trim_eq_nil_iff.2 (List.all_eq_true.2 all)]
  · rw [Bool.not_eq_true] at blank
    obtain ⟨u', v', lead', solid, trail', same⟩ := exists_blanks_around blank
    have whole : u ++ s ++ v = (u ++ u') ++ trim s ++ (v' ++ v) := by
      conv_lhs => rw [same]
      simp only [List.append_assoc]
    rw [whole, trim_around (lead.append lead') solid (trail'.append trail)]

theorem isAllBlank_of_solid (solid : Solid s) : isAllBlank (u ++ s ++ v) = false := by
  cases s with
  | nil => exact absurd rfl solid.nonempty
  | cons c s =>
      have visible : isBlank c = false := startsOutside_cons.1 solid.first
      simp [isAllBlank, visible]

/-- What is inserted into a text does not make it blank. -/
theorem isAllBlank_of_sublist (sublist : s.Sublist t) (visible : isAllBlank s = false) :
    isAllBlank t = false := by
  rw [Bool.eq_false_iff] at visible ⊢
  intro blank
  exact visible (List.all_eq_true.2 fun c member =>
    List.all_eq_true.1 blank c (sublist.subset member))

/-- Dropping an ending. -/
theorem dropEnding_append : dropEnding v (u ++ v) = u := by
  have ending : v.isSuffixOf? (u ++ v) = some u := List.isSuffixOf?_eq_some_iff_append_eq.2 rfl
  rw [dropEnding, ending, Option.getD_some]

/-- A text that ends otherwise stays. -/
theorem dropEnding_of_ne (other : ∀ u, u ++ v ≠ s) : dropEnding v s = s := by
  have none : v.isSuffixOf? s = none := by
    rw [Option.eq_none_iff_forall_ne_some]
    intro u ending
    exact other u (List.isSuffixOf?_eq_some_iff_append_eq.1 ending)
  rw [dropEnding, none, Option.getD_none]

/-- A cut is made at a mark with none before it. -/
theorem cutAt_append (absent : c ∉ u) : cutAt c (u ++ c :: v) = some (u, v) := by
  induction u with
  | nil => simp [cutAt]
  | cons d u ih =>
      have other : d ≠ c := fun same => absent (by simp [same])
      have later : c ∉ u := fun member => absent (List.mem_cons_of_mem _ member)
      simp [cutAt, other, ih later]

theorem isAlpha_iff_toNat :
    c.isAlpha = true ↔ (65 ≤ c.toNat ∧ c.toNat ≤ 90) ∨ (97 ≤ c.toNat ∧ c.toNat ≤ 122) := by
  have parts : c.isAlpha = (decide ('A'.val ≤ c.val ∧ c.val ≤ 'Z'.val) ||
      (decide ('a'.val ≤ c.val) && decide (c.val ≤ 'z'.val))) := rfl
  rw [parts]
  simp [UInt32.le_iff_toNat_le]

theorem toNat_lt_of_isAlphanum (h : c.isAlphanum = true) : c.toNat < 0x80 := by
  simp only [Char.isAlphanum, Bool.or_eq_true, isAlpha_iff_toNat, Char.isDigit_iff_toNat,
    Char.reduceToNat] at h
  omega

theorem isWordChar_of_isAlphanum (h : c.isAlphanum = true) : isWordChar c = true := by
  rw [isWordChar_of_ascii (toNat_lt_of_isAlphanum h)]
  simp only [Char.isAlphanum, Bool.or_eq_true] at h
  simp [h]

theorem isBlank_of_isWordChar (h : isWordChar c = true) : isBlank c = false := by
  by_contra blank
  rw [Bool.not_eq_false] at blank
  rw [isWordChar_of_isSeparator (isSeparator_of_isBlank blank)] at h
  cases h

/-- No letter is a digit in words. -/
theorem isWordDigit_of_isAlpha (h : c.isAlpha = true) : isWordDigit c = false := by
  have alphanumeric : c.isAlphanum = true := by simp [Char.isAlphanum, h]
  rw [isWordDigit_of_ascii (toNat_lt_of_isAlphanum alphanumeric), Bool.eq_false_iff]
  intro digit
  have code := Char.isDigit_iff_toNat.1 digit
  have letter := isAlpha_iff_toNat.1 h
  simp only [Char.reduceToNat] at code
  omega

theorem isWordDigit_of_isAsciiDigit (h : isAsciiDigit c = true) : isWordDigit c = true := by
  have alphanumeric : c.isAlphanum = true := by simpa [Char.isAlphanum] using .inr h
  rw [isWordDigit_of_ascii (toNat_lt_of_isAlphanum alphanumeric)]
  exact h

theorem isAsciiDigit_of_isAlpha (h : c.isAlpha = true) : isAsciiDigit c = false := by
  by_contra digit
  rw [Bool.not_eq_false] at digit
  have word := isWordDigit_of_isAsciiDigit digit
  rw [isWordDigit_of_isAlpha h] at word
  cases word

end AuctionBudget.Text
