import AuctionBudget.Proofs.Rule.Abbreviation
import Mathlib.Data.List.Induction

/-! # Expanding shorthand twice

That every reference was given its front does not settle a text for good. A front may itself hold a
reference of its own pattern or of an earlier one, and it may break up a front that stands around
the place where it is put. Where patterns are words and no front does so, an expanded text stays as
it is.
-/

namespace AuctionBudget.Rule

open Text

theorem Guarded.mono {front before before' : List Char} (guarded : Guarded front before')
    (within : before' <+: before) : Guarded front before :=
  guarded.imp (·.trans within) (·.trans within)

namespace Abbreviation

variable {a b : Abbreviation} {before before' s t u v w rest behind stands : List Char} {c : Char}

structure IsWord (a : Abbreviation) : Prop where
  nonempty : a.pattern ≠ []
  word : AllIn isWordChar a.pattern

instance : Decidable a.IsWord :=
  decidable_of_iff (a.pattern ≠ [] ∧ AllIn isWordChar a.pattern)
    ⟨fun both => ⟨both.1, both.2⟩, fun isWord => ⟨isWord.nonempty, isWord.word⟩⟩

theorem Names.word (isWord : a.IsWord) (names : a.Names w) : AllIn isWordChar w := by
  obtain ⟨digits, -, all, rfl⟩ := names
  exact isWord.word.append fun c member => isWordChar_of_isWordDigit (all c member)

theorem Names.nonempty (names : a.Names w) : w ≠ [] := by
  obtain ⟨digits, nonempty, -, rfl⟩ := names
  simp [nonempty]

theorem Names.start (isWord : a.IsWord) (names : a.Names w) :
    startsWord (w ++ rest) = true :=
  startsWord_append names.nonempty (names.word isWord)

theorem RefersAt.start (isWord : a.IsWord) (refers : a.RefersAt before s w behind) :
    startsWord s = true := by
  rw [refers.split]
  exact refers.names.start isWord

theorem RefersAt.outside (isWord : a.IsWord) (refers : a.RefersAt before s w behind) :
    startsWord before = false :=
  (isWordBorder_iff (refers.start isWord)).1 refers.border

/-- A reference is the whole word that it starts with. -/
theorem refersAt_word (isWord : a.IsWord) (word : AllIn isWordChar v) (nonempty : v ≠ [])
    (outside : startsWord before = false) :
    a.RefersAt before (v ++ '.' :: rest) w behind ↔ a.Names v ∧ w = v ∧ behind = rest := by
  constructor
  · intro refers
    have dot {s : List Char} : StartsOutside isWordChar ('.' :: s) :=
      startsOutside_cons.2 (by decide)
    obtain ⟨rfl, same⟩ := run_unique word (refers.names.word isWord) dot dot refers.split
    exact ⟨refers.names, rfl, (List.cons.inj same).2.symm⟩
  · rintro ⟨names, rfl, rfl⟩
    exact ⟨names, rfl, (isWordBorder_iff (names.start isWord)).2 outside⟩

/-- A reference in front of a dot does not depend on what stands behind the dot. -/
theorem RefersAt.alone (isWord : a.IsWord)
    (refers : a.RefersAt before (v ++ '.' :: rest) w behind) :
    ∃ behind', a.RefersAt before (v ++ ['.']) w behind' := by
  have noDot : '.' ∉ w := fun member => absurd (refers.names.word isWord '.' member) (by decide)
  have split : ∃ behind', v ++ ['.'] = w ++ '.' :: behind' := by
    rcases List.append_eq_append_iff.1 refers.split with ⟨more, rfl, same⟩ | ⟨more, rfl, same⟩
    · cases more with
      | nil => exact ⟨[], by simp⟩
      | cons d more => simp_all
    · cases more with
      | nil => exact ⟨[], by simp⟩
      | cons d more =>
          obtain ⟨rfl, -⟩ := List.cons.inj same
          exact ⟨more ++ ['.'], by simp⟩
  obtain ⟨behind', split⟩ := split
  have start : startsWord (v ++ ['.']) = true := by
    rw [split]
    exact refers.names.start isWord
  exact ⟨behind', refers.names, split,
    (isWordBorder_iff start).2 (refers.outside isWord)⟩

/-- Every reference in a text is guarded, wherever it starts. -/
def Settled (a : Abbreviation) : (before s : List Char) → Prop
  | _, [] => True
  | before, c :: rest =>
      (∀ w behind, a.RefersAt before (c :: rest) w behind → Guarded a.front before) ∧
        Settled a (c :: before) rest

theorem Settled.guarded (settled : a.Settled before s) (refers : a.RefersAt before s w behind) :
    Guarded a.front before := by
  cases s with
  | nil => exact absurd rfl refers.ne_nil
  | cons c rest => exact settled.1 w behind refers

theorem Settled.onward (settled : a.Settled before (u ++ s)) :
    a.Settled (u.reverse ++ before) s := by
  induction u generalizing before with
  | nil => exact settled
  | cons c u ih => simpa using ih settled.2

/-- A settled text is left alone. -/
theorem Settled.expand_eq (settled : a.Settled before s) : a.expand before s = s := by
  rw [expand_eq_self_iff]
  intro stands finds
  induction finds with
  | here refers => exact settled.guarded refers
  | @behind before s w rest stands refers _ ih =>
      rw [refers.split, List.append_cons] at settled
      have onward := settled.onward
      rw [List.reverse_concat'] at onward
      exact ih onward
  | later _ _ ih => exact ih settled.2

theorem settled_cons_of_none (none : ∀ w behind, ¬ a.RefersAt before (c :: rest) w behind) :
    a.Settled before (c :: rest) ↔ a.Settled (c :: before) rest :=
  and_iff_right fun w behind refers => absurd refers (none w behind)

theorem settled_dot (isWord : a.IsWord) :
    a.Settled before ('.' :: rest) ↔ a.Settled ('.' :: before) rest :=
  settled_cons_of_none fun w behind refers => by
    have start : isWordChar '.' = true := refers.start isWord
    exact absurd start (by decide)

/-- No reference starts inside of a word. -/
theorem settled_inWord (isWord : a.IsWord) (started : startsWord before = true)
    (word : AllIn isWordChar w) :
    a.Settled before (w ++ '.' :: rest) ↔ a.Settled ('.' :: w.reverse ++ before) rest := by
  induction w generalizing before with
  | nil => exact settled_dot isWord
  | cons c w ih =>
      have ⟨char, later⟩ := List.forall_mem_cons.1 word
      rw [List.cons_append, settled_cons_of_none, ih (startsWord_cons.trans char) later]
      · simp
      · intro w behind refers
        rw [refers.outside isWord] at started
        cases started

theorem settled_word (isWord : a.IsWord) (word : AllIn isWordChar w) (nonempty : w ≠ [])
    (outside : startsWord before = false) :
    a.Settled before (w ++ '.' :: rest) ↔
      (a.Names w → Guarded a.front before) ∧ a.Settled ('.' :: w.reverse ++ before) rest := by
  have here : (∀ v behind, a.RefersAt before (w ++ '.' :: rest) v behind →
      Guarded a.front before) ↔ (a.Names w → Guarded a.front before) := by
    simp only [refersAt_word isWord word nonempty outside]
    constructor
    · exact fun all names => all w rest ⟨names, rfl, rfl⟩
    · exact fun named v behind refers => named refers.1
  cases w with
  | nil => exact absurd rfl nonempty
  | cons c w =>
      have ⟨char, later⟩ := List.forall_mem_cons.1 word
      have onward : a.Settled (c :: before) (w ++ '.' :: rest) ↔
          a.Settled ('.' :: w.reverse ++ c :: before) rest :=
        settled_inWord isWord (startsWord_cons.trans char) later
      rw [← here, List.reverse_cons, ← List.cons_append, List.append_assoc]
      exact and_congr_right fun _ => onward

theorem Expands.settled_of_guarded (isWord : a.IsWord) (expands : a.Expands before s t)
    (all : ∀ stands, a.Finds before s stands → Guarded a.front stands) : a.Settled before s := by
  induction expands with
  | nil => trivial
  | kept refers guarded _ ih =>
      rw [refers.split, settled_word isWord (refers.names.word isWord) refers.names.nonempty
        (refers.outside isWord)]
      exact ⟨fun _ => guarded, ih fun stands onward => all stands (.behind refers onward)⟩
  | fronted refers bare => exact absurd (all _ (.here refers)) bare
  | later none _ ih =>
      rw [settled_cons_of_none none]
      exact ih fun stands onward => all stands (.later none onward)

/-- Where the pattern is a word, just the settled texts are left alone. -/
theorem expand_eq_self_iff_settled (isWord : a.IsWord) :
    a.expand before s = s ↔ a.Settled before s :=
  ⟨fun same => (a.expands_expand before s).settled_of_guarded isWord (expand_eq_self_iff.1 same),
    Settled.expand_eq⟩

/-- A part up to a dot that is settled when it stands alone is settled within a text. -/
theorem settled_append (isWord : a.IsWord) (within : before' <+: before)
    (same : startsWord before' = startsWord before) (alone : a.Settled before' (v ++ ['.']))
    (onward : a.Settled ('.' :: v.reverse ++ before) rest) :
    a.Settled before (v ++ '.' :: rest) := by
  induction v generalizing before before' with
  | nil => exact (settled_dot isWord).2 onward
  | cons c v ih =>
      refine ⟨fun w behind refers => ?_, ?_⟩
      · obtain ⟨behind', shorter⟩ := refers.alone (v := c :: v) isWord
        have border : isWordBorder before' (c :: v ++ ['.']) = true := by
          rw [isWordBorder, same]
          exact shorter.border
        exact (alone.guarded ⟨shorter.names, shorter.split, border⟩).mono within
      · exact ih (List.cons_prefix_cons.2 ⟨rfl, within⟩) rfl alone.2 (by simpa using onward)

/-- What stands before a settled text may change if no guard gets lost. -/
theorem Settled.carry (settled : a.Settled before s)
    (same : startsWord before = startsWord before')
    (carries : ∀ u, Guarded a.front (u ++ before) → Guarded a.front (u ++ before')) :
    a.Settled before' s := by
  induction s generalizing before before' with
  | nil => trivial
  | cons c rest ih =>
      refine ⟨fun w behind refers => ?_, ih settled.2 rfl fun u => ?_⟩
      · have border : isWordBorder before (c :: rest) = true := by
          rw [isWordBorder, same]
          exact refers.border
        exact carries [] (settled.guarded ⟨refers.names, refers.split, border⟩)
      · simpa using carries (u ++ [c])

/-- The references of an abbreviation with their fronts are settled for another one. -/
def Spares (a b : Abbreviation) : Prop :=
  ∀ w, b.Names w → a.Settled [] (b.front ++ w ++ ['.'])

/-- Words stay. -/
theorem Expands.inWord (isWord : b.IsWord) (expands : b.Expands before s t)
    (started : startsWord before = true) (word : AllIn isWordChar w)
    (split : t = w ++ '.' :: rest) : ∃ behind, s = w ++ '.' :: behind := by
  induction w generalizing before s t with
  | nil =>
      cases expands with
      | nil => simp at split
      | kept refers | fronted refers => simp [refers.outside isWord] at started
      | @later _ d rest' =>
          obtain ⟨rfl, -⟩ := List.cons.inj split
          exact ⟨rest', rfl⟩
  | cons d w ih =>
      have ⟨char, others⟩ := List.forall_mem_cons.1 word
      cases expands with
      | nil => simp at split
      | kept refers | fronted refers => simp [refers.outside isWord] at started
      | later _ onward =>
          obtain ⟨rfl, split'⟩ := List.cons.inj split
          obtain ⟨behind, rfl⟩ := ih onward (startsWord_cons.trans char) others split'
          exact ⟨behind, rfl⟩

/-- A front that is put before a reference keeps the guards behind it. -/
theorem guarded_fronted (wordB : b.IsWord) (kept : ['.'] <:+ a.front ∨ b.Spares a)
    (refers : b.RefersAt before s w behind) (bare : ¬ Guarded b.front before)
    (guarded : Guarded a.front (u ++ ('.' :: w.reverse ++ before))) :
    Guarded a.front (u ++ ('.' :: (b.front ++ w).reverse ++ before)) := by
  have near {v : List Char} (short : v <+: u ++ '.' :: w.reverse) :
      v <+: u ++ ('.' :: (b.front ++ w).reverse ++ before) :=
    short.trans ⟨b.front.reverse ++ before, by simp⟩
  have dot (first : ['.'] <+: u ++ ('.' :: w.reverse ++ before)) :
      ['.'] <+: u ++ '.' :: w.reverse := by
    cases u with
    | nil => simp
    | cons d u => simpa using first
  rcases guarded with first | front
  · exact .inl (near (dot first))
  rcases kept with ending | spares
  · exact .inl (near (dot ((List.reverse_prefix.2 ending).trans front)))
  have whole : u ++ '.' :: w.reverse <+: u ++ ('.' :: w.reverse ++ before) := ⟨before, by simp⟩
  rcases List.prefix_or_prefix_of_prefix front whole with short | ⟨left, long⟩
  · exact .inr (near short)
  -- The front reaches back over the reference, and so holds it itself.
  rw [← long] at front
  have within : left <+: before := by simpa using front
  have holds : a.front = left.reverse ++ (w ++ '.' :: u.reverse) := by
    rw [← List.reverse_reverse a.front, ← long]
    simp
  have settled := spares (a.pattern ++ ['1']) ⟨['1'], by simp, by decide, rfl⟩
  rw [holds, List.append_assoc, List.append_assoc] at settled
  have inside := settled.onward
  rw [List.reverse_reverse, List.append_nil, List.append_assoc] at inside
  have outside : startsWord left = false := by
    have outsideBefore := refers.outside wordB
    cases left with
    | nil => rfl
    | cons d left =>
        obtain ⟨more, rfl⟩ := within
        exact outsideBefore
  have again : b.RefersAt left (w ++ '.' :: (u.reverse ++ (a.pattern ++ ['1'] ++ ['.']))) w _ :=
    (refersAt_word wordB (refers.names.word wordB) refers.names.nonempty outside).2
      ⟨refers.names, rfl, rfl⟩
  exact absurd ((inside.guarded again).mono within) bare

/-- An abbreviation settles its own references, and keeps those of another one settled, if its front
    neither holds a loose reference nor breaks up a front. -/
theorem Expands.settled (wordA : a.IsWord) (wordB : b.IsWord) (spares : a.Spares b)
    (kept : ['.'] <:+ a.front ∨ b.Spares a) (expands : b.Expands before s t)
    (known : a = b ∨ a.Settled before s) : a.Settled before t := by
  induction expands with
  | nil => trivial
  | kept refers guarded _ ih =>
      have word := refers.names.word wordB
      have nonempty := refers.names.nonempty
      have outside := refers.outside wordB
      rw [refers.split, settled_word wordA word nonempty outside] at known
      rw [settled_word wordA word nonempty outside]
      refine ⟨fun names => ?_, ih (known.imp_right (·.2))⟩
      rcases known with rfl | ⟨here, -⟩
      · exact guarded
      · exact here names
  | fronted refers bare _ ih =>
      have outside := refers.outside wordB
      rw [refers.split,
        settled_word wordA (refers.names.word wordB) refers.names.nonempty outside] at known
      rw [← List.append_assoc]
      refine settled_append wordA List.nil_prefix outside.symm (spares _ refers.names) ?_
      exact (ih (known.imp_right (·.2))).carry rfl fun u =>
        guarded_fronted wordB kept refers bare
  | @later before c rest t none onward ih =>
      refine ⟨fun w behind refers => ?_, ih (known.imp_right (·.2))⟩
      -- The word of a reference was there before, so the reference was.
      have source : ∃ behind', a.RefersAt before (c :: rest) w behind' := by
        have word := refers.names.word wordA
        cases w with
        | nil => exact absurd rfl refers.names.nonempty
        | cons d w =>
            have ⟨char, others⟩ := List.forall_mem_cons.1 word
            obtain ⟨rfl, split⟩ := List.cons.inj refers.split
            obtain ⟨behind', rfl⟩ :=
              onward.inWord wordB (startsWord_cons.trans char) others split
            exact ⟨behind', refers.names, rfl, refers.border⟩
      obtain ⟨behind', refers'⟩ := source
      rcases known with rfl | settled
      · exact absurd refers' (none _ _)
      · exact settled.guarded refers'

/-- A text that is a single reference gets the front. -/
theorem expand_reference (isWord : a.IsWord) (names : a.Names w) (front : a.front ≠ []) :
    a.expand [] (w ++ ['.']) = a.front ++ w ++ ['.'] := by
  have border : isWordBorder [] (w ++ ['.']) = true :=
    (isWordBorder_iff (names.start isWord)).2 startsWord_nil
  have bare : ¬ Guarded a.front [] := by simp [Guarded, front]
  obtain ⟨digits, nonempty, all, rfl⟩ := names
  rw [expand, replaceReferences_of_some border (referenceAt?_eq_some.2 ⟨nonempty, all, rfl⟩),
    withFront_bare bare, replaceReferences_nil]
  simp

/-- A word as a pattern settles every text just when its front is no loose reference of its own. -/
theorem expand_twice_iff (isWord : a.IsWord) :
    (∀ s, a.expand [] (a.expand [] s) = a.expand [] s) ↔ a.Spares a := by
  constructor
  · intro stays w names
    by_cases front : a.front = []
    · have guarded : Guarded a.front [] := .inr (by simp [front])
      rw [front]
      exact (settled_word isWord (names.word isWord) names.nonempty startsWord_nil).2
        ⟨fun _ => guarded, trivial⟩
    · rw [← expand_reference isWord names front]
      exact (expand_eq_self_iff_settled isWord).1 (stays _)
  · intro spares s
    exact Settled.expand_eq
      ((a.expands_expand [] s).settled isWord isWord spares (.inr spares) (.inl rfl))

def frontWord (a : Abbreviation) : List Char := a.front.dropLast

/-- What is put in front is a word with a dot, such as `playerLevels.`. -/
def IsDotted (a : Abbreviation) : Prop :=
  a.frontWord ≠ [] ∧ AllIn isWordChar a.frontWord ∧ a.front = a.frontWord ++ ['.']

instance : Decidable a.IsDotted := inferInstanceAs (Decidable (_ ∧ _ ∧ _))

/-- Such a front is spared if its word is no reference itself. -/
theorem IsDotted.spares (dotted : b.IsDotted) (wordA : a.IsWord) (wordB : b.IsWord)
    (other : ¬ a.Names b.frontWord) : a.Spares b := by
  obtain ⟨nonempty, word, front⟩ := dotted
  intro w names
  have whole : b.front ++ w ++ ['.'] = b.frontWord ++ '.' :: (w ++ ['.']) := by
    rw [front]
    simp
  have outside : startsWord ('.' :: b.frontWord.reverse ++ []) = false :=
    startsWord_cons.trans (by decide)
  rw [whole, settled_word wordA word nonempty startsWord_nil,
    settled_word wordA (names.word wordB) names.nonempty outside]
  exact ⟨fun named => absurd named other, fun _ => .inl ⟨_, rfl⟩, trivial⟩

end Abbreviation

/-- Abbreviations with words as patterns, none of which puts a loose reference of its own or of an
    earlier pattern into a text, or breaks up the front of an earlier one. -/
structure Steady (abbreviations : List Abbreviation) : Prop where
  words : ∀ a ∈ abbreviations, a.IsWord
  selves : ∀ a ∈ abbreviations, a.Spares a
  pairs : abbreviations.Pairwise fun a b => a.Spares b ∧ (['.'] <:+ a.front ∨ b.Spares a)

/-- Fronts with a dot make abbreviations steady, if no word of a front is a reference of its own or
    of an earlier pattern. -/
theorem Steady.of_isDotted {abbreviations : List Abbreviation}
    (words : ∀ a ∈ abbreviations, a.IsWord) (dotted : ∀ a ∈ abbreviations, a.IsDotted)
    (selves : ∀ a ∈ abbreviations, ¬ a.Names a.frontWord)
    (pairs : abbreviations.Pairwise fun a b => ¬ a.Names b.frontWord) : Steady abbreviations where
  words := words
  selves a member := (dotted a member).spares (words a member) (words a member) (selves a member)
  pairs := pairs.imp_of_mem fun {a b} memberA memberB other =>
    ⟨(dotted b memberB).spares (words a memberA) (words b memberB) other,
      .inl ⟨a.frontWord, (dotted a memberA).2.2.symm⟩⟩

/-- What was expanded is settled for every abbreviation. -/
theorem Steady.settled {abbreviations : List Abbreviation} {s : List Char} {a : Abbreviation}
    (steady : Steady abbreviations) (member : a ∈ abbreviations) :
    a.Settled [] (expandAll abbreviations s) := by
  induction abbreviations using List.reverseRecOn generalizing a with
  | nil => simp at member
  | append_singleton earlier b ih =>
      have last : b ∈ earlier ++ [b] := by simp
      obtain ⟨pairs, -, across⟩ := List.pairwise_append.1 steady.pairs
      have before : Steady earlier :=
        ⟨fun a member => steady.words a (List.mem_append_left _ member),
          fun a member => steady.selves a (List.mem_append_left _ member), pairs⟩
      have step : expandAll (earlier ++ [b]) s = b.expand [] (expandAll earlier s) := by
        simp [expandAll]
      have expands := b.expands_expand [] (expandAll earlier s)
      rw [step]
      rcases List.mem_append.1 member with old | new
      · obtain ⟨spares, kept⟩ := across a old b (by simp)
        exact expands.settled (steady.words a member) (steady.words b last) spares kept
          (.inr (ih before old))
      · cases List.mem_singleton.1 new
        have spares := steady.selves b last
        exact expands.settled (steady.words b last) (steady.words b last) spares (.inr spares)
          (.inl rfl)

theorem expand_eq_self_iff_forall {shorthand : Shorthand} {s : String} :
    expand shorthand s = s ↔ ∀ a ∈ shorthand.abbreviations, a.expand [] s.toList = s.toList := by
  rw [← String.toList_inj, toList_expand, expandAll_eq_self_iff]

/-- A text that was expanded stays just when every reference that is found in it is guarded. So it
    is for all texts where the abbreviations are steady; and where there is only one, with a word as
    its pattern, just when its front holds no loose reference of its own. -/
theorem expand_again (shorthand : Shorthand) :
    (∀ source, expand shorthand (expand shorthand source) = expand shorthand source ↔
      ∀ a ∈ shorthand.abbreviations, ∀ stands,
        a.Finds [] (expand shorthand source).toList stands → Guarded a.front stands) ∧
    (Steady shorthand.abbreviations →
      ∀ source, expand shorthand (expand shorthand source) = expand shorthand source) ∧
    (∀ a, shorthand.abbreviations = [a] → a.IsWord →
      ((∀ source, expand shorthand (expand shorthand source) = expand shorthand source) ↔
        a.Spares a)) := by
  refine ⟨fun source => ?_, fun steady source => ?_, fun a single isWord => ?_⟩
  · simp only [expand_eq_self_iff_forall, Abbreviation.expand_eq_self_iff]
  · rw [expand_eq_self_iff_forall, toList_expand]
    exact fun a member => (steady.settled member).expand_eq
  · have once (source : String) :
        (expand shorthand source).toList = a.expand [] source.toList := by
      rw [toList_expand, single]
      rfl
    rw [← Abbreviation.expand_twice_iff isWord]
    simp only [expand_eq_self_iff_forall, single, List.forall_mem_singleton, once]
    exact ⟨fun stays s => by simpa using stays (String.ofList s), fun stays source => stays _⟩

/-- Groups of tiers `t`, of which one has its front in a later pattern. -/
def chainedForward : Shorthand where
  entries := [("t", "u2.t"), ("u", "playerLevels.u")]
  ascending := by decide +kernel

def tiersOnly : Shorthand where
  entries := [("l", "playerLevels.l")]
  ascending := by decide +kernel

theorem expand_again_forward :
    Steady chainedForward.abbreviations ∧
      expand chainedForward "t1.totalAmountSpent <= 90" =
        "playerLevels.u2.t1.totalAmountSpent <= 90" ∧
      (∀ source,
        expand chainedForward (expand chainedForward source) = expand chainedForward source) ∧
      (∀ source, expand tiersOnly (expand tiersOnly source) = expand tiersOnly source) := by
  have steady : Steady chainedForward.abbreviations :=
    .of_isDotted (by decide +kernel) (by decide +kernel) (by decide +kernel) (by decide +kernel)
  have steadyTiers : Steady tiersOnly.abbreviations :=
    .of_isDotted (by decide +kernel) (by decide +kernel) (by decide +kernel) (by decide +kernel)
  have single : tiersOnly.abbreviations = [⟨['l'], "playerLevels.".toList⟩] := by decide +kernel
  rw [single] at steadyTiers
  have member := List.mem_singleton_self (Abbreviation.mk ['l'] "playerLevels.".toList)
  exact ⟨steady, by decide +kernel, (expand_again chainedForward).2.1 steady,
    ((expand_again tiersOnly).2.2 _ single (steadyTiers.words _ member)).2
      (steadyTiers.selves _ member)⟩

/-- A tier group whose front is a reference of an earlier pattern. -/
def chainedBackward : Shorthand where
  entries := [("l", "playerLevels.l"), ("t", "l1.t")]
  ascending := by decide +kernel

theorem expand_backward_changes :
    expand chainedBackward "t2.totalAmountSpent <= 100" = "l1.t2.totalAmountSpent <= 100" ∧
      expand chainedBackward "l1.t2.totalAmountSpent <= 100" =
        "playerLevels.l1.t2.totalAmountSpent <= 100" := by
  decide +kernel

theorem not_expand_again_backward :
    ¬ ∀ shorthand source,
      expand shorthand (expand shorthand source) = expand shorthand source := by
  intro same
  have stays := same chainedBackward "t2.totalAmountSpent <= 100"
  rw [expand_backward_changes.1, expand_backward_changes.2] at stays
  exact absurd stays (by decide)

end AuctionBudget.Rule
