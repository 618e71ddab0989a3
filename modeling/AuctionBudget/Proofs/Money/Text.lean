import AuctionBudget.Money
import AuctionBudget.Proofs.Refusal
import AuctionBudget.Proofs.Text.Border

/-! # Amounts as text

A text is an amount of money if it consists of digits, perhaps with a point or a comma and at most
two more digits behind it. Just these texts are read, blanks around them apart, as long as the
amount can be stored. An amount that is not negative is written as such a text, and no two amounts
are written alike.
-/

namespace AuctionBudget.Money

open Text

variable {s whole fraction : List Char} {source : String} {amount : Money} {m n cents : Nat}

/-- The number that a digit stands for. -/
def digitValue (c : Char) : Nat :=
  c.toNat - '0'.toNat

/-- Units, and what is behind a point or a comma. -/
inductive Parted : (s whole fraction : List Char) → Prop where
  | units {units} : Parted units units []
  | marked {units mark decimals} : mark = '.' ∨ mark = ',' →
      Parted (units ++ mark :: decimals) units decimals

/-- The cents that at most two decimals stand for. A single one counts tens. -/
inductive Decimals : List Char → Nat → Prop where
  | none : Decimals [] 0
  | tenths {t} : isAsciiDigit t = true → Decimals [t] (10 * digitValue t)
  | hundredths {t h} : isAsciiDigit t = true → isAsciiDigit h = true →
      Decimals [t, h] (10 * digitValue t + digitValue h)

/-- A text is an amount of so many cents. -/
inductive IsAmount : List Char → Nat → Prop where
  | mk {text units decimals hundredths} : Parted text units decimals → units ≠ [] →
      AllIn isAsciiDigit units → Decimals decimals hundredths →
      IsAmount text (Nat.ofDigitChars 10 units 0 * 100 + hundredths)

theorem Decimals.digits (stands : Decimals fraction cents) : AllIn isAsciiDigit fraction := by
  cases stands with
  | none => exact .nil
  | tenths t => exact .cons t .nil
  | hundredths t h => exact .cons t (.cons h .nil)

theorem centsOfDecimals?_eq_some_iff (digits : AllIn isAsciiDigit fraction) :
    centsOfDecimals? fraction = some cents ↔ Decimals fraction cents := by
  constructor
  · intro found
    unfold centsOfDecimals? at found
    split at found
    · cases found
      exact .none
    · next t =>
        cases found
        have value := Decimals.tenths (digits t (by simp))
        simpa [Nat.ofDigitChars_cons, digitValue] using value
    · next t h =>
        cases found
        have value := Decimals.hundredths (digits t (by simp)) (digits h (by simp))
        simpa [Nat.ofDigitChars_cons, digitValue] using value
    · cases found
  · intro stands
    cases stands with
    | none => rfl
    | tenths => simp [centsOfDecimals?, Nat.ofDigitChars_cons, digitValue]
    | hundredths => simp [centsOfDecimals?, Nat.ofDigitChars_cons, digitValue]

/-- A comma is read as a point. -/
def pointed (s : List Char) : List Char :=
  s.map fun c => if c = ',' then '.' else c

theorem point_eq_iff {c d : Char} (digit : isAsciiDigit d = true) :
    (if c = ',' then '.' else c) = d ↔ c = d := by
  split
  · next comma =>
      constructor
      · intro same
        rw [← same] at digit
        cases digit
      · intro same
        rw [← same, comma] at digit
        cases digit
  · exact Iff.rfl

/-- Digits are left alone, and nothing else becomes digits. -/
theorem pointed_eq_iff (digits : AllIn isAsciiDigit whole) : pointed s = whole ↔ s = whole := by
  induction s generalizing whole with
  | nil => exact Iff.rfl
  | cons c s ih =>
      cases whole with
      | nil => simp [pointed]
      | cons d whole =>
          obtain ⟨first, later⟩ := List.forall_mem_cons.1 digits
          rw [pointed, List.map_cons, ← pointed, List.cons.injEq, List.cons.injEq,
            point_eq_iff first, ih later]

theorem pointed_of_digits (digits : AllIn isAsciiDigit s) : pointed s = s :=
  (pointed_eq_iff digits).2 rfl

theorem not_mem_of_digits (digits : AllIn isAsciiDigit s) : '.' ∉ s := by
  intro member
  have digit := digits '.' member
  cases digit

/-- Cutting finds the units and the decimals. -/
theorem cut_pointed_iff (digits : AllIn isAsciiDigit whole)
    (digits' : AllIn isAsciiDigit fraction) :
    (cutAt '.' (pointed s)).getD (pointed s, []) = (whole, fraction) ↔
      Parted s whole fraction := by
  constructor
  · intro cut
    cases found : cutAt '.' (pointed s) with
    | none =>
        rw [found] at cut
        obtain ⟨same, rfl⟩ := Prod.mk.inj cut
        rw [(pointed_eq_iff digits).1 same]
        exact .units
    | some halves =>
        rw [found] at cut
        obtain rfl : halves = (whole, fraction) := cut
        obtain ⟨before, behind, rfl, left, rest⟩ :=
          List.map_eq_append_iff.1 (append_of_cutAt_eq_some found)
        obtain ⟨mark, after, rfl, point, right⟩ := List.map_eq_cons_iff.1 rest
        rw [(pointed_eq_iff digits).1 left, (pointed_eq_iff digits').1 right]
        refine .marked ?_
        split at point
        · exact .inr ‹_›
        · exact .inl point
  · intro parted
    cases parted with
    | units =>
        have none : cutAt '.' (pointed s) = none := by
          rw [pointed_of_digits digits]
          exact cutAt_eq_none_iff.2 (not_mem_of_digits digits)
        rw [none, pointed_of_digits digits, Option.getD_none]
    | @marked _ mark _ point =>
        have same : pointed (whole ++ mark :: fraction) = whole ++ '.' :: fraction := by
          have single : (if mark = ',' then '.' else mark) = '.' := by
            rcases point with rfl | rfl <;> rfl
          rw [pointed, List.map_append, List.map_cons, single, ← pointed, ← pointed,
            pointed_of_digits digits, pointed_of_digits digits']
        rw [same, cutAt_append (not_mem_of_digits digits), Option.getD_some]

namespace IsAmount

theorem visible (is : IsAmount s cents) : s ≠ [] := by
  obtain ⟨parted, nonempty, -, -⟩ := is
  cases parted with
  | units => exact nonempty
  | marked => simp

theorem chars {c : Char} (is : IsAmount s cents) (member : c ∈ s) :
    isAsciiDigit c = true ∨ c = '.' ∨ c = ',' := by
  obtain ⟨parted, -, digits, stands⟩ := is
  cases parted with
  | units => exact .inl (digits c member)
  | marked point =>
      rcases List.mem_append.1 member with before | after
      · exact .inl (digits c before)
      · cases after with
        | head => exact .inr point
        | tail _ behind => exact .inl (stands.digits c behind)

theorem solid (is : IsAmount s cents) : Solid s := by
  refine .of_forall is.visible fun c member => ?_
  rcases is.chars member with digit | rfl | rfl
  · exact isBlank_of_isWordChar (isWordChar_of_isAlphanum (by simp [Char.isAlphanum, digit]))
  · rfl
  · rfl

theorem unsigned (is : IsAmount s cents) : '-' ∉ s := by
  intro sign
  rcases is.chars sign with digit | point | comma
  · cases digit
  · cases point
  · cases comma

/-- A text is one amount only. -/
theorem unique (this : IsAmount s m) (that : IsAmount s n) : m = n := by
  obtain ⟨parted, -, digits, stands⟩ := this
  obtain ⟨parted', -, digits', stands'⟩ := that
  have halves := (cut_pointed_iff digits stands.digits).2 parted
  rw [(cut_pointed_iff digits' stands'.digits).2 parted'] at halves
  cases halves
  have cents := (centsOfDecimals?_eq_some_iff stands.digits).2 stands
  rw [(centsOfDecimals?_eq_some_iff stands.digits).2 stands'] at cents
  cases cents
  rfl

end IsAmount

/-- Just the amounts are read, if they can be stored. -/
theorem read_eq_ok_iff : read source = .ok amount ↔
    ∃ cents : Nat, IsAmount (trim source.toList) cents ∧ (cents : Int) ≤ largestCents ∧
      amount.cents = cents := by
  have inRange {cents : Nat} (small : (cents : Int) ≤ largestCents) : InRange cents :=
    ⟨Int.le_trans (by decide) (Int.natCast_nonneg cents), small⟩
  constructor
  · intro reads
    unfold read at reads
    dsimp only at reads
    rw [← pointed] at reads
    generalize parts : (cutAt '.' (pointed (trim source.toList))).getD
      (pointed (trim source.toList), []) = halves at reads
    obtain ⟨whole, fraction⟩ := halves
    split at reads
    · cases reads
    split at reads
    · cases reads
    next accepted =>
    split at reads
    · cases reads
    split at reads
    · next cents found =>
        split at reads
        · cases reads
        next small =>
        cases reads
        simp only [Bool.or_eq_true, Bool.not_eq_true', not_or, Bool.not_eq_false,
          List.isEmpty_iff, List.all_eq_true] at accepted
        obtain ⟨⟨nonempty, digits⟩, digits'⟩ := accepted
        have storable := Int.not_lt.1 small
        exact ⟨_, .mk ((cut_pointed_iff digits digits').1 parts) nonempty digits
          ((centsOfDecimals?_eq_some_iff digits').1 found), storable,
          cents_ofCents (inRange (by exact_mod_cast storable))⟩
    · cases reads
  · rintro ⟨cents, is, small, same⟩
    have amount_eq : amount = ofCents cents := ext (same.trans (cents_ofCents (inRange small)).symm)
    subst amount_eq
    have visible := is.visible
    obtain ⟨parted, nonempty, digits, stands⟩ := is
    next whole fraction hundredths =>
    have parts := (cut_pointed_iff digits stands.digits).2 parted
    have found := (centsOfDecimals?_eq_some_iff stands.digits).2 stands
    push_cast at small
    have fewer : ¬ largestCents < (Nat.ofDigitChars 10 whole 0 : Nat) := by omega
    unfold read
    dsimp only
    rw [← pointed, parts]
    simp [visible, nonempty, List.all_eq_true.2 digits, List.all_eq_true.2 stands.digits, found,
      fewer, Int.not_lt.2 small, pure, Except.pure]

theorem isAmount_hundredths (n : Nat) : IsAmount (Number.hundredths n) n := by
  have units : AllIn isAsciiDigit (Nat.toDigits 10 (n / 100)) := fun c member =>
    Nat.isDigit_of_mem_toDigits (by decide) (by decide) member
  have digit (d : Nat) : isAsciiDigit (Nat.digitChar (d % 10)) = true := by
    rw [isAsciiDigit, Nat.isDigit_digitChar]
    exact decide_eq_true (Nat.mod_lt d (by decide))
  have value (d : Nat) : digitValue (Nat.digitChar (d % 10)) = d % 10 :=
    Nat.toNat_digitChar_sub_48_of_lt_ten (Nat.mod_lt d (by decide))
  have is := IsAmount.mk (.marked (.inl rfl)) Nat.toDigits_ne_nil units
    (.hundredths (digit (n / 10)) (digit n))
  have cents : n / 100 * 100 + (10 * (n / 10 % 10) + n % 10) = n := by omega
  rwa [Nat.ofDigitChars_ten_toDigits, value, value, cents] at is

theorem toList_text (amount : Money) : amount.text.toList =
    (if amount.cents < 0 then ['-'] else []) ++ Number.hundredths amount.cents.natAbs := by
  rw [text, String.toList_ofList]

/-- Just the amounts that are not negative are read back. -/
theorem read_text_iff : read amount.text = .ok amount ↔ 0 ≤ amount.cents := by
  constructor
  · intro reads
    obtain ⟨cents, -, -, same⟩ := read_eq_ok_iff.1 reads
    rw [same]
    exact Int.natCast_nonneg cents
  · intro nonneg
    have small := (inRange_cents amount).2
    have is := isAmount_hundredths amount.cents.natAbs
    have written : amount.text.toList = Number.hundredths amount.cents.natAbs := by
      rw [toList_text, if_neg (by omega), List.nil_append]
    have cents : ((amount.cents.natAbs : Nat) : Int) = amount.cents := by omega
    refine read_eq_ok_iff.2 ⟨amount.cents.natAbs, ?_, by omega, cents.symm⟩
    rwa [written, trim_of_solid is.solid]

/-- Only a negative amount is written with a sign. -/
theorem minus_mem_text_iff : '-' ∈ amount.text.toList ↔ amount.cents < 0 := by
  have unsigned := (isAmount_hundredths amount.cents.natAbs).unsigned
  rw [toList_text]
  by_cases negative : amount.cents < 0
  · simp [negative]
  · simp [negative, unsigned]

/-- No two amounts are written alike, whatever their signs. -/
theorem text_injective : Function.Injective text := by
  intro a b same
  have signs : a.cents < 0 ↔ b.cents < 0 := by
    rw [← minus_mem_text_iff, same, minus_mem_text_iff]
  have lists := congrArg String.toList same
  rw [toList_text, toList_text] at lists
  have digits : Number.hundredths a.cents.natAbs = Number.hundredths b.cents.natAbs := by
    simpa only [signs, List.append_cancel_left_eq] using lists
  have magnitude : a.cents.natAbs = b.cents.natAbs := by
    have left := isAmount_hundredths a.cents.natAbs
    rw [digits] at left
    exact left.unique (isAmount_hundredths b.cents.natAbs)
  apply ext
  omega

/-- Of all texts just the amounts that can be stored are read, with or without blanks around them,
    and all others are refused as amounts. What is written for an amount is read back unless the
    amount is negative, and tells it from all others. -/
theorem parse_iff_isAmount :
    (∀ source amount, parse source = .ok amount ↔
      ∃ cents : Nat, IsAmount (trim source.toList) cents ∧ (cents : Int) ≤ largestCents ∧
        amount.cents = cents) ∧
    (∀ source, (∃ amount, parse source = .ok amount) ∨
      ∃ fault : AmountFault, parse source = .error (.invalidAmount fault.message)) ∧
    (∀ amount : Money, parse amount.text = .ok amount ↔ 0 ≤ amount.cents) ∧
    Function.Injective text := by
  refine ⟨fun source amount => mapError_eq_ok.trans read_eq_ok_iff, fun source => ?_,
    fun amount => mapError_eq_ok.trans read_text_iff, text_injective⟩
  cases reads : read source with
  | ok amount => exact .inl ⟨amount, mapError_eq_ok.2 reads⟩
  | error fault => exact .inr ⟨fault, mapError_eq_error.2 ⟨fault, reads, rfl⟩⟩

example : parse " 92233720368547758,07\n" = .ok (ofCents largestCents) := by decide +kernel

end AuctionBudget.Money
