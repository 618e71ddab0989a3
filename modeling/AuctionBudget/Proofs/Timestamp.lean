import AuctionBudget.Proofs.Text.Border
import AuctionBudget.Timestamp
import Mathlib.Algebra.Order.Ring.Int
import Mathlib.Algebra.Order.Ring.Nat

/-! # The order of times as text

No two times have the same text. Within the years 0 to 9999 the order of the texts is the order in
time, since every part of a text has a fixed width and none goes back while the parts before it stay
the same. The fraction of the second has no fixed width, but where it ends a sign follows, which comes
before all digits.
-/

namespace AuctionBudget.Timestamp

variable {x y r s : List Char} {width m n : Nat} {a b : Int}

/-- Of texts of one length the earlier one stays so, whatever follows. -/
theorem append_lt_append (same : x.length = y.length) (lt : x < y) : x ++ r < y ++ s := by
  induction x generalizing y with
  | nil =>
      obtain rfl := List.length_eq_zero_iff.1 same.symm
      exact absurd lt (List.lt_irrefl [])
  | cons c x ih =>
      cases y with
      | nil => simp at same
      | cons d y =>
          rw [List.cons_append, List.cons_append, List.cons_lt_cons_iff]
          rcases List.cons_lt_cons_iff.1 lt with first | ⟨rfl, later⟩
          · exact .inl first
          · exact .inr ⟨rfl, ih (by simpa using same) later⟩

theorem digitChar_lt (lt : m < n) (digit : n < 10) : m.digitChar < n.digitChar := by
  have all : ∀ n < 10, ∀ m < n, m.digitChar < n.digitChar := by decide
  exact all n digit m lt

theorem length_padded (fits : n < 10 ^ (width + 1)) :
    (padded (width + 1) n).length = width + 1 := by
  have short : (Nat.toDigits 10 n).length ≤ width + 1 :=
    (Nat.length_toDigits_le_iff (by decide) (by omega)).2 fits
  rw [padded, List.length_leftpad, max_eq_left short]

/-- The last digit stands behind the others. -/
theorem padded_succ (width n : Nat) :
    padded (width + 2) n = padded (width + 1) (n / 10) ++ [(n % 10).digitChar] := by
  simp only [padded, List.leftpad]
  by_cases small : n < 10
  · rw [Nat.toDigits_of_lt_base small, Nat.div_eq_of_lt small, Nat.mod_eq_of_lt small]
    simp [List.replicate_succ']
  · rw [Nat.toDigits_of_base_le (by decide) (by omega)]
    simp

theorem padded_lt (lt : m < n) (fits : n < 10 ^ (width + 1)) :
    padded (width + 1) m < padded (width + 1) n := by
  induction width generalizing m n with
  | zero =>
      have digit (k : Nat) (small : k < 10) : padded 1 k = [k.digitChar] := by
        rw [padded, Nat.toDigits_of_lt_base small]
        rfl
      have small : n < 10 := by simpa using fits
      rw [digit m (by omega), digit n small, List.cons_lt_cons_iff]
      exact .inl (digitChar_lt lt small)
  | succ width ih =>
      have fewer : n / 10 < 10 ^ (width + 1) := Nat.div_lt_of_lt_mul (by rwa [← Nat.pow_succ'])
      rw [padded_succ, padded_succ]
      rcases Nat.lt_or_eq_of_le (Nat.div_le_div_right (c := 10) lt.le) with first | same
      · have length : (padded (width + 1) (m / 10)).length = (padded (width + 1) (n / 10)).length := by
          rw [length_padded fewer, length_padded (first.trans fewer)]
        exact append_lt_append length (ih first fewer)
      · rw [same]
        refine List.append_left_lt (List.cons_lt_cons_iff.2 (.inl (digitChar_lt ?_ ?_)))
        · omega
        · omega

/-- A number of some width comes first if it is less, or if it is the same and what follows does. -/
theorem padded_append_lt (le : m ≤ n) (fits : n < 10 ^ (width + 1)) (rest : m = n → r < s) :
    padded (width + 1) m ++ r < padded (width + 1) n ++ s := by
  rcases Nat.lt_or_eq_of_le le with lt | rfl
  · have length : (padded (width + 1) m).length = (padded (width + 1) n).length := by
      rw [length_padded fits, length_padded (lt.trans fits)]
    exact append_lt_append length (padded_lt lt fits)
  · exact List.append_left_lt (rest rfl)

theorem isDigit_of_mem_padded {c : Char} (member : c ∈ padded width n) : c.isDigit = true := by
  rcases List.mem_append.1 member with zero | digit
  · rw [List.eq_of_mem_replicate zero]
    rfl
  · exact Nat.isDigit_of_mem_toDigits (by decide) (by decide) digit

/-- A number starts with a digit. -/
theorem exists_padded_eq_cons (width n : Nat) :
    ∃ digit rest, padded width n = digit :: rest ∧ digit.isDigit = true := by
  cases shown : padded width n with
  | nil => simp [padded, List.leftpad] at shown
  | cons digit rest =>
      exact ⟨digit, rest, rfl, isDigit_of_mem_padded (shown ▸ List.mem_cons_self)⟩

theorem padded_inj (same : padded width m = padded width n) : m = n := by
  have read (k : Nat) : Nat.ofDigitChars 10 (padded width k) 0 = k := by
    rw [padded, List.leftpad, Nat.ofDigitChars_append, Nat.ofDigitChars_replicate_zero, Nat.mul_zero,
      Nat.ofDigitChars_ten_toDigits]
  rw [← read m, same, read]

theorem plus_lt_of_isDigit {c : Char} (digit : c.isDigit = true) : '+' < c := by
  have bounds : '0'.val ≤ c.val ∧ c.val ≤ '9'.val := by simpa [Char.isDigit] using digit
  exact UInt32.lt_of_lt_of_le (by decide : '+'.val < '0'.val) bounds.1

/-- Fewer groups of digits come first, since a sign follows. -/
theorem group_lt {unit : Nat} {rest : Nat → List Char}
    (restLt : ∀ {m n}, m < n → n < unit → rest m ++ '+' :: r < rest n ++ '+' :: r)
    (lt : m < n) (fits : n < unit * 1000) :
    group unit rest m ++ '+' :: r < group unit rest n ++ '+' :: r := by
  have positive : 0 < unit := by omega
  by_cases none : m = 0
  · obtain ⟨digit, later, shown, isDigit⟩ := exists_padded_eq_cons 3 (n / unit)
    rw [group, group, if_pos none, if_neg (by omega), shown]
    exact List.cons_lt_cons_iff.2 (.inl (plus_lt_of_isDigit isDigit))
  · rw [group, group, if_neg none, if_neg (by omega), List.append_assoc, List.append_assoc]
    refine padded_append_lt (Nat.div_le_div_right lt.le) (Nat.div_lt_of_lt_mul fits) fun same => ?_
    refine restLt ?_ (Nat.mod_lt _ positive)
    have early := Nat.div_add_mod m unit
    have late := Nat.div_add_mod n unit
    rw [same] at early
    omega

theorem fraction_lt (lt : m < n) (fits : n < 1000000000) :
    fraction m ++ '+' :: r < fraction n ++ '+' :: r := by
  by_cases none : m = 0
  · rw [fraction, fraction, if_pos none, if_neg (by omega)]
    exact List.cons_lt_cons_iff.2 (.inl (by decide))
  · rw [fraction, fraction, if_neg none, if_neg (by omega)]
    have ones {m n : Nat} (lt : m < n) (fits : n < 1000) :
        group 1 (fun _ => []) m ++ '+' :: r < group 1 (fun _ => []) n ++ '+' :: r :=
      group_lt (by omega) lt (by omega)
    have thousands {m n : Nat} (lt : m < n) (fits : n < 1000000) :
        group 1000 (group 1 fun _ => []) m ++ '+' :: r <
          group 1000 (group 1 fun _ => []) n ++ '+' :: r :=
      group_lt ones lt (by omega)
    exact List.cons_lt_cons_self.2 (group_lt thousands lt (by omega))

theorem clockText_lt (lt : m < n) (fits : n < 86400000000000) :
    clockText m ++ '+' :: r < clockText n ++ '+' :: r := by
  simp only [clockText, List.cons_append, List.append_assoc]
  apply List.cons_lt_cons_self.2
  refine padded_append_lt (by omega) (by omega) fun sameHour => ?_
  apply List.cons_lt_cons_self.2
  refine padded_append_lt (by omega) (by omega) fun sameMinute => ?_
  apply List.cons_lt_cons_self.2
  refine padded_append_lt (by omega) (by omega) fun sameSecond => ?_
  exact fraction_lt (by omega) (by omega)

theorem begun_sublist (leap : Bool) (le : m ≤ n) : (begun leap m).Sublist (begun leap n) := by
  refine List.monotone_filter_right _ fun start early => ?_
  have := of_decide_eq_true early
  exact decide_eq_true (by omega)

theorem getLastD_begun_le (leap : Bool) (day : Nat) : (begun leap day).getLastD 0 ≤ day := by
  cases last : (begun leap day).getLast? with
  | none => simp [List.getLastD_eq_getLast?, last]
  | some start =>
      have member := List.mem_of_getLast? last
      have early : start ≤ day := of_decide_eq_true (List.mem_filter.1 member).2
      simpa [List.getLastD_eq_getLast?, last] using early

/-- Later days of a year have a later date. -/
theorem dateText_lt {leap : Bool} (lt : m < n) (fits : n < 366) :
    dateText leap m ++ r < dateText leap n ++ s := by
  have months : month leap n < 10 ^ 2 := by
    have few : month leap n ≤ (monthStarts leap).length := List.length_filter_le _ _
    exact few.trans_lt (by cases leap <;> decide)
  have days : dayOfMonth leap n < 10 ^ 2 := by
    have all : ∀ leap, ∀ day < 366, dayOfMonth leap day < 10 ^ 2 := by decide +kernel
    exact all leap n fits
  have started := begun_sublist leap lt.le
  simp only [dateText, List.cons_append, List.append_assoc]
  apply List.cons_lt_cons_self.2
  refine padded_append_lt started.length_le months fun sameMonth => ?_
  apply List.cons_lt_cons_self.2
  have start := getLastD_begun_le leap m
  have later : dayOfMonth leap m < dayOfMonth leap n := by
    rw [dayOfMonth, dayOfMonth, ← started.eq_of_length sameMonth]
    omega
  exact padded_append_lt later.le days fun same => absurd same later.ne

theorem startOfYear_le (day : Int) : startOfYear (yearOfDay day) ≤ day := by
  simp only [yearOfDay]
  split
  · assumption
  · simp only [startOfYear]
    omega

theorem lt_startOfYear (day : Int) : day < startOfYear (yearOfDay day + 1) := by
  simp only [yearOfDay]
  split
  · simp only [startOfYear]
    omega
  · omega

theorem startOfYear_mono (le : a ≤ b) : startOfYear a ≤ startOfYear b := by
  simp only [startOfYear]
  omega

theorem yearOfDay_mono (le : a ≤ b) : yearOfDay a ≤ yearOfDay b := by
  by_contra back
  have early := startOfYear_le a
  have late := lt_startOfYear b
  have years : startOfYear (yearOfDay b + 1) ≤ startOfYear (yearOfDay a) :=
    startOfYear_mono (by omega)
  omega

theorem dayOf_mono (le : a ≤ b) : dayOf a ≤ dayOf b := by
  simp only [dayOf, nanosPerDay]
  omega

theorem year_mono (le : a ≤ b) : year a ≤ year b :=
  yearOfDay_mono (dayOf_mono le)

theorem dayOfYear_lt (time : Int) : dayOfYear time < 366 := by
  have early := startOfYear_le (dayOf time)
  have late := lt_startOfYear (dayOf time)
  simp only [dayOfYear, year, startOfYear] at *
  omega

/-- Within a year later times have later texts. -/
theorem text_lt_of_year_eq (same : year a = year b) (lt : a < b) : text a < text b := by
  simp only [text, List.append_assoc, same]
  refine List.append_left_lt ?_
  have days := dayOf_mono lt.le
  have start : startOfYear (year a) ≤ dayOf a := startOfYear_le (dayOf a)
  have bounds := Int.emod_nonneg a (by decide : nanosPerDay ≠ 0)
  rcases days.lt_or_eq with before | sameDay
  · refine dateText_lt ?_ (dayOfYear_lt b)
    rw [dayOfYear, dayOfYear, ← same]
    omega
  · have date : dayOfYear a = dayOfYear b := by rw [dayOfYear, dayOfYear, sameDay, same]
    rw [date]
    refine List.append_left_lt (clockText_lt ?_ ?_)
    · simp only [nanosOfDay, dayOf, nanosPerDay] at *
      omega
    · simp only [nanosOfDay, nanosPerDay] at *
      omega

/-- The year of a time is one that has four digits and no sign. -/
def Common (time : Int) : Prop :=
  0 ≤ year time ∧ year time ≤ 9999

theorem yearText_of_common (common : Common a) : yearText (year a) = padded 4 (year a).natAbs := by
  obtain ⟨low, high⟩ := common
  rw [yearText, if_neg (by omega), if_pos high]

theorem text_lt (commonA : Common a) (commonB : Common b) (lt : a < b) : text a < text b := by
  rcases (year_mono lt.le).lt_or_eq with before | same
  · simp only [text, List.append_assoc, yearText_of_common commonA, yearText_of_common commonB]
    have low := commonA.1
    have high := commonB.2
    have later : (year a).natAbs < (year b).natAbs := by omega
    exact padded_append_lt later.le (by omega) fun same => absurd same later.ne
  · exact text_lt_of_year_eq same lt

theorem sign_cons_ne_padded {sign : Char} (noDigit : sign.isDigit = false) :
    sign :: x ≠ padded width n ++ y := by
  obtain ⟨digit, rest, shown, isDigit⟩ := exists_padded_eq_cons width n
  rw [shown]
  intro same
  obtain rfl : sign = digit := (List.cons.inj same).1
  rw [noDigit] at isDigit
  cases isDigit

/-- A number ends at the first character that is no digit. -/
theorem padded_append_inj (same : padded width m ++ '-' :: r = padded width n ++ '-' :: s) :
    m = n := by
  have absent (k : Nat) : '-' ∉ padded width k := by
    intro member
    cases isDigit_of_mem_padded member
  have cut := congrArg (Text.cutAt '-') same
  rw [Text.cutAt_append (absent m), Text.cutAt_append (absent n)] at cut
  exact padded_inj (congrArg Prod.fst (Option.some.inj cut))

theorem yearText_cases (year : Int) :
    (year < 0 ∧ yearText year = '-' :: padded 4 year.natAbs) ∨
      (0 ≤ year ∧ year ≤ 9999 ∧ yearText year = padded 4 year.natAbs) ∨
      9999 < year ∧ yearText year = '+' :: padded 4 year.natAbs := by
  unfold yearText
  split
  · exact .inl ⟨‹_›, rfl⟩
  · split
    · exact .inr (.inl ⟨by omega, ‹_›, rfl⟩)
    · exact .inr (.inr ⟨by omega, rfl⟩)

theorem yearText_append_inj (same : yearText a ++ '-' :: r = yearText b ++ '-' :: s) : a = b := by
  have minus : '-'.isDigit = false := rfl
  have plus : '+'.isDigit = false := rfl
  rcases yearText_cases a with ⟨signA, shownA⟩ | ⟨lowA, highA, shownA⟩ | ⟨signA, shownA⟩
  · rcases yearText_cases b with ⟨signB, shownB⟩ | ⟨lowB, highB, shownB⟩ | ⟨signB, shownB⟩
    · rw [shownA, shownB] at same
      have digits := padded_append_inj (List.cons.inj same).2
      omega
    · rw [shownA, shownB] at same
      exact absurd same (sign_cons_ne_padded minus)
    · rw [shownA, shownB] at same
      exact absurd (List.cons.inj same).1 (by decide)
  · rcases yearText_cases b with ⟨signB, shownB⟩ | ⟨lowB, highB, shownB⟩ | ⟨signB, shownB⟩
    · rw [shownA, shownB] at same
      exact absurd same.symm (sign_cons_ne_padded minus)
    · rw [shownA, shownB] at same
      have digits := padded_append_inj same
      omega
    · rw [shownA, shownB] at same
      exact absurd same.symm (sign_cons_ne_padded plus)
  · rcases yearText_cases b with ⟨signB, shownB⟩ | ⟨lowB, highB, shownB⟩ | ⟨signB, shownB⟩
    · rw [shownA, shownB] at same
      exact absurd (List.cons.inj same).1 (by decide)
    · rw [shownA, shownB] at same
      exact absurd same (sign_cons_ne_padded plus)
    · rw [shownA, shownB] at same
      have digits := padded_append_inj (List.cons.inj same).2
      omega

/-- No two times have the same text. -/
theorem text_inj (same : text a = text b) : a = b := by
  have years : year a = year b := by
    simp only [text, dateText, List.append_assoc, List.cons_append] at same
    exact yearText_append_inj same
  rcases lt_trichotomy a b with before | here | after
  · exact absurd (same ▸ text_lt_of_year_eq years before) (List.lt_irrefl _)
  · exact here
  · exact absurd (same ▸ text_lt_of_year_eq years.symm after) (List.lt_irrefl _)

theorem precedes_antisymm (ab : precedes a b = true) (ba : precedes b a = true) : a = b := by
  rw [precedes_eq_true_iff] at ab ba
  exact text_inj (List.le_antisymm ab ba)

/-- Within the years 0 to 9999 the order of texts is that in time. -/
theorem precedes_iff_le (commonA : Common a) (commonB : Common b) :
    precedes a b = true ↔ a ≤ b := by
  rw [precedes_eq_true_iff]
  constructor
  · intro notLater
    by_contra after
    exact notLater (text_lt commonB commonA (by omega))
  · intro le later
    rcases le.lt_or_eq with before | rfl
    · exact List.lt_asymm (text_lt commonA commonB before) later
    · exact List.lt_irrefl _ later

end AuctionBudget.Timestamp
