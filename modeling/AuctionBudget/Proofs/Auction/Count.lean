import AuctionBudget.Auction.Integrity
import AuctionBudget.Proofs.Refusal
import Mathlib.Algebra.BigOperators.Group.List.Basic
import Mathlib.Algebra.Order.BigOperators.Group.List
import Mathlib.Algebra.Ring.Int.Defs
import Mathlib.Algebra.Ring.Nat
import Mathlib.Data.List.Induction

/-! # What a roster counts

The sums and counts over some entries do not depend on their order, and an entry that is put in the
place of another changes them exactly when its price or one of its flags is different. They are
stored wrapped around, so they agree with the exact ones where those fit. Counting in one pass, as a
recomputation does, gives the same numbers, and in a checked build it stops at the first entry whose
sums do not fit.
-/

namespace AuctionBudget

namespace Build

variable {α β : Type} {build : Build} {fits : Bool}

theorem settle_of_fits (fit : build = .checked → fits = true) (wrapped : α) :
    build.settle fits wrapped = .ok wrapped := by
  cases build with
  | checked => rw [fit rfl, settle_true]
  | release => rfl

/-- Two settlements one after the other are one of both. -/
theorem settle_bind_settle (first second : Bool) (a : α) (f : α → β) :
    (build.settle first a >>= fun a => build.settle second (f a)) =
      build.settle (first && second) (f a) := by
  cases build with
  | checked => cases first <;> rfl
  | release => rfl

theorem settle_bind_pure (fits : Bool) (a : α) (f : α → β) :
    (build.settle fits a >>= fun a => pure (f a)) = build.settle fits (f a) := by
  cases build with
  | checked => cases fits <;> rfl
  | release => rfl

/-- Counting one more, where the numbers so far fit. -/
theorem next_ofNat {count : Nat} (fit : build = .checked → (count : Int) ≤ Int32.maxValue.toInt) :
    build.next (.ofNat count) =
      build.settle (((count + 1 : Nat) : Int) ≤ Int32.maxValue.toInt) (.ofNat (count + 1)) := by
  have reached : Int32.ofNat count + 1 = .ofNat (count + 1) := (Int32.ofNat_add count 1).symm
  cases build with
  | release => rw [next, reached, settle_release, settle_release]
  | checked =>
      have bound := fit rfl
      rw [Int32.toInt_maxValue] at bound
      have exact : (Int32.ofNat count).toInt = count := Int32.toInt_ofNat_of_lt (by omega)
      have more : Int32.ofNat count ≠ Int32.maxValue ↔
          ((count + 1 : Nat) : Int) ≤ Int32.maxValue.toInt := by
        rw [ne_eq, ← Int32.toInt_inj, exact, Int32.toInt_maxValue]
        omega
      rw [next, reached, decide_eq_decide.2 more]

end Build

/-- Adding to a sum, where the sum so far fits. -/
theorem Money.add_ofCents {build : Build} {cents : Int} (fit : build = .checked → InRange cents)
    (amount : Money) : add build (ofCents cents) amount =
      build.settle (InRange (cents + amount.cents)) (ofCents (cents + amount.cents)) := by
  have reached : ofCents cents + amount = ofCents (cents + amount.cents) := by
    rw [ofCents_add, ofCents_cents]
  cases build with
  | release => rw [add, reached, Build.settle_release, Build.settle_release]
  | checked => rw [add, reached, cents_ofCents (fit rfl)]

theorem Money.cents_eq_iff {amount : Money} {cents : Int} :
    amount.cents = cents ↔ amount = ofCents cents ∧ InRange cents := by
  constructor
  · rintro rfl
    exact ⟨(ofCents_cents amount).symm, inRange_cents amount⟩
  · rintro ⟨rfl, inRange⟩
    exact cents_ofCents inRange

/-- A stored count is the exact one just when it is the wrapped one and that fits. -/
theorem toInt_eq_count_iff {stored : Int32} {count : Nat} :
    stored.toInt = count ↔
      stored = .ofNat count ∧ (count : Int) ≤ Int32.maxValue.toInt := by
  rw [Int32.toInt_maxValue]
  constructor
  · intro same
    have bound := stored.toInt_lt
    refine ⟨Int32.toInt_inj.1 ?_, by omega⟩
    rw [same, Int32.toInt_ofNat_of_lt (by omega)]
  · rintro ⟨rfl, bound⟩
    exact Int32.toInt_ofNat_of_lt (by omega)

/-- The numbers of an entry that totals depend on. -/
def Entry.weight (entry : Entry) : Money × Bool × Bool :=
  (entry.price, entry.free, entry.rtm)

namespace Auction

variable {build : Build} {seen these those : List Entry} {entry : Entry}

@[simp] theorem amountOf_nil : amountOf [] = 0 :=
  rfl

@[simp] theorem amountOf_cons (entry : Entry) (rest : List Entry) :
    amountOf (entry :: rest) = entry.price.cents + amountOf rest :=
  rfl

theorem amountOf_eq_sum (entries : List Entry) :
    amountOf entries = (entries.map fun entry => entry.price.cents).sum := by
  induction entries with
  | nil => rfl
  | cons entry rest ih => simp [ih]

@[simp] theorem amountOf_append (these those : List Entry) :
    amountOf (these ++ those) = amountOf these + amountOf those := by
  simp [amountOf_eq_sum]

/-- Sums depend on the weights of the entries alone. -/
theorem amountOf_congr (same : (these.map Entry.weight).Perm (those.map Entry.weight)) :
    amountOf these = amountOf those := by
  have told (entries : List Entry) :
      amountOf entries = ((entries.map Entry.weight).map fun weight => weight.1.cents).sum := by
    rw [amountOf_eq_sum, List.map_map]
    rfl
  rw [told, told, (same.map _).sum_eq]

theorem length_congr (same : (these.map Entry.weight).Perm (those.map Entry.weight)) :
    these.length = those.length := by
  simpa using same.length_eq

theorem fits_congr (same : (these.map Entry.weight).Perm (those.map Entry.weight)) :
    Fits these ↔ Fits those := by
  rw [Fits, Fits, amountOf_congr same, length_congr same]

@[simp] theorem fits_nil : Fits [] := by
  decide

theorem amountOf_nonneg (nonneg : ∀ entry ∈ these, 0 ≤ entry.price.cents) : 0 ≤ amountOf these := by
  rw [amountOf_eq_sum]
  refine List.sum_nonneg fun cents member => ?_
  obtain ⟨entry, there, rfl⟩ := List.mem_map.1 member
  exact nonneg entry there

/-- Where no price is negative, some of the entries fit if all of them do. -/
theorem Fits.sublist (fits : Fits those) (nonneg : ∀ entry ∈ those, 0 ≤ entry.price.cents)
    (some : these.Sublist those) : Fits these := by
  have zero : 0 ≤ amountOf these :=
    amountOf_nonneg fun entry member => nonneg entry (some.subset member)
  have less : amountOf these ≤ amountOf those := by
    rw [amountOf_eq_sum, amountOf_eq_sum]
    refine (some.map _).sum_le_sum fun cents member => ?_
    obtain ⟨entry, there, rfl⟩ := List.mem_map.1 member
    exact nonneg entry there
  have fewer := some.length_le
  obtain ⟨⟨-, high⟩, bound⟩ := fits
  refine ⟨⟨?_, less.trans high⟩, by omega⟩
  exact le_trans (by decide) zero

/-- The totals of some entries, as they are stored. -/
def tally (entries : List Entry) : TeamTotals where
  spent := .ofCents (amountOf entries)
  rtm := .ofNat (entries.countP (·.rtm))
  free := .ofNat (entries.countP (·.free))
  players := .ofNat entries.length

theorem tally_congr (same : (these.map Entry.weight).Perm (those.map Entry.weight)) :
    tally these = tally those := by
  have counts (flag : Money × Bool × Bool → Bool) :
      these.countP (fun entry => flag entry.weight) = those.countP fun entry => flag entry.weight := by
    have all := same.countP_eq flag
    rwa [List.countP_map, List.countP_map] at all
  have rtm := counts (·.2.2)
  have free := counts (·.2.1)
  simp only [Entry.weight] at rtm free
  simp only [tally, amountOf_congr same, length_congr same, rtm, free]

/-- A flag that some entries are counted by is told by what it adds to a count. -/
theorem ofNat_add_ite_inj {count : Nat} {this that : Bool} :
    Int32.ofNat (count + if this then 1 else 0) = Int32.ofNat (count + if that then 1 else 0) ↔
      this = that := by
  rw [Int32.ofNat_add, Int32.ofNat_add, Int32.add_right_inj]
  cases this <;> cases that <;> decide

/-- Replacing an entry keeps the totals just when it keeps the price and the flags. -/
theorem tally_cons_inj {this that : Entry} {rest : List Entry} :
    tally (this :: rest) = tally (that :: rest) ↔ this.weight = that.weight := by
  have spent : Money.ofCents (amountOf (this :: rest)) = .ofCents (amountOf (that :: rest)) ↔
      this.price = that.price := by
    simp only [amountOf_cons, Money.ofCents_add, Money.ofCents_cents]
    constructor
    · intro same
      exact congrArg Money.mk ((Int64.add_left_inj _).1 (congrArg Money.stored same))
    · exact congrArg (· + _)
  simp only [tally, TeamTotals.mk.injEq, spent, List.countP_cons, ofNat_add_ite_inj,
    List.length_cons, Entry.weight, Prod.mk.injEq, and_true]
  tauto

/-- Stored totals are the exact ones just when they are the wrapped ones and those fit. -/
theorem totalsAgree_iff {db : Auction} {teamSeason : TeamSeason} : db.TotalsAgree teamSeason ↔
    teamSeason.totals = tally (db.roster teamSeason.id) ∧ Fits (db.roster teamSeason.id) := by
  rcases teamSeason with ⟨id, code, season, spent, rtm, free, players⟩
  have fewRtm := (db.roster id).countP_le_length (p := (·.rtm))
  have fewFree := (db.roster id).countP_le_length (p := (·.free))
  simp only [TotalsAgree, Money.cents_eq_iff, toInt_eq_count_iff, tally, TeamTotals.mk.injEq, Fits]
  constructor
  · rintro ⟨⟨sum, inRange⟩, ⟨rtm, -⟩, ⟨free, -⟩, ⟨players, bound⟩⟩
    exact ⟨⟨sum, rtm, free, players⟩, inRange, bound⟩
  · rintro ⟨⟨sum, rtm, free, players⟩, inRange, bound⟩
    exact ⟨⟨sum, inRange⟩, ⟨rtm, by omega⟩, ⟨free, by omega⟩, ⟨players, bound⟩⟩

/-- The spending and the head count of some entries, as they are stored. -/
def headCount (entries : List Entry) : Money × Int32 :=
  (.ofCents (amountOf entries), .ofNat entries.length)

theorem aggregateAgrees_iff {db : Auction} {row : AggregateRow} :
    db.AggregateAgrees row ↔
      (row.aggregate.spent, row.aggregate.players) =
          headCount (db.tierRoster row.teamSeason row.aggregate.code) ∧
        Fits (db.tierRoster row.teamSeason row.aggregate.code) := by
  simp only [AggregateAgrees, Money.cents_eq_iff, toInt_eq_count_iff, headCount, Prod.mk.injEq,
    Fits]
  tauto

theorem headCount_congr (same : (these.map Entry.weight).Perm (those.map Entry.weight)) :
    headCount these = headCount those := by
  rw [headCount, headCount, amountOf_congr same, length_congr same]

theorem fits_concat_iff : Fits (seen ++ [entry]) ↔
    Money.InRange (amountOf seen + entry.price.cents) ∧
      ((seen.length + 1 : Nat) : Int) ≤ Int32.maxValue.toInt := by
  rw [Fits, amountOf_append, amountOf_cons, amountOf_nil, add_zero, List.length_append,
    List.length_singleton]

theorem headCount_concat (seen : List Entry) (entry : Entry) : headCount (seen ++ [entry]) =
    (.ofCents (amountOf seen + entry.price.cents), .ofNat (seen.length + 1)) := by
  rw [headCount, amountOf_append, amountOf_cons, amountOf_nil, add_zero, List.length_append,
    List.length_singleton]

/-- The count of a flag fits where the number of all entries does. -/
theorem nextIf_countP (flag : Entry → Bool) (fit : build = .checked → Fits (seen ++ [entry])) :
    build.nextIf (flag entry) (.ofNat (seen.countP flag)) =
      .ok (.ofNat ((seen ++ [entry]).countP flag)) := by
  have few := seen.countP_le_length (p := flag)
  have bound (checked : build = .checked) := (fits_concat_iff.1 (fit checked)).2
  rw [List.countP_append, List.countP_singleton]
  cases flagged : flag entry with
  | false => rfl
  | true =>
      rw [Build.nextIf, if_pos rfl, if_pos rfl, Build.next_ofNat, Build.settle_of_fits]
      · intro checked
        have all := bound checked
        exact decide_eq_true (by omega)
      · intro checked
        have all := bound checked
        omega

/-- Counting one more entry gives the totals of all, as long as they fit. -/
theorem count_tally (fit : build = .checked → Fits seen) (entry : Entry) :
    (tally seen).count build entry =
      build.settle (Fits (seen ++ [entry])) (tally (seen ++ [entry])) := by
  have spent : build = .checked → Money.InRange (amountOf seen) := fun checked => (fit checked).1
  have players : build = .checked → (seen.length : Int) ≤ Int32.maxValue.toInt :=
    fun checked => (fit checked).2
  rw [TeamTotals.count, tally, Money.add_ofCents spent, Build.next_ofNat players]
  by_cases whole : build = .checked → Fits (seen ++ [entry])
  · have fits (checked : build = .checked) := fits_concat_iff.1 (whole checked)
    rw [Build.settle_of_fits fun checked => decide_eq_true (whole checked),
      Build.settle_of_fits fun checked => decide_eq_true (fits checked).1,
      Build.settle_of_fits fun checked => decide_eq_true (fits checked).2]
    have free := nextIf_countP (·.free) whole
    have rtm := nextIf_countP (·.rtm) whole
    simp only [bind, Except.bind, pure, Except.pure, free, rtm, tally, amountOf_append,
      amountOf_cons, amountOf_nil, add_zero, List.length_append, List.length_singleton]
  · obtain ⟨rfl, stops⟩ := Classical.not_imp.1 whole
    rw [decide_eq_false stops, Build.settle_checked_false]
    by_cases inRange : Money.InRange (amountOf seen + entry.price.cents)
    · have many : ¬ ((seen.length + 1 : Nat) : Int) ≤ Int32.maxValue.toInt :=
        fun bound => stops (fits_concat_iff.2 ⟨inRange, bound⟩)
      rw [decide_eq_true inRange, decide_eq_false many]
      rfl
    · rw [decide_eq_false inRange]
      rfl

/-- The aggregate of a tier with some entries, before it gets a ceiling. -/
def tierCount (code : String) (entries : List Entry) : TierAggregate :=
  ⟨code, (headCount entries).1, (headCount entries).2, none⟩

theorem count_tierCount (fit : build = .checked → Fits seen) (code : String) (entry : Entry) :
    (tierCount code seen).count build entry =
      build.settle (Fits (seen ++ [entry])) (tierCount code (seen ++ [entry])) := by
  have spent : build = .checked → Money.InRange (amountOf seen) := fun checked => (fit checked).1
  have players : build = .checked → (seen.length : Int) ≤ Int32.maxValue.toInt :=
    fun checked => (fit checked).2
  rw [TierAggregate.count, tierCount, tierCount, headCount_concat, headCount,
    Money.add_ofCents spent, Build.next_ofNat players]
  simp only [Build.settle_bind_pure, Build.settle_bind_settle, fits_concat_iff, Bool.decide_and]

section Lines

variable {tierOf : Entry → String} {totals : RosterTotals}

/-- The sums over some entries fit, and those over the entries of every tier among them. -/
def FitAll (tierOf : Entry → String) (entries : List Entry) : Prop :=
  Fits entries ∧ ∀ tier, Fits (entries.filter (tierOf · = tier))

/-- One more entry adds to the sums over all entries and to those of its own tier. -/
theorem fitAll_concat_iff (fit : FitAll tierOf seen) : FitAll tierOf (seen ++ [entry]) ↔
    Fits (seen.filter (tierOf · = tierOf entry) ++ [entry]) ∧ Fits (seen ++ [entry]) := by
  have own : (seen ++ [entry]).filter (tierOf · = tierOf entry) =
      seen.filter (tierOf · = tierOf entry) ++ [entry] := by
    simp
  constructor
  · rintro ⟨whole, tiers⟩
    exact ⟨own ▸ tiers (tierOf entry), whole⟩
  · rintro ⟨ofTier, whole⟩
    refine ⟨whole, fun tier => ?_⟩
    by_cases here : tierOf entry = tier
    · subst here
      rwa [own]
    · simpa [List.filter_append, here] using fit.2 tier

/-- What counting some entries leaves. -/
structure Counted (tierOf : Entry → String) (seen : List Entry) (totals : RosterTotals) : Prop where
  team : totals.team = tally seen
  tier : ∀ code, totals.tier code = tierCount code (seen.filter (tierOf · = code))

theorem counted_zero (tierOf : Entry → String) : Counted tierOf [] .zero :=
  ⟨rfl, fun _ => rfl⟩

/-- Counting one more entry, as long as the sums fit. -/
theorem Counted.count (build : Build) (counted : Counted tierOf seen totals)
    (fit : build = .checked → FitAll tierOf seen) (entry : Entry) :
    ∃ next, Counted tierOf (seen ++ [entry]) next ∧
      totals.count build (entry, tierOf entry) =
        build.settle (Fits (seen.filter (tierOf · = tierOf entry) ++ [entry]) ∧
          Fits (seen ++ [entry])) next := by
  have tier := count_tierCount (fun checked => (fit checked).2 (tierOf entry)) (tierOf entry) entry
  have team := count_tally (fun checked => (fit checked).1) entry
  refine ⟨⟨tally (seen ++ [entry]), Table.upsert TierAggregate.code (tierCount (tierOf entry)
    (seen.filter (tierOf · = tierOf entry) ++ [entry])) totals.tiers⟩, ⟨rfl, fun code => ?_⟩, ?_⟩
  · have others := counted.tier code
    rw [RosterTotals.tier] at others ⊢
    rw [Table.find?_upsert]
    by_cases here : tierOf entry = code
    · subst here
      simp [tierCount]
    · simpa [tierCount, here, List.filter_append] using others
  · rw [RosterTotals.count, counted.team, counted.tier, tier, team]
    simp only [Build.settle_bind_pure, Build.settle_bind_settle, Bool.decide_and]

theorem ofLines_concat (tierOf : Entry → String) (seen : List Entry) (entry : Entry) :
    RosterTotals.ofLines build ((seen ++ [entry]).map fun entry => (entry, tierOf entry)) =
      RosterTotals.ofLines build (seen.map fun entry => (entry, tierOf entry)) >>= fun totals =>
        totals.count build (entry, tierOf entry) := by
  rw [RosterTotals.ofLines, List.map_append, List.foldlM_append]
  simp [RosterTotals.ofLines]

/-- A pass counts all entries of a roster when their sums fit however far it has counted. -/
theorem ofLines_ok (build : Build) (tierOf : Entry → String) (entries : List Entry)
    (fit : build = .checked → ∀ seen, seen <+: entries → FitAll tierOf seen) :
    ∃ totals, Counted tierOf entries totals ∧
      RosterTotals.ofLines build (entries.map fun entry => (entry, tierOf entry)) = .ok totals := by
  induction entries using List.reverseRecOn with
  | nil => exact ⟨_, counted_zero tierOf, rfl⟩
  | append_singleton seen entry ih =>
      obtain ⟨totals, counted, ran⟩ := ih fun checked before early =>
        fit checked before (early.trans (List.prefix_append seen [entry]))
      have whole (checked : build = .checked) := fit checked _ (List.prefix_append seen [entry])
      obtain ⟨next, countedNext, step⟩ := counted.count build whole entry
      refine ⟨next, countedNext, ?_⟩
      rw [ofLines_concat, ran]
      exact (step.trans (Build.settle_of_fits (fun checked => decide_eq_true
        ((fitAll_concat_iff (whole checked)).1 (fit checked _ (List.prefix_refl _)))) next) :)

theorem ofLines_error (tierOf : Entry → String) (entries : List Entry)
    (stops : ¬ ∀ seen, seen <+: entries → FitAll tierOf seen) :
    RosterTotals.ofLines .checked (entries.map fun entry => (entry, tierOf entry)) =
      .error .overflow := by
  induction entries using List.reverseRecOn with
  | nil =>
      refine absurd (fun seen early => ?_) stops
      rw [List.prefix_nil.1 early]
      exact ⟨fits_nil, fun _ => fits_nil⟩
  | append_singleton seen entry ih =>
      rw [ofLines_concat]
      by_cases before : ∀ start, start <+: seen → FitAll tierOf start
      · obtain ⟨totals, counted, ran⟩ := ofLines_ok .checked tierOf seen fun _ => before
        have whole := before seen (List.prefix_refl seen)
        obtain ⟨next, -, step⟩ := counted.count .checked (fun _ => whole) entry
        have more : ¬ FitAll tierOf (seen ++ [entry]) := by
          intro fits
          refine stops fun start early => ?_
          rcases List.prefix_concat_iff.1 early with rfl | earlier
          · exact fits
          · exact before start earlier
        rw [fitAll_concat_iff whole] at more
        rw [decide_eq_false more] at step
        rw [ran]
        exact step
      · rw [ih before]
        rfl

end Lines

end Auction
end AuctionBudget
