import AuctionBudget.Table
import Mathlib.Data.List.Nodup
import Mathlib.Data.List.Perm.Basic

/-! # Tables without double keys

Where every key is taken once, a key finds exactly the row that has it, and taking that row out or
changing it leaves all others alone.
-/

namespace AuctionBudget.Table

variable {Row Key : Type} [DecidableEq Key]
variable {key : Row → Key} {k : Key} {row : Row} {rows : List Row}

theorem find?_eq_some_iff (distinct : (rows.map key).Nodup) :
    find? key k rows = some row ↔ row ∈ rows ∧ key row = k := by
  constructor
  · exact mem_of_find?_eq_some
  · rintro ⟨member, rfl⟩
    cases found : find? key (key row) rows with
    | none => exact absurd rfl (find?_eq_none_iff.1 found row member)
    | some other =>
        obtain ⟨there, same⟩ := mem_of_find?_eq_some found
        rw [List.inj_on_of_nodup_map distinct there member same]

/-- What a key finds does not depend on the order of the rows. -/
theorem find?_perm {others : List Row} (same : rows.Perm others)
    (distinct : (others.map key).Nodup) : find? key k rows = find? key k others := by
  have keys : (rows.map key).Nodup := (same.map key).nodup_iff.2 distinct
  refine Option.ext fun row => ?_
  rw [find?_eq_some_iff keys, find?_eq_some_iff distinct, same.mem_iff]

theorem has_iff : has key k rows = true ↔ ∃ row ∈ rows, key row = k := by
  simp [has, find?]

theorem isSome_find?_iff : (find? key k rows).isSome ↔ ∃ row ∈ rows, key row = k :=
  has_iff

@[simp] theorem mem_erase : row ∈ erase key k rows ↔ row ∈ rows ∧ key row ≠ k := by
  simp [erase]

theorem nodup_erase (distinct : (rows.map key).Nodup) : ((erase key k rows).map key).Nodup :=
  distinct.sublist (List.filter_sublist.map key)

theorem mem_upsert {other : Row} (member : other ∈ upsert key row rows) :
    other = row ∨ other ∈ rows := by
  induction rows with
  | nil => exact .inl (List.mem_singleton.1 member)
  | cons first rest ih =>
      unfold upsert at member
      split at member
      · exact (List.mem_cons.1 member).imp_right (List.mem_cons_of_mem _)
      · rcases List.mem_cons.1 member with rfl | later
        · exact .inr List.mem_cons_self
        · exact (ih later).imp_right (List.mem_cons_of_mem _)

theorem nodup_upsert (distinct : (rows.map key).Nodup) :
    ((upsert key row rows).map key).Nodup := by
  induction rows with
  | nil => simp [upsert]
  | cons first rest ih =>
      obtain ⟨fresh, later⟩ := List.nodup_cons.1 distinct
      unfold upsert
      split
      · next same => exact List.nodup_cons.2 ⟨same ▸ fresh, later⟩
      · next different =>
          refine List.nodup_cons.2 ⟨fun taken => ?_, ih later⟩
          obtain ⟨other, member, same⟩ := List.mem_map.1 taken
          rcases mem_upsert member with rfl | there
          · exact different same.symm
          · exact fresh (same ▸ List.mem_map_of_mem there)

/-- A row takes the place of the one with its key, and all others keep theirs. -/
theorem map_key_upsert (key : Row → Key) (row : Row) (rows : List Row) :
    rows.map key <+: (upsert key row rows).map key := by
  induction rows with
  | nil => exact List.nil_prefix
  | cons first rest ih =>
      unfold upsert
      split
      · next same =>
          have unchanged : (row :: rest).map key = (first :: rest).map key := by
            simp [same]
          exact unchanged ▸ List.prefix_refl _
      · exact List.cons_prefix_cons.2 ⟨rfl, ih⟩

theorem map_key_foldl_upsert (key : Row → Key) (new rows : List Row) :
    rows.map key <+: (new.foldl (fun rows row => upsert key row rows) rows).map key := by
  induction new generalizing rows with
  | nil => exact List.prefix_refl _
  | cons row rest ih => exact (map_key_upsert key row rows).trans (ih _)

/-- A row that is in the table already changes nothing. -/
theorem upsert_of_mem (distinct : (rows.map key).Nodup) (member : row ∈ rows) :
    upsert key row rows = rows := by
  induction rows with
  | nil => simp at member
  | cons first rest ih =>
      obtain ⟨fresh, later⟩ := List.nodup_cons.1 distinct
      rcases List.mem_cons.1 member with rfl | there
      · rw [upsert, if_pos rfl]
      · have other : key first ≠ key row := fun same => fresh (same ▸ List.mem_map_of_mem there)
        rw [upsert, if_neg other, ih later there]

/-- Rows that are in the table already change nothing. -/
theorem foldl_upsert_of_mem {new : List Row} (distinct : (rows.map key).Nodup)
    (there : ∀ row ∈ new, row ∈ rows) :
    new.foldl (fun rows row => upsert key row rows) rows = rows := by
  induction new with
  | nil => rfl
  | cons row rest ih =>
      rw [List.foldl_cons, upsert_of_mem distinct (there row List.mem_cons_self)]
      exact ih fun other member => there other (List.mem_cons_of_mem _ member)

section Kind

variable {among : Row → Bool} (keyed : ∀ row other, key row = key other → among row = among other)

include keyed

/-- A row that is put into a table leaves the rows of another kind alone. -/
theorem filter_upsert_of_not (new : among row = false) :
    (upsert key row rows).filter among = rows.filter among := by
  induction rows with
  | nil => simp [upsert, new]
  | cons first rest ih =>
      by_cases same : key first = key row
      · have gone : among first = false := (keyed first row same).trans new
        rw [upsert, if_pos same, List.filter_cons_of_neg (by simp [new]),
          List.filter_cons_of_neg (by simp [gone])]
      · rw [upsert, if_neg same, List.filter_cons, List.filter_cons, ih]

/-- A row that is put into a table is put among the rows of its kind. -/
theorem filter_upsert_of_pos (new : among row = true) :
    (upsert key row rows).filter among = upsert key row (rows.filter among) := by
  induction rows with
  | nil => simp [upsert, new]
  | cons first rest ih =>
      by_cases same : key first = key row
      · have here : among first = true := (keyed first row same).trans new
        rw [upsert, if_pos same, List.filter_cons_of_pos new, List.filter_cons_of_pos here, upsert,
          if_pos same]
      · rw [upsert, if_neg same]
        by_cases here : among first = true
        · rw [List.filter_cons_of_pos here, List.filter_cons_of_pos here, upsert, if_neg same, ih]
        · rw [List.filter_cons_of_neg here, List.filter_cons_of_neg here, ih]

theorem filter_foldl_upsert_of_not {new : List Row} (away : ∀ row ∈ new, among row = false) :
    (new.foldl (fun rows row => upsert key row rows) rows).filter among = rows.filter among := by
  induction new generalizing rows with
  | nil => rfl
  | cons row rest ih =>
      rw [List.foldl_cons, ih fun other member => away other (List.mem_cons_of_mem _ member),
        filter_upsert_of_not keyed (away row List.mem_cons_self)]

theorem filter_foldl_upsert_of_pos {new : List Row} (here : ∀ row ∈ new, among row = true) :
    (new.foldl (fun rows row => upsert key row rows) rows).filter among =
      new.foldl (fun rows row => upsert key row rows) (rows.filter among) := by
  induction new generalizing rows with
  | nil => rfl
  | cons row rest ih =>
      rw [List.foldl_cons, ih fun other member => here other (List.mem_cons_of_mem _ member),
        filter_upsert_of_pos keyed (here row List.mem_cons_self), List.foldl_cons]

end Kind

/-- What a key finds after some rows were put into the table one by one. -/
theorem find?_foldl_upsert {new : List Row} (distinct : (new.map key).Nodup) (k : Key) :
    find? key k (new.foldl (fun rows row => upsert key row rows) rows) =
      (find? key k new).or (find? key k rows) := by
  induction new generalizing rows with
  | nil => rfl
  | cons row rest ih =>
      obtain ⟨fresh, later⟩ := List.nodup_cons.1 distinct
      rw [List.foldl_cons, ih later, find?_upsert]
      by_cases here : key row = k
      · have absent : find? key k rest = none := find?_eq_none_iff.2 fun other member same =>
          fresh (List.mem_map.2 ⟨other, member, same.trans here.symm⟩)
        rw [if_pos here, absent]
        simp [find?, here]
      · rw [if_neg here]
        simp [find?, here]

theorem mem_foldl_upsert {new : List Row}
    (member : row ∈ new.foldl (fun rows row => upsert key row rows) rows) :
    row ∈ new ∨ row ∈ rows := by
  induction new generalizing rows with
  | nil => exact .inr member
  | cons first rest ih =>
      rcases ih member with later | upserted
      · exact .inl (List.mem_cons_of_mem _ later)
      · rcases mem_upsert upserted with rfl | there
        · exact .inl List.mem_cons_self
        · exact .inr there

theorem nodup_foldl_upsert (new : List Row) (distinct : (rows.map key).Nodup) :
    ((new.foldl (fun rows row => upsert key row rows) rows).map key).Nodup := by
  induction new generalizing rows with
  | nil => exact distinct
  | cons row rest ih => exact ih (nodup_upsert distinct)

/-- Rows that cover the keys of a table take the place of all that is in it. -/
theorem foldl_upsert_perm {new : List Row} (distinctNew : (new.map key).Nodup)
    (distinct : (rows.map key).Nodup) (covered : ∀ row ∈ rows, key row ∈ new.map key) :
    (new.foldl (fun rows row => upsert key row rows) rows).Perm new := by
  have distinctAfter := nodup_foldl_upsert new distinct
  refine (List.perm_ext_iff_of_nodup distinctAfter.of_map distinctNew.of_map).2 fun row => ?_
  have found {table : List Row} (keys : (table.map key).Nodup) :
      row ∈ table ↔ find? key (key row) table = some row := by
    rw [find?_eq_some_iff keys]
    exact (and_iff_left rfl).symm
  rw [found distinctAfter, found distinctNew, find?_foldl_upsert distinctNew]
  cases replaced : find? key (key row) new with
  | some other => rfl
  | none =>
      have absent : find? key (key row) rows = none :=
        find?_eq_none_iff.2 fun other member same => by
          obtain ⟨fresh, there, sameKey⟩ := List.mem_map.1 (covered other member)
          exact find?_eq_none_iff.1 replaced fresh there (sameKey.trans same)
      rw [absent]
      rfl

/-- A row stands before all others. -/
theorem perm_cons_erase (distinct : (rows.map key).Nodup) (member : row ∈ rows) :
    rows.Perm (row :: erase key (key row) rows) := by
  induction rows with
  | nil => simp at member
  | cons first rest ih =>
      obtain ⟨fresh, later⟩ := List.nodup_cons.1 distinct
      rcases List.mem_cons.1 member with rfl | member
      · have different : ∀ other ∈ rest, key other ≠ key row := fun other there same =>
          fresh (same ▸ List.mem_map_of_mem there)
        have unchanged : rest.filter (fun other => key other ≠ key row) = rest :=
          List.filter_eq_self.2 fun other there => by simpa using different other there
        rw [erase, List.filter_cons_of_neg (by simp), unchanged]
      · have other : key first ≠ key row := fun same => fresh (same ▸ List.mem_map_of_mem member)
        have kept : erase key (key row) (first :: rest) = first :: erase key (key row) rest := by
          simp [erase, other]
        rw [kept]
        exact ((ih later member).cons first).trans (.swap row first _)

/-- Changing a row changes it alone. -/
theorem update_perm (distinct : (rows.map key).Nodup) (member : row ∈ rows) (change : Row → Row) :
    (update key (key row) change rows).Perm (change row :: erase key (key row) rows) := by
  refine ((perm_cons_erase distinct member).map _).trans ?_
  rw [List.map_cons, if_pos rfl]
  refine .cons _ (.of_eq ?_)
  conv_rhs => rw [← List.map_id (erase key (key row) rows)]
  refine List.map_congr_left fun other there => ?_
  simp [(mem_erase.1 there).2]

/-- Rows made from their keys are found under them. -/
theorem find?_map_keyed (key : Row → Key) {f : Key → Row} (keyed : ∀ k, key (f k) = k) (k : Key)
    (keys : List Key) : find? key k (keys.map f) = if k ∈ keys then some (f k) else none := by
  induction keys with
  | nil => rfl
  | cons other rest ih =>
      rw [find?] at ih ⊢
      by_cases here : other = k
      · simp [keyed, here]
      · simp [keyed, here, Ne.symm here, ih]

/-- What a key finds among rows that were changed under their keys. -/
theorem find?_map {Row' : Type} {key' : Row' → Key} {f : Row → Row'}
    (keyed : ∀ row, key' (f row) = key row) :
    find? key' k (rows.map f) = (find? key k rows).map f := by
  simp only [find?, List.find?_map, Function.comp_def, keyed]

theorem map_update {Value : Type} {value : Row → Value} {change : Row → Row}
    (keeps : ∀ row ∈ rows, key row = k → value (change row) = value row) :
    (update key k change rows).map value = rows.map value := by
  rw [update, List.map_map]
  refine List.map_congr_left fun row member => ?_
  by_cases here : key row = k
  · simp [here, keeps row member here]
  · simp [here]

end AuctionBudget.Table
