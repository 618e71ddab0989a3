/-! # Tables

A table is a list of rows that are told apart by a key.
-/

namespace AuctionBudget.Table

variable {Row Key : Type} [DecidableEq Key]

def find? (key : Row → Key) (k : Key) (rows : List Row) : Option Row :=
  rows.find? fun row => key row = k

def has (key : Row → Key) (k : Key) (rows : List Row) : Bool :=
  (find? key k rows).isSome

/-- Put a row in the place of the one with its key, or at the end. -/
def upsert (key : Row → Key) (row : Row) : List Row → List Row
  | [] => [row]
  | r :: rest => if key r = key row then row :: rest else r :: upsert key row rest

def erase (key : Row → Key) (k : Key) (rows : List Row) : List Row :=
  rows.filter fun row => key row ≠ k

def update (key : Row → Key) (k : Key) (change : Row → Row) (rows : List Row) : List Row :=
  rows.map fun row => if key row = k then change row else row

variable {key : Row → Key} {k : Key} {row : Row} {rows : List Row}

/-- A row that is found has the key and is in the table. -/
theorem mem_of_find?_eq_some (h : find? key k rows = some row) : row ∈ rows ∧ key row = k :=
  ⟨List.mem_of_find?_eq_some h, by simpa using List.find?_some h⟩

/-- No row is found exactly when no row has the key. -/
theorem find?_eq_none_iff : find? key k rows = none ↔ ∀ row ∈ rows, key row ≠ k := by
  simp [find?, List.find?_eq_none]

/-- What a key finds after a row was put into the table. -/
theorem find?_upsert : find? key k (upsert key row rows) =
    if key row = k then some row else find? key k rows := by
  induction rows with
  | nil => by_cases h : key row = k <;> simp [upsert, find?, h]
  | cons r rest ih =>
      simp only [find?] at ih
      by_cases same : key r = key row
      · by_cases h : key row = k <;> simp [upsert, find?, same, h]
      · by_cases h : key r = k
        · have other : key row ≠ k := fun e => same (h.trans e.symm)
          simp [upsert, find?, h, other, Ne.symm other]
        · simp [upsert, find?, same, h, ih]

/-- Rows may be put into a table before or after they are changed under their keys. -/
theorem map_upsert {Row' : Type} {key' : Row' → Key} {f : Row → Row'}
    (keyed : ∀ row, key' (f row) = key row) :
    (upsert key row rows).map f = upsert key' (f row) (rows.map f) := by
  induction rows with
  | nil => rfl
  | cons r rest ih =>
      simp only [upsert, List.map_cons, keyed]
      split
      · rfl
      · rw [List.map_cons, ih]

/-- What a key finds after a row was taken out of the table. -/
theorem find?_erase {gone : Key} : find? key k (erase key gone rows) =
    if k = gone then none else find? key k rows := by
  induction rows with
  | nil => simp [erase, find?]
  | cons r rest ih =>
      simp only [find?, erase] at ih
      by_cases h : key r = gone
      · by_cases hk : k = gone
        · simp_all [erase, find?]
        · have : ¬ gone = k := fun e => hk e.symm
          simp_all [erase, find?]
      · by_cases hk : k = gone
        · simp_all [erase, find?]
        · simp_all [erase, find?, List.find?_cons]

end AuctionBudget.Table
