import AuctionBudget.Proofs.Json.RoundTrip
import AuctionBudget.Proofs.Refusal
import AuctionBudget.Proofs.Text.Border
import AuctionBudget.Rule.Row

/-! # Rules survive storage

A stored rule is read back as it was saved, whatever strings its shorthand and its roots hold: the
JSON texts of the columns start and end with brackets, so that trimming leaves them alone, and the
entries of the shorthand are in order already.
-/

namespace AuctionBudget.Rule

namespace Shorthand

variable {pattern replacement : String} {entries : List (String × String)}

/-- A pattern behind all others is put at the end. -/
theorem put_of_forall_lt (behind : ∀ entry ∈ entries, entry.1 < pattern) :
    put pattern replacement entries = entries ++ [(pattern, replacement)] := by
  induction entries with
  | nil => rfl
  | cons entry rest ih =>
      obtain ⟨first, later⟩ := List.forall_mem_cons.1 behind
      have notBefore : ¬ pattern < entry.1 := String.lt_asymm first
      have notSame : pattern ≠ entry.1 := fun same => String.lt_irrefl entry.1 (same ▸ first)
      rw [put, if_neg notBefore, if_neg notSame, ih later, List.cons_append]

/-- Entries that continue the order are put at the end one after another. -/
theorem entries_foldl_insert (held : Shorthand) (entries : List (String × String))
    (ascending : (held.entries ++ entries).Pairwise (·.1 < ·.1)) :
    (entries.foldl (fun shorthand (pattern, replacement) => shorthand.insert pattern replacement)
      held).entries = held.entries ++ entries := by
  induction entries generalizing held with
  | nil => rw [List.foldl_nil, List.append_nil]
  | cons entry rest ih =>
      have behind : ∀ earlier ∈ held.entries, earlier.1 < entry.1 := fun earlier member =>
        (List.pairwise_append.1 ascending).2.2 earlier member entry List.mem_cons_self
      have put : (held.insert entry.1 entry.2).entries = held.entries ++ [entry] :=
        put_of_forall_lt behind
      have whole : (held.insert entry.1 entry.2).entries ++ rest = held.entries ++ entry :: rest := by
        rw [put, List.append_assoc, List.singleton_append]
      rw [List.foldl_cons, ih _ (whole ▸ ascending), whole]

theorem eq_of_entries {one other : Shorthand} (same : one.entries = other.entries) : one = other := by
  cases one
  cases other
  cases same
  rfl

/-- The entries of a shorthand make up just this shorthand. -/
theorem ofList_entries (shorthand : Shorthand) : ofList shorthand.entries = shorthand :=
  eq_of_entries (entries_foldl_insert empty shorthand.entries shorthand.ascending)

end Shorthand

namespace Row

variable {α : Type} {empty : α} {read? : List Char → Option α} {text : String}

theorem readColumn?_of_solid (solid : Text.Solid text.toList) :
    readColumn? empty read? (some text) = read? text.toList := by
  have kept := Text.trim_of_solid solid
  unfold readColumn?
  rw [Option.map_some, kept]
  split
  · next none => cases none
  · next blank => exact absurd (Option.some.inj blank) solid.nonempty
  · next s same => rw [Option.some.inj same]

/-- A text between brackets has no blank at its ends. -/
theorem solid_writeCollection {opening closing : Char} (openingVisible : Text.isBlank opening = false)
    (closingVisible : Text.isBlank closing = false) (items : List (List Char)) :
    Text.Solid (Json.writeCollection opening closing items) where
  nonempty := by simp [Json.writeCollection]
  first := by simpa [Json.writeCollection] using openingVisible
  last := by simpa [Json.writeCollection] using closingVisible

/-- The shorthand column is read back. -/
theorem readShorthand?_shorthandColumn (shorthand : Shorthand) :
    readShorthand? (shorthandColumn shorthand) = some shorthand := by
  unfold shorthandColumn
  split
  · next none =>
      have same : shorthand = .empty := Shorthand.eq_of_entries (List.isEmpty_iff.1 none)
      rw [same]
      rfl
  · next some =>
      rw [readShorthand?, readColumn?_of_solid, String.toList_ofList, Json.readObject?_writeObject]
      · simp [List.map_map, Function.comp_def, Shorthand.ofList_entries]
      · rw [String.toList_ofList]
        exact solid_writeCollection (by decide) (by decide) _

/-- The roots column is read back. -/
theorem readRoots?_rootsColumn (roots : List String) : readRoots? (rootsColumn roots) = some roots := by
  unfold rootsColumn
  split
  · next none =>
      obtain rfl : roots = [] := List.isEmpty_iff.1 none
      rfl
  · next some =>
      rw [readRoots?, readColumn?_of_solid, String.toList_ofList, Json.readArray?_writeArray]
      · simp [List.map_map, Function.comp_def]
      · rw [String.toList_ofList]
        exact solid_writeCollection (by decide) (by decide) _

/-- A rule is read back as it was stored. -/
theorem decode_encode (rule : Rule) : (encode rule).decode = .ok rule := by
  have shorthand : readShorthand? (encode rule).shorthand = some rule.shorthand :=
    readShorthand?_shorthandColumn rule.shorthand
  have roots : readRoots? (encode rule).roots = some rule.roots := readRoots?_rootsColumn rule.roots
  unfold decode
  rw [shorthand, roots]
  rfl

theorem shorthandColumn_eq_none_iff {shorthand : Shorthand} :
    shorthandColumn shorthand = none ↔ shorthand = .empty := by
  constructor
  · intro none
    have same := readShorthand?_shorthandColumn shorthand
    rw [none] at same
    exact (Option.some.inj same).symm
  · rintro rfl
    rfl

theorem rootsColumn_eq_none_iff {roots : List String} : rootsColumn roots = none ↔ roots = [] := by
  constructor
  · intro none
    have same := readRoots?_rootsColumn roots
    rw [none] at same
    exact (Option.some.inj same).symm
  · rintro rfl
    rfl

/-- A rule is read back as it was stored, the empty collections and only they are stored as no text,
    and a row that was written otherwise says the same once its rule has been stored again. -/
theorem decode_stored (rule : Rule) :
    (encode rule).decode = .ok rule ∧
      ((encode rule).shorthand = none ↔ rule.shorthand = .empty) ∧
      ((encode rule).roots = none ↔ rule.roots = []) ∧
      ∀ row : Row, row.decode = .ok rule → (encode rule).decode = row.decode := by
  refine ⟨decode_encode rule, shorthandColumn_eq_none_iff, rootsColumn_eq_none_iff, ?_⟩
  intro row decoded
  rw [decoded, decode_encode]

/-- A row that was written by hand: blanks between and around the parts of an object, a pattern that
    is given twice, escapes that are not needed, and a blank column of roots. -/
def handwritten : Row where
  id := .ofNat 1
  season := .ofNat 1
  tag := " t"
  category := none
  name := some ""
  statement := "l1.totalAmountSpent <= 1"
  shorthand := some " \x7b \"l\" : \"first\", \"\\u006c\" :\t\"\\/\\ud83d\\ude00\\n\\\\\" \x7d "
  roots := some " \t"
  active := true
  priority := -1
  created := 0

theorem decode_stored_handwritten : ∃ rule, handwritten.decode = .ok rule ∧
    rule.shorthand.entries = [("l", "/😀\n\\")] ∧ (encode rule).roots = none ∧
    (encode rule).decode = handwritten.decode := by
  have read : (handwritten.decode.toOption.map fun rule => (rule.shorthand.entries, rule.roots)) =
      some ([("l", "/😀\n\\")], []) := by
    decide +kernel
  obtain ⟨rule, decoded, same⟩ := Option.map_eq_some_iff.1 read
  obtain ⟨entries, roots⟩ := Prod.ext_iff.1 same
  have decoded := toOption_eq_some_iff.1 decoded
  obtain ⟨-, -, noRoots, again⟩ := decode_stored rule
  exact ⟨rule, decoded, entries, noRoots.2 roots, again handwritten decoded⟩

end Row
end AuctionBudget.Rule
