import AuctionBudget.Json.Collection
import Mathlib.Data.List.Basic

/-! # Written JSON reads back

What is written as a literal, an array of strings or an object of strings is read as just that. A
literal is read back whatever follows it; a collection has to be the whole text.
-/

namespace AuctionBudget.Json

variable {α : Type} {s rest left : List Char} {c closing : Char}

/-- Put a character in front of what was read. -/
def prepend (c : Char) (read : List Char × List Char) : List Char × List Char :=
  (c :: read.1, read.2)

theorem readChars?_escape (escaped : readEscape? rest = some (c, left)) :
    readChars? ('\\' :: rest) = (readChars? left).map (prepend c) := by
  rw [readChars?]
  split
  · next none => cases escaped.symm.trans none
  · next found =>
      cases escaped.symm.trans found
      rfl

theorem readChars?_plain (notQuote : c ≠ '"') (notBackslash : c ≠ '\\') (high : 0x20 ≤ c.toNat) :
    readChars? (c :: rest) = (readChars? rest).map (prepend c) := by
  rw [readChars?.eq_4 c rest notQuote notBackslash, if_neg (Nat.not_lt.2 high)]
  rfl

/-- The four digits of a control character. -/
theorem ofHex?_control : ∀ n < 0x20,
    Text.ofHex? ['0', '0', hexDigit (n / 16), hexDigit (n % 16)] = some n := by
  decide

theorem readEscape?_control (low : c.toNat < 0x20) : readEscape?
    ('u' :: '0' :: '0' :: hexDigit (c.toNat / 16) :: hexDigit (c.toNat % 16) :: rest) =
      some (c, rest) := by
  have unit : readUnit? ('0' :: '0' :: hexDigit (c.toNat / 16) :: hexDigit (c.toNat % 16) :: rest) =
      some (c.toNat, rest) := by
    simp [readUnit?, ofHex?_control c.toNat low]
  rw [readEscape?, readCodePoint?, unit]
  dsimp only
  rw [if_pos (.inl (by omega)), Char.ofNat_toNat]

/-- An escaped character is read as itself. -/
theorem readChars?_escapeChar (c : Char) (rest : List Char) :
    readChars? (escapeChar c ++ rest) = (readChars? rest).map (prepend c) := by
  have named {n : ℕ} (same : c.toNat = n) (d : Char) (code : d.toNat = n) : c = d :=
    Char.toNat_inj.1 (same.trans code.symm)
  -- One case for each way in which a character is written, in the order in which they are tried.
  unfold escapeChar
  split
  · next quote => exact readChars?_escape (by rw [quote]; rfl)
  split
  · next backslash => exact readChars?_escape (by rw [backslash]; rfl)
  split
  · next code => exact readChars?_escape (by rw [named code '\x08' rfl]; rfl)
  split
  · next code => exact readChars?_escape (by rw [named code '\t' rfl]; rfl)
  split
  · next code => exact readChars?_escape (by rw [named code '\n' rfl]; rfl)
  split
  · next code => exact readChars?_escape (by rw [named code '\x0c' rfl]; rfl)
  split
  · next code => exact readChars?_escape (by rw [named code '\r' rfl]; rfl)
  split
  · next low => exact readChars?_escape (readEscape?_control low)
  · next notQuote notBackslash _ _ _ _ _ high =>
      exact readChars?_plain notQuote notBackslash (Nat.not_lt.1 high)

theorem readChars?_escaped (s rest : List Char) :
    readChars? (s.flatMap escapeChar ++ '"' :: rest) = some (s, rest) := by
  induction s with
  | nil => rw [List.flatMap_nil, List.nil_append, readChars?]
  | cons c s ih =>
      rw [List.flatMap_cons, List.append_assoc, readChars?_escapeChar, ih]
      rfl

theorem writeString_append (s rest : List Char) :
    writeString s ++ rest = '"' :: (s.flatMap escapeChar ++ '"' :: rest) := by
  simp [writeString]

/-- A written literal is read back, whatever follows it. -/
theorem readString?_writeString (s rest : List Char) :
    readString? (writeString s ++ rest) = some (s, rest) := by
  rw [writeString_append, readString?, readChars?_escaped]

/-- A reader reads back what a writer writes, and that starts with a quote. -/
structure Inverts (item : ItemReader α) (write : α → List Char) : Prop where
  reads : ∀ a rest, ∃ shorter, item (write a ++ rest) = some (a, ⟨rest, shorter⟩)
  quoted : ∀ a, ∃ inside, write a = '"' :: inside

theorem skipSpace_quote (s : List Char) : skipSpace ('"' :: s) = '"' :: s :=
  rfl

theorem inverts_readItem? : Inverts readItem? writeString where
  reads s rest := by
    have found := readString?_writeString s rest
    refine ⟨length_lt_of_readString?_eq_some found, ?_⟩
    unfold readItem?
    split
    · next none => cases found.symm.trans none
    · next same =>
        cases found.symm.trans same
        rfl
  quoted s := ⟨_, rfl⟩

/-- How a member of an object is written. -/
def writeMember (member : List Char × List Char) : List Char :=
  writeString member.1 ++ ':' :: writeString member.2

theorem exists_readMember? {name value behind afterColon : List Char}
    (nameFound : readString? s = some (name, behind)) (colon : skipSpace behind = ':' :: afterColon)
    (valueFound : readString? (skipSpace afterColon) = some (value, rest)) :
    ∃ shorter, readMember? s = some ((name, value), ⟨rest, shorter⟩) := by
  have shorter : rest.length < s.length := by
    have nameShorter := length_lt_of_readString?_eq_some nameFound
    have valueShorter := length_lt_of_readString?_eq_some valueFound
    have skipped := length_skipSpace_le behind
    have skippedToo := length_skipSpace_le afterColon
    rw [colon, List.length_cons] at skipped
    omega
  refine ⟨shorter, ?_⟩
  unfold readMember?
  split
  · next none => cases nameFound.symm.trans none
  · next found =>
      cases nameFound.symm.trans found
      split
      · next same =>
          cases colon.symm.trans same
          split
          · next none => cases valueFound.symm.trans none
          · next foundToo =>
              cases valueFound.symm.trans foundToo
              rfl
      · next other => exact absurd colon (other afterColon)

theorem inverts_readMember? : Inverts readMember? writeMember where
  reads member rest := by
    obtain ⟨name, value⟩ := member
    have written : writeMember (name, value) ++ rest =
        writeString name ++ ':' :: (writeString value ++ rest) := by
      simp [writeMember]
    have valueFound : readString? (skipSpace (writeString value ++ rest)) = some (value, rest) := by
      rw [writeString_append, skipSpace_quote, ← writeString_append, readString?_writeString]
    rw [written]
    exact exists_readMember? (readString?_writeString name _) rfl valueFound
  quoted member := ⟨_, rfl⟩

section Collections

variable {item : ItemReader α} {write : α → List Char}

/-- One item that is read, and the closing bracket or a comma and more items behind it. -/
theorem readItems?_closing {a : α} {shorter : (closing :: rest).length < s.length}
    (found : item s = some (a, ⟨closing :: rest, shorter⟩)) (notSpace : isSpace closing = false)
    (notComma : closing ≠ ',') : readItems? item closing s = some ([a], rest) := by
  have next : skipSpace (closing :: rest) = closing :: rest := by
    simp [skipSpace, notSpace]
  rw [readItems?, found]
  dsimp only
  split
  · next none => cases next.symm.trans none
  · next same =>
      cases next.symm.trans same
      rw [if_neg notComma, if_pos rfl]

theorem readItems?_comma {a : α} {shorter : (',' :: rest).length < s.length}
    (found : item s = some (a, ⟨',' :: rest, shorter⟩)) :
    readItems? item closing s =
      (readItems? item closing (skipSpace rest)).map fun (as, after) => (a :: as, after) := by
  rw [readItems?, found]
  dsimp only
  split
  · next none => cases none
  · next same =>
      cases same
      rw [if_pos rfl]

theorem exists_intercalate_eq (write : α → List Char) (a : α) (as : List α) (rest : List Char) :
    ∃ behind, List.intercalate [','] ((a :: as).map write) ++ rest = write a ++ behind := by
  cases as with
  | nil => exact ⟨rest, by rw [List.map_singleton, List.intercalate_singleton]⟩
  | cons b as =>
      exact ⟨_, by
        simp only [List.map_cons, List.intercalate_cons_cons, List.append_assoc]; rfl⟩

variable (inverts : Inverts item write)

include inverts

theorem Inverts.skipSpace (a : α) (rest : List Char) :
    skipSpace (write a ++ rest) = write a ++ rest := by
  obtain ⟨inside, quoted⟩ := inverts.quoted a
  rw [quoted]
  rfl

/-- Written items are read up to the closing bracket. -/
theorem readItems?_intercalate (notSpace : isSpace closing = false) (notComma : closing ≠ ',')
    (a : α) (as : List α) (rest : List Char) :
    readItems? item closing (List.intercalate [','] ((a :: as).map write) ++ closing :: rest) =
      some (a :: as, rest) := by
  induction as generalizing a with
  | nil =>
      obtain ⟨shorter, found⟩ := inverts.reads a (closing :: rest)
      rw [List.map_singleton, List.intercalate_singleton]
      exact readItems?_closing found notSpace notComma
  | cons b as ih =>
      have split : List.intercalate [','] ((a :: b :: as).map write) ++ closing :: rest =
          write a ++ ',' :: (List.intercalate [','] ((b :: as).map write) ++ closing :: rest) := by
        simp only [List.map_cons, List.intercalate_cons_cons, List.append_assoc, List.cons_append,
          List.nil_append]
      obtain ⟨behind, same⟩ := exists_intercalate_eq write b as (closing :: rest)
      obtain ⟨shorter, found⟩ := inverts.reads a
        (',' :: (List.intercalate [','] ((b :: as).map write) ++ closing :: rest))
      rw [split, readItems?_comma found, same, inverts.skipSpace, ← same, ih]
      rfl

/-- A written collection is read back. -/
theorem readCollection?_writeCollection {opening : Char} (openSpace : isSpace opening = false)
    (notSpace : isSpace closing = false) (notComma : closing ≠ ',') (notQuote : closing ≠ '"')
    (items : List α) :
    readCollection? item opening closing (writeCollection opening closing (items.map write)) =
      some items := by
  have start : skipSpace (opening :: List.intercalate [','] (items.map write) ++ [closing]) =
      opening :: (List.intercalate [','] (items.map write) ++ [closing]) := by
    simp [skipSpace, openSpace]
  unfold writeCollection
  simp only [readCollection?, start, ne_eq, not_true_eq_false, if_false]
  cases items with
  | nil => simp [skipSpace, notSpace]
  | cons a as =>
      have read := readItems?_intercalate inverts notSpace notComma a as []
      obtain ⟨behind, same⟩ : ∃ behind,
          List.intercalate [','] ((a :: as).map write) ++ [closing] = write a ++ behind :=
        exists_intercalate_eq write a as _
      obtain ⟨inside, quoted⟩ := inverts.quoted a
      rw [same, quoted, List.cons_append] at read ⊢
      rw [skipSpace_quote]
      dsimp only
      rw [if_neg notQuote.symm, read]
      rfl

end Collections

theorem readArray?_writeArray (items : List (List Char)) :
    readArray? (writeArray items) = some items :=
  readCollection?_writeCollection inverts_readItem? rfl rfl (by decide) (by decide) items

theorem readObject?_writeObject (members : List (List Char × List Char)) :
    readObject? (writeObject members) = some members :=
  readCollection?_writeCollection inverts_readMember? rfl rfl (by decide) (by decide) members


end AuctionBudget.Json
