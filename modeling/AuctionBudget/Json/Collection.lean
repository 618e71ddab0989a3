import AuctionBudget.Json.Literal

/-! # Objects and arrays of strings in JSON

The two JSON texts that are stored with a rule: an object from strings to strings and an array of
strings. They are written without blanks. Reading allows blanks around every part, no comma behind
the last item, and nothing but blanks behind the closing bracket.
-/

namespace AuctionBudget.Json

/-- The blanks that JSON allows between its parts. -/
def isSpace (c : Char) : Bool :=
  c == ' ' || c == '\t' || c == '\n' || c == '\r'

def skipSpace (s : List Char) : List Char :=
  s.dropWhile isSpace

theorem length_skipSpace_le (s : List Char) : (skipSpace s).length ≤ s.length :=
  (List.dropWhile_sublist isSpace).length_le

/-- A reader of one item returns it with what follows, which is shorter. -/
abbrev ItemReader (α : Type) :=
  (s : List Char) → Option (α × { rest : List Char // rest.length < s.length })

def readItem? : ItemReader (List Char) := fun s =>
  match found : readString? s with
  | none => none
  | some (cs, rest) => some (cs, ⟨rest, length_lt_of_readString?_eq_some found⟩)

/-- A string, a colon and another string. -/
def readMember? : ItemReader (List Char × List Char) := fun s =>
  match keyFound : readString? s with
  | none => none
  | some (key, behind) =>
      match colon : skipSpace behind with
      | ':' :: afterColon =>
          match valueFound : readString? (skipSpace afterColon) with
          | none => none
          | some (value, rest) => some ((key, value), ⟨rest, by
              have := length_lt_of_readString?_eq_some keyFound
              have := length_lt_of_readString?_eq_some valueFound
              have := length_skipSpace_le behind
              have := length_skipSpace_le afterColon
              rw [colon] at *
              simp only [List.length_cons] at *
              omega⟩)
      | _ => none

/-- Items divided by commas up to the closing bracket, and what follows it. -/
def readItems? (item : ItemReader α) (closing : Char) (s : List Char) :
    Option (List α × List Char) :=
  match item s with
  | none => none
  | some (a, rest) =>
      match _next : skipSpace rest.val with
      | [] => none
      | c :: more =>
          if c = ',' then
            (readItems? item closing (skipSpace more)).map fun (as, after) => (a :: as, after)
          else if c = closing then some ([a], more)
          else none
termination_by s.length
decreasing_by
  have := rest.property
  have := length_skipSpace_le rest.val
  have := length_skipSpace_le more
  rw [_next] at *
  simp only [List.length_cons] at *
  omega

def readCollection? (item : ItemReader α) (opening closing : Char) (s : List Char) :
    Option (List α) :=
  match skipSpace s with
  | [] => none
  | c :: inside =>
      if c ≠ opening then none
      else
        let items :=
          match skipSpace inside with
          | [] => none
          | d :: more =>
              if d = closing then some ([], more) else readItems? item closing (d :: more)
        match items with
        | some (as, rest) => if (skipSpace rest).isEmpty then some as else none
        | none => none

/-- The members of an object of strings, in their order. -/
def readObject? (s : List Char) : Option (List (List Char × List Char)) :=
  readCollection? readMember? '\x7b' '\x7d' s

def readArray? (s : List Char) : Option (List (List Char)) :=
  readCollection? readItem? '[' ']' s

/-- Items between brackets, divided by commas. -/
def writeCollection (opening closing : Char) (items : List (List Char)) : List Char :=
  opening :: List.intercalate [','] items ++ [closing]

def writeObject (members : List (List Char × List Char)) : List Char :=
  writeCollection '\x7b' '\x7d' <|
    members.map fun (key, value) => writeString key ++ ':' :: writeString value

def writeArray (items : List (List Char)) : List Char :=
  writeCollection '[' ']' (items.map writeString)

end AuctionBudget.Json
