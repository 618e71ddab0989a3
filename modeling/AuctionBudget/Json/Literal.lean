import AuctionBudget.Text.Hex

/-! # String literals of JSON

Writing a literal escapes the quote, the backslash and the control characters, and nothing else.
Reading one accepts every escape of JSON, surrogate pairs included, and refuses bare control
characters and lone surrogates. What was written reads back.
-/

namespace AuctionBudget.Json

/-- The lower-case hexadecimal digit of a number below sixteen. -/
def hexDigit (n : Nat) : Char := Nat.digitChar n

def escapeChar (c : Char) : List Char :=
  if c = '"' then ['\\', '"']
  else if c = '\\' then ['\\', '\\']
  else if c.toNat = 0x08 then ['\\', 'b']
  else if c.toNat = 0x09 then ['\\', 't']
  else if c.toNat = 0x0a then ['\\', 'n']
  else if c.toNat = 0x0c then ['\\', 'f']
  else if c.toNat = 0x0d then ['\\', 'r']
  else if c.toNat < 0x20 then
    ['\\', 'u', '0', '0', hexDigit (c.toNat / 16), hexDigit (c.toNat % 16)]
  else [c]

def writeString (s : List Char) : List Char :=
  '"' :: s.flatMap escapeChar ++ ['"']

/-- The number that four hexadecimal digits spell, and what follows them. -/
def readUnit? : List Char → Option (Nat × List Char)
  | a :: b :: c :: d :: rest => do
      return (← Text.ofHex? [a, b, c, d], rest)
  | _ => none

/-- The character of a code unit, which may be the first of a surrogate pair, and what follows. -/
def readCodePoint? (s : List Char) : Option (Char × List Char) :=
  match readUnit? s with
  | none => none
  | some (unit, rest) =>
      if unit < 0xd800 ∨ 0xdfff < unit then some (Char.ofNat unit, rest)
      else if 0xdbff < unit then none
      else
        match rest with
        | '\\' :: 'u' :: second =>
            match readUnit? second with
            | none => none
            | some (low, left) =>
                if 0xdc00 ≤ low ∧ low ≤ 0xdfff then
                  some (Char.ofNat (0x10000 + (unit - 0xd800) * 0x400 + (low - 0xdc00)), left)
                else none
        | _ => none

/-- The character that an escape stands for, given what follows the backslash. -/
def readEscape? : List Char → Option (Char × List Char)
  | '"' :: rest => some ('"', rest)
  | '\\' :: rest => some ('\\', rest)
  | '/' :: rest => some ('/', rest)
  | 'b' :: rest => some ('\x08', rest)
  | 'f' :: rest => some ('\x0c', rest)
  | 'n' :: rest => some ('\n', rest)
  | 'r' :: rest => some ('\r', rest)
  | 't' :: rest => some ('\t', rest)
  | 'u' :: rest => readCodePoint? rest
  | _ => none

theorem length_lt_of_readUnit?_eq_some {s rest : List Char} {unit : Nat}
    (h : readUnit? s = some (unit, rest)) : rest.length < s.length := by
  unfold readUnit? at h
  split at h
  · simp only [Option.bind_eq_bind, Option.bind_eq_some_iff, Option.pure_def, Option.some.injEq,
      Prod.mk.injEq] at h
    obtain ⟨-, -, -, rfl⟩ := h
    simp only [List.length_cons]
    omega
  · simp at h

theorem length_lt_of_readCodePoint?_eq_some {s rest : List Char} {c : Char}
    (h : readCodePoint? s = some (c, rest)) : rest.length < s.length := by
  unfold readCodePoint? at h
  split at h
  · simp at h
  · next unit behind found =>
      have first := length_lt_of_readUnit?_eq_some found
      split at h
      · simp only [Option.some.injEq, Prod.mk.injEq] at h
        exact h.2 ▸ first
      · split at h
        · simp at h
        · split at h
          · next second =>
              split at h
              · simp at h
              · next low left lowFound =>
                  have last := length_lt_of_readUnit?_eq_some lowFound
                  split at h
                  · simp only [Option.some.injEq, Prod.mk.injEq] at h
                    rw [← h.2]
                    simp only [List.length_cons] at first
                    omega
                  · simp at h
          · simp at h

/-- An escape is not empty. -/
theorem length_lt_of_readEscape?_eq_some {s rest : List Char} {c : Char}
    (h : readEscape? s = some (c, rest)) : rest.length < s.length := by
  unfold readEscape? at h
  split at h
  case h_9 left =>
    have := length_lt_of_readCodePoint?_eq_some h
    simp only [List.length_cons]
    omega
  all_goals simp at h
  all_goals simp [← h.2]

/-- The characters of a literal up to its closing quote, and what follows it. -/
def readChars? (s : List Char) : Option (List Char × List Char) :=
  match s with
  | [] => none
  | '"' :: rest => some ([], rest)
  | '\\' :: rest =>
      match _escaped : readEscape? rest with
      | none => none
      | some (c, left) => (readChars? left).map fun (cs, after) => (c :: cs, after)
  | c :: rest =>
      if c.toNat < 0x20 then none
      else (readChars? rest).map fun (cs, after) => (c :: cs, after)
termination_by s.length
decreasing_by
  · have := length_lt_of_readEscape?_eq_some _escaped
    simp only [List.length_cons]
    omega
  · simp

/-- The text of the literal at the start, and what follows it. -/
def readString? : List Char → Option (List Char × List Char)
  | '"' :: rest => readChars? rest
  | _ => none

/-- What follows the closing quote is shorter. -/
theorem length_lt_of_readChars?_eq_some {s cs rest : List Char}
    (h : readChars? s = some (cs, rest)) : rest.length < s.length := by
  fun_induction readChars? s generalizing cs with
  | case1 => simp at h
  | case2 left =>
      simp only [Option.some.injEq, Prod.mk.injEq] at h
      simp [h.2]
  | case3 => simp at h
  | case4 behind c left escaped ih =>
      simp only [Option.map_eq_some_iff, Prod.mk.injEq, Prod.exists] at h
      obtain ⟨tail, after, found, -, rfl⟩ := h
      have := ih found
      have := length_lt_of_readEscape?_eq_some escaped
      simp only [List.length_cons]
      omega
  | case5 => simp at h
  | case6 c behind _ _ _ ih =>
      simp only [Option.map_eq_some_iff, Prod.mk.injEq, Prod.exists] at h
      obtain ⟨tail, after, found, -, rfl⟩ := h
      have := ih found
      simp only [List.length_cons]
      omega

theorem length_lt_of_readString?_eq_some {s cs rest : List Char}
    (h : readString? s = some (cs, rest)) : rest.length < s.length := by
  unfold readString? at h
  split at h
  · have := length_lt_of_readChars?_eq_some h
    simp only [List.length_cons]
    omega
  · simp at h

end AuctionBudget.Json
