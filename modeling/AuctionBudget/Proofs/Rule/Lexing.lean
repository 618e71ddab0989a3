import AuctionBudget.Proofs.Rule.Writing

/-! # The tokens of a formula

With every key in brackets, the tokens of a text that writes a formula spell the expression of the
formula. Numbers and names end at separators, so the tokens of operands do not depend on what stands
around them.
-/

namespace AuctionBudget.Rule

open Text AuctionBudget.Expr

variable {s t rest name inside : List Char} {us ts : List Token} {c : Char} {token : Token}
  {f : Formula} {level : Level}

theorem tokens_nil : tokens [] = .ok [] := by
  rw [tokens.eq_def]

/-- The first character decides which token a text starts with. -/
theorem tokens_cons (c : Char) (rest : List Char) : tokens (c :: rest) =
    if isBlank c then tokens rest
    else if isAsciiDigit c then
      let split := takeFraction (rest.dropWhile isAsciiDigit)
      (tokens split.2).map
        (.number (Number.ofDigits (c :: rest.takeWhile isAsciiDigit) split.1) :: ·)
    else if startsName c then
      (tokens (rest.dropWhile continuesName)).map
        (.ident (String.ofList (c :: rest.takeWhile continuesName)) :: ·)
    else if c = '[' then
      match cutAt ']' rest with
      | none => .error .unclosedKey
      | some (inside, after) =>
          if (keyName inside).isEmpty then .error .emptyKey
          else (tokens after).map (.key (String.ofList (keyName inside)) :: ·)
    else match signToken? c with
      | none => .error (.unexpectedChar c)
      | some token => (tokens rest).map (token :: ·) := by
  rw [tokens.eq_def]
  dsimp only
  congr 4
  cases cutAt ']' rest <;> rfl

theorem tokens_gap (gap : Gap s) : tokens (s ++ rest) = tokens rest := by
  induction s with
  | nil => rfl
  | cons c s ih =>
      rw [List.cons_append, tokens_cons, if_pos (gap c List.mem_cons_self),
        ih fun d member => gap d (List.mem_cons_of_mem _ member)]

theorem tokens_sign (sign : signToken? c = some token) (later : tokens rest = .ok us) :
    tokens (c :: rest) = .ok (token :: us) := by
  have kind : c ∈ ['.', '+', '-', '*', '/', '(', ')'] := by
    unfold signToken? at sign
    split at sign <;> simp at sign ⊢
  have apart : ∀ c ∈ ['.', '+', '-', '*', '/', '(', ')'], isBlank c = false ∧
      isAsciiDigit c = false ∧ startsName c = false ∧ c ≠ '[' := by decide
  obtain ⟨blank, digit, letter, bracket⟩ := apart c kind
  rw [tokens_cons]
  simp [blank, digit, letter, bracket, sign, later, Except.map]

theorem tokens_dot (later : tokens rest = .ok us) : tokens ('.' :: rest) = .ok (.dot :: us) :=
  tokens_sign rfl later

/-- Digits that no fraction follows are a number. -/
theorem tokens_whole (isDigits : IsDigits s) (outside : StartsOutside isAsciiDigit rest)
    (noDot : rest.head? ≠ some '.') (later : tokens rest = .ok us) :
    tokens (s ++ rest) = .ok (.number (Number.ofDigits s []) :: us) := by
  have noFraction : takeFraction rest = ([], rest) := by
    unfold takeFraction
    split
    · exact absurd rfl noDot
    · rfl
  cases s with
  | nil => exact absurd rfl isDigits.nonempty
  | cons c s =>
      have digit : isAsciiDigit c = true := isDigits.digits c List.mem_cons_self
      have more : AllIn isAsciiDigit s :=
        fun d member => isDigits.digits d (List.mem_cons_of_mem _ member)
      have visible : isBlank c = false :=
        isBlank_of_isWordChar (isDigits.word c List.mem_cons_self)
      rw [List.cons_append, tokens_cons]
      simp [visible, digit, takeWhile_run more outside, dropWhile_run more outside, noFraction,
        later, Except.map]

/-- Digits with a point between are one number. -/
theorem tokens_decimal (whole : IsDigits s) (fraction : IsDigits t)
    (outside : StartsOutside isAsciiDigit rest) (later : tokens rest = .ok us) :
    tokens (s ++ '.' :: t ++ rest) = .ok (.number (Number.ofDigits s t) :: us) := by
  have taken : takeFraction ('.' :: (t ++ rest)) = (t, rest) := by
    cases t with
    | nil => exact absurd rfl fraction.nonempty
    | cons d t =>
        have digit : isAsciiDigit d = true := fraction.digits d List.mem_cons_self
        have more : AllIn isAsciiDigit t :=
          fun e member => fraction.digits e (List.mem_cons_of_mem _ member)
        simp [takeFraction, digit, takeWhile_run more outside, dropWhile_run more outside]
  cases s with
  | nil => exact absurd rfl whole.nonempty
  | cons c s =>
      have digit : isAsciiDigit c = true := whole.digits c List.mem_cons_self
      have more : AllIn isAsciiDigit s :=
        fun d member => whole.digits d (List.mem_cons_of_mem _ member)
      have visible : isBlank c = false := isBlank_of_isWordChar (whole.word c List.mem_cons_self)
      have point : StartsOutside isAsciiDigit ('.' :: (t ++ rest)) :=
        startsOutside_cons.2 (by decide)
      rw [List.append_assoc, List.cons_append, List.cons_append, tokens_cons]
      simp [visible, digit, takeWhile_run more point, dropWhile_run more point, taken, later,
        Except.map]

/-- A name ends where no character continues it. -/
theorem tokens_name (isName : IsName name) (outside : StartsOutside continuesName rest)
    (later : tokens rest = .ok us) :
    tokens (name ++ rest) = .ok (.ident (String.ofList name) :: us) := by
  cases name with
  | nil => exact absurd rfl isName.nonempty
  | cons c name =>
      have letter : c.isAlpha = true := isName.letters c List.mem_cons_self
      have ascii : c.toNat < 0x80 := toNat_lt_of_isAlphanum (by simp [Char.isAlphanum, letter])
      have starts : startsName c = true := by
        simp [startsName, isAlphabetic_of_ascii ascii, letter]
      have noDigit : isAsciiDigit c = false := isAsciiDigit_of_isAlpha letter
      have visible : isBlank c = false := isBlank_of_isWordChar (isName.word c List.mem_cons_self)
      have more : AllIn continuesName name := by
        intro d member
        have letter := isName.letters d (List.mem_cons_of_mem _ member)
        have ascii : d.toNat < 0x80 := toNat_lt_of_isAlphanum (by simp [Char.isAlphanum, letter])
        simp [continuesName, isAlphanumeric_of_ascii ascii, letter]
      rw [List.cons_append, tokens_cons]
      simp [visible, noDigit, starts, takeWhile_run more outside, dropWhile_run more outside,
        later, Except.map]

/-- The quotes around a key do not count. -/
theorem keyName_eq {quotes key : List Char} (isKey : IsKey key) (quoted : quotes ∈ quotings) :
    keyName (quotes ++ key ++ quotes) = key := by
  have quotesOnly : ∀ quotes ∈ quotings,
      AllIn isQuote quotes ∧ ∀ c ∈ quotes, isBlank c = false := by decide
  obtain ⟨allQuotes, visible⟩ := quotesOnly quotes quoted
  have noQuote {c : Char} (member : c ∈ key) : isQuote c = false := by
    by_contra quote
    rw [Bool.not_eq_false] at quote
    have word := isKey.word c member
    simp only [isQuote, Bool.or_eq_true, beq_iff_eq] at quote
    rcases quote with rfl | rfl <;> exact absurd word (by decide)
  have solid : Solid (quotes ++ key ++ quotes) := by
    refine .of_forall (by simp [isKey.nonempty]) fun c member => ?_
    simp only [List.mem_append] at member
    rcases member with (member | member) | member
    · exact visible c member
    · exact isBlank_of_isWordChar (isKey.word c member)
    · exact visible c member
  rw [keyName, trim_of_solid solid]
  exact stripBoth_around isKey.nonempty (fun c member => noQuote (List.mem_of_mem_head? member))
    (fun c member => noQuote (List.mem_reverse.1 (List.mem_of_mem_head? member)))
    allQuotes allQuotes

/-- Whatever stands in brackets is one token. -/
theorem tokens_brackets (absent : ']' ∉ inside) (nonempty : keyName inside ≠ [])
    (later : tokens rest = .ok us) :
    tokens ('[' :: (inside ++ ']' :: rest)) =
      .ok (.key (String.ofList (keyName inside)) :: us) := by
  have cut := cutAt_append (v := rest) absent
  have plain : isBlank '[' = false ∧ isAsciiDigit '[' = false ∧ startsName '[' = false := by decide
  obtain ⟨blank, digit, letter⟩ := plain
  rw [tokens_cons]
  simp only [blank, digit, letter, cut, Bool.false_eq_true, if_false, if_true]
  simp [nonempty, later, Except.map]

/-- A key in brackets is one token. -/
theorem tokens_key {quotes key : List Char} (isKey : IsKey key) (quoted : quotes ∈ quotings)
    (later : tokens rest = .ok us) :
    tokens ('[' :: (quotes ++ key ++ quotes ++ ']' :: rest)) =
      .ok (.key (String.ofList key) :: us) := by
  have noBracket : ']' ∉ quotes ++ key ++ quotes := by
    have quotesOnly : ∀ quotes ∈ quotings, ']' ∉ quotes := by decide
    have inKey : ']' ∉ key := fun member => absurd (isKey.word _ member) (by decide)
    simp [quotesOnly quotes quoted, inKey]
  have name := keyName_eq isKey quoted
  have token := tokens_brackets noBracket (by rw [name]; exact isKey.nonempty) later
  rwa [name] at token

theorem Loose.continuesName (loose : Loose s) : StartsOutside continuesName s := by
  intro c member
  have apart := separators_apart c (mem_of_isSeparator (loose c member))
  simp [Expr.continuesName, apart]

theorem Loose.isAsciiDigit (loose : Loose s) : StartsOutside isAsciiDigit s := by
  intro c member
  by_contra digit
  rw [Bool.not_eq_false] at digit
  have word := isWordChar_of_isWordDigit (isWordDigit_of_isAsciiDigit digit)
  rw [isWordChar_of_isSeparator (loose c member)] at word
  cases word

/-- A text is taken apart into the given tokens wherever a separator stands behind it. -/
def Lexes (s : List Char) (ts : List Token) : Prop :=
  ∀ ⦃rest us⦄, Loose rest → tokens rest = .ok us → tokens (s ++ rest) = .ok (ts ++ us)

theorem continuesName_dot : StartsOutside continuesName ('.' :: s) :=
  startsOutside_cons.2 (by decide)

theorem lexes_field {root field : List Char} (isRoot : IsName root) (isField : IsName field) :
    Lexes (root ++ '.' :: field)
      [.ident (String.ofList root), .dot, .ident (String.ofList field)] := by
  intro rest us loose later
  rw [List.append_assoc, List.cons_append]
  exact tokens_name isRoot continuesName_dot
    (tokens_dot (tokens_name isField (Loose.continuesName loose) later))

theorem lexes_lookup {quotes key field : List Char} (isKey : IsKey key)
    (quoted : quotes ∈ quotings) (isField : IsName field) :
    Lexes ((TierName.indexed quotes key).text ++ '.' :: field)
      [.ident tierRoot, .key (String.ofList key), .dot, .ident (String.ofList field)] := by
  intro rest us loose later
  have parts : (TierName.indexed quotes key).text ++ '.' :: field ++ rest =
      tierRoot.toList ++ '[' :: (quotes ++ key ++ quotes ++ ']' :: '.' :: (field ++ rest)) := by
    simp [TierName.text]
  have bracket : StartsOutside continuesName
      ('[' :: (quotes ++ key ++ quotes ++ ']' :: '.' :: (field ++ rest))) :=
    startsOutside_cons.2 (by decide)
  rw [parts]
  exact tokens_name isName_tierRoot bracket (tokens_key isKey quoted
    (tokens_dot (tokens_name isField (Loose.continuesName loose) later)))

/-- The tokens of an operand spell its expression. -/
theorem Operand.lexes (operand : Operand TierName.Bracketed s f) :
    ∃ ts, Spells .primary ts f.expr ∧ Lexes s ts := by
  cases operand with
  | whole digits =>
      exact ⟨_, .number, fun rest us loose later =>
        tokens_whole digits (Loose.isAsciiDigit loose) loose.noDot later⟩
  | decimal whole fraction =>
      exact ⟨_, .number, fun rest us loose later =>
        tokens_decimal whole fraction (Loose.isAsciiDigit loose) later⟩
  | @team field =>
      have lexed := lexes_field isName_team (isName_teamField field.known)
      rw [String.ofList_toList, String.ofList_toList] at lexed
      exact ⟨_, .field, lexed⟩
  | @season field =>
      have lexed := lexes_field isName_season (isName_seasonField field.known)
      rw [String.ofList_toList, String.ofList_toList] at lexed
      exact ⟨_, .field, lexed⟩
  | @tier _ field known =>
      cases known with
      | indexed isKey quoted =>
          have lexed := lexes_lookup isKey quoted (isName_tierField field.known)
          rw [String.ofList_toList] at lexed
          exact ⟨_, .lookup, lexed⟩

theorem Lexes.between {us : List Token} {w : List Char} (left : Lexes s ts) (right : Lexes t us)
    (gap : Gap w) {w' : List Char} (gap' : Gap w') (sign : signToken? c = some token)
    (separator : isSeparator c = true) :
    Lexes (s ++ (w ++ c :: w') ++ t) (ts ++ token :: us) := by
  intro rest vs loose later
  have looseGap : Loose ((w ++ c :: w') ++ (t ++ rest)) :=
    .of_gap (by simp) (.append (separators_of_gap gap) (.cons separator (separators_of_gap gap')))
  have behind : tokens ((w ++ c :: w') ++ (t ++ rest)) = .ok (token :: (us ++ vs)) := by
    rw [List.append_assoc, tokens_gap gap, List.cons_append]
    refine tokens_sign sign ?_
    rw [tokens_gap gap']
    exact right loose later
  rw [List.append_assoc, List.append_assoc, left looseGap behind]
  simp

theorem Lexes.signed {w : List Char} (lexes : Lexes s ts) (gap : Gap w)
    (sign : signToken? c = some token) : Lexes (c :: w ++ s) (token :: ts) := by
  intro rest us loose later
  rw [List.append_assoc, List.cons_append]
  refine tokens_sign sign ?_
  rw [tokens_gap gap]
  exact lexes loose later

theorem Lexes.parens {w w' : List Char} (lexes : Lexes s ts) (gap : Gap w) (gap' : Gap w') :
    Lexes ('(' :: w ++ s ++ (w' ++ [')'])) (.lparen :: ts ++ [.rparen]) := by
  intro rest us loose later
  have closing : tokens (w' ++ [')'] ++ rest) = .ok (.rparen :: us) := by
    rw [List.append_assoc, tokens_gap gap']
    exact tokens_sign rfl later
  have looseEnd : Loose (w' ++ [')'] ++ rest) :=
    .of_gap (by simp) (.append (separators_of_gap gap') (.cons (by decide) .nil))
  have opened := lexes.signed (c := '(') gap rfl looseEnd closing
  rw [List.append_assoc, opened]
  simp

/-- The tokens of a formula spell its expression. -/
theorem Writes.lexes (writes : Writes TierName.Bracketed level s f) :
    ∃ ts, Spells level ts f.expr ∧ Lexes s ts := by
  induction writes with
  | term _ ih =>
      obtain ⟨ts, spells, lexes⟩ := ih
      exact ⟨ts, .term spells, lexes⟩
  | @sum _ _ _ _ _ _ op _ isOp _ gap gap' ihLeft ihRight =>
      obtain ⟨ts, spellsLeft, left⟩ := ihLeft
      obtain ⟨us, spellsRight, right⟩ := ihRight
      rcases isOp with rfl | rfl
      · exact ⟨_, .sum spellsLeft rfl spellsRight, left.between right gap gap' rfl (by decide)⟩
      · exact ⟨_, .sum spellsLeft rfl spellsRight, left.between right gap gap' rfl (by decide)⟩
  | factor _ ih =>
      obtain ⟨ts, spells, lexes⟩ := ih
      exact ⟨ts, .factor spells, lexes⟩
  | product _ isOp _ gap gap' ihLeft ihRight =>
      obtain ⟨ts, spellsLeft, left⟩ := ihLeft
      obtain ⟨us, spellsRight, right⟩ := ihRight
      rcases isOp with rfl | rfl
      · exact ⟨_, .product spellsLeft rfl spellsRight, left.between right gap gap' rfl (by decide)⟩
      · exact ⟨_, .product spellsLeft rfl spellsRight, left.between right gap gap' rfl (by decide)⟩
  | minus _ gap ih =>
      obtain ⟨ts, spells, lexes⟩ := ih
      exact ⟨_, .minus spells, lexes.signed gap rfl⟩
  | plus _ gap ih =>
      obtain ⟨ts, spells, lexes⟩ := ih
      exact ⟨_, .plus spells, lexes.signed gap rfl⟩
  | primary _ ih =>
      obtain ⟨ts, spells, lexes⟩ := ih
      exact ⟨ts, .operand spells, lexes⟩
  | parens _ gap gap' ih =>
      obtain ⟨ts, spells, lexes⟩ := ih
      exact ⟨_, .parens spells, lexes.parens gap gap'⟩
  | operand operand =>
      obtain ⟨ts, spells, lexes⟩ := operand.lexes
      exact ⟨ts, spells, lexes⟩

end AuctionBudget.Rule
