import AuctionBudget.Proofs.Rule.Reference
import AuctionBudget.Rule.Path

/-! # Putting keys into brackets twice

A bracket ends the word before it, so what one root puts into a text makes no path of any root that
is a word. All paths of a root are gone once it was its turn, and stay so while it is the turn of
others: a text with its keys in brackets stays as it is.
-/

namespace AuctionBudget.Rule

open Text

variable {name other before before' s t u w key behind rest : List Char} {c d : Char}
  {names : List (List Char)}

/-- A text starts with a path, at the border of a word: a root, a key and what is behind them, with
    dots between. -/
structure PathAt (name before s key behind : List Char) : Prop where
  nonempty : key ≠ []
  isKey : AllIn isKeyChar key
  split : s = name ++ '.' :: (key ++ '.' :: behind)
  border : isWordBorder before s = true

theorem PathAt.keyWord (path : PathAt name before s key behind) : AllIn isWordChar key :=
  fun c member => isWordChar_of_isAlphanum (path.isKey c member)

/-- Put the keys behind a root into brackets, in a text that continues `before`, which is given
    backwards. -/
def indexName (name before s : List Char) : List Char :=
  replaceReferences (name ++ ['.']) isKeyChar (fun _ key => name ++ '[' :: key ++ [']', '.'])
    before s

theorem referenceAt?_eq_some_path :
    referenceAt? (name ++ ['.']) isKeyChar s = some (key, behind) ↔
      key ≠ [] ∧ AllIn isKeyChar key ∧ s = name ++ '.' :: (key ++ '.' :: behind) := by
  rw [referenceAt?_eq_some_iff (by decide)]
  simp

/-- What becomes of a text, from left to right. -/
inductive Indexes (name : List Char) : (before s t : List Char) → Prop where
  | nil {before : List Char} : Indexes name before [] []
  | path {before s key behind t : List Char} : PathAt name before s key behind →
      Indexes name ('.' :: (name ++ '.' :: key).reverse ++ before) behind t →
      Indexes name before s (name ++ '[' :: (key ++ ']' :: '.' :: t))
  | later {before : List Char} {c : Char} {rest t : List Char} :
      (∀ key behind, ¬ PathAt name before (c :: rest) key behind) →
      Indexes name (c :: before) rest t → Indexes name before (c :: rest) (c :: t)

theorem indexes_indexName (name before s : List Char) :
    Indexes name before s (indexName name before s) := by
  unfold indexName
  fun_induction replaceReferences (name ++ ['.']) isKeyChar
    (fun _ key => name ++ '[' :: key ++ [']', '.']) before s with
  | case1 => exact .nil
  | case2 before c rest border key behind found ih =>
      obtain ⟨nonempty, isKey, split⟩ := referenceAt?_eq_some_path.1 found
      have parts : (name ++ ['.'] ++ key ++ ['.']).reverse ++ before =
          '.' :: (name ++ '.' :: key).reverse ++ before := by
        simp
      rw [parts] at ih
      have path := Indexes.path ⟨nonempty, isKey, split, border⟩ ih
      simpa using path
  | case3 before c rest border none ih =>
      refine .later ?_ ih
      rintro key behind ⟨nonempty, isKey, split, -⟩
      cases none.symm.trans (referenceAt?_eq_some_path.2 ⟨nonempty, isKey, split⟩)
  | case4 before c rest inside ih =>
      refine .later ?_ ih
      intro key behind path
      exact inside path.border

/-- No path starts in a text, wherever one looks. -/
def Pathless (name : List Char) : (before s : List Char) → Prop
  | _, [] => True
  | before, c :: rest =>
      (∀ key behind, ¬ PathAt name before (c :: rest) key behind) ∧
        Pathless name (c :: before) rest

/-- A text without paths stays as it is. -/
theorem Indexes.eq_of_pathless (indexes : Indexes name before s t)
    (pathless : Pathless name before s) : t = s := by
  induction indexes with
  | nil => rfl
  | @path before s key behind t path _ _ =>
      cases s with
      | nil => simpa using path.split
      | cons c rest => exact absurd path (pathless.1 key behind)
  | later _ _ ih => rw [ih pathless.2]

theorem Pathless.onward (pathless : Pathless name before (u ++ s)) :
    Pathless name (u.reverse ++ before) s := by
  induction u generalizing before with
  | nil => exact pathless
  | cons c u ih => simpa using ih pathless.2

/-- A root that is a word. -/
structure IsRoot (name : List Char) : Prop where
  nonempty : name ≠ []
  word : AllIn isWordChar name

namespace IsRoot

variable (isRoot : IsRoot name)

include isRoot

/-- A path starts a word. -/
theorem path_start (path : PathAt name before s key behind) : startsWord s = true := by
  rw [path.split]
  exact startsWord_append isRoot.nonempty isRoot.word

theorem path_outside (path : PathAt name before s key behind) : startsWord before = false :=
  (isWordBorder_iff (isRoot.path_start path)).1 path.border

theorem pathless_separator (separator : isWordChar d = false) :
    Pathless name before (d :: s) ↔ Pathless name (d :: before) s := by
  refine and_iff_right fun key behind path => ?_
  have start : isWordChar d = true := isRoot.path_start path
  rw [start] at separator
  cases separator

/-- No path starts with a word that ends at something other than a dot. -/
theorem pathless_word (word : AllIn isWordChar w) (separator : isWordChar d = false)
    (noDot : d ≠ '.') :
    Pathless name before (w ++ d :: s) ↔ Pathless name (d :: w.reverse ++ before) s := by
  induction w generalizing before with
  | nil => exact isRoot.pathless_separator separator
  | cons c w ih =>
      have none : ∀ key behind, ¬ PathAt name before (c :: (w ++ d :: s)) key behind := by
        intro key behind path
        obtain ⟨-, same⟩ := run_unique word isRoot.word (startsOutside_cons.2 separator)
          (startsOutside_cons.2 (by decide)) path.split
        exact noDot (List.cons.inj same).1
      have later : Pathless name (c :: before) (w ++ d :: s) ↔
          Pathless name (d :: w.reverse ++ c :: before) s := ih (List.forall_mem_cons.1 word).2
      rw [List.cons_append, Pathless, and_iff_right none, later]
      simp

end IsRoot

theorem IsRoot.bracket_ne_dot (isRoot : IsRoot name) (word : AllIn isWordChar w) :
    name ++ '[' :: s ≠ w ++ '.' :: t := by
  intro same
  obtain ⟨-, marks⟩ := run_unique isRoot.word word (startsOutside_cons.2 (by decide))
    (startsOutside_cons.2 (by decide)) same
  cases marks

/-- A word in front of a dot was there before. -/
theorem Indexes.word (isRoot : IsRoot name) (indexes : Indexes name before s t)
    (word : AllIn isWordChar w) (split : t = w ++ '.' :: u) :
    ∃ behind, s = w ++ '.' :: behind ∧ Indexes name ('.' :: w.reverse ++ before) behind u := by
  induction w generalizing before s t with
  | nil =>
      cases indexes with
      | nil => cases split
      | path => exact absurd split (isRoot.bracket_ne_dot word)
      | later _ onward =>
          cases split
          exact ⟨_, rfl, onward⟩
  | cons d w ih =>
      cases indexes with
      | nil => cases split
      | path => exact absurd split (isRoot.bracket_ne_dot word)
      | later _ onward =>
          obtain ⟨rfl, later⟩ := List.cons.inj split
          obtain ⟨behind, rfl, further⟩ := ih onward (List.forall_mem_cons.1 word).2 later
          exact ⟨behind, rfl, by simpa using further⟩

/-- A path in front of an indexed text was there before. -/
theorem Indexes.path_source (isRoot : IsRoot name) (isOther : IsRoot other)
    (indexes : Indexes name before s t) (path : PathAt other before' t key behind)
    (same : startsWord before = startsWord before') :
    ∃ behind', PathAt other before s key behind' := by
  obtain ⟨rest, split, onward⟩ := indexes.word isRoot isOther.word path.split
  obtain ⟨behind', rfl, -⟩ := onward.word isRoot path.keyWord rfl
  have start : startsWord s = true := by
    rw [split]
    exact startsWord_append isOther.nonempty isOther.word
  exact ⟨behind', path.nonempty, path.isKey, split,
    (isWordBorder_iff start).2 (same.trans (isOther.path_outside path))⟩

/-- A root removes all its paths and makes none of another root. -/
theorem Indexes.pathless (isRoot : IsRoot name) (isOther : IsRoot other)
    (indexes : Indexes name before s t) (known : name = other ∨ Pathless other before s)
    (same : startsWord before = startsWord before') : Pathless other before' t := by
  induction indexes generalizing before' with
  | nil => trivial
  | @path before s key behind t path _ ih =>
      -- Both brackets end a word without a dot, so only what stands behind them matters.
      rw [isOther.pathless_word isRoot.word (by decide) (by decide),
        isOther.pathless_word path.keyWord (by decide) (by decide),
        isOther.pathless_separator (by decide)]
      refine ih (known.imp_right fun pathless => ?_) rfl
      have parts : s = name ++ '.' :: key ++ ['.'] ++ behind := by simp [path.split]
      rw [parts] at pathless
      simpa using pathless.onward
  | @later before c rest t none onward ih =>
      refine ⟨fun key behind path => ?_, ih (known.imp_right (·.2)) rfl⟩
      -- A path that starts here was there before, where nothing was found or nothing was to find.
      have indexes : Indexes name before (c :: rest) (c :: t) := .later none onward
      obtain ⟨behind', source⟩ := indexes.path_source isRoot isOther path same
      rcases known with rfl | pathless
      · exact none _ _ source
      · exact pathless.1 _ _ source

/-- The roots that are looked for, one after another. -/
def rootNames (roots : List String) : List (List Char) :=
  ((if roots.isEmpty then [tierRoot] else roots).map fun root => trim root.toList).filter (· ≠ [])

def indexNames (names : List (List Char)) (s : List Char) : List Char :=
  names.foldl (fun s name => indexName name [] s) s

theorem toList_indexPaths (roots : List String) (source : String) :
    (indexPaths roots source).toList = indexNames (rootNames roots) source.toList := by
  simp only [indexPaths, String.toList_ofList, indexNames, rootNames, List.foldl_filter,
    List.foldl_map]
  congr 1
  funext s root
  simp [indexRoot, indexName]

theorem isRoot_rootNames {roots : List String}
    (words : ∀ root ∈ roots, AllIn isWordChar (trim root.toList)) :
    ∀ name ∈ rootNames roots, IsRoot name := by
  have all : ∀ root ∈ (if roots.isEmpty then [tierRoot] else roots),
      AllIn isWordChar (trim root.toList) := by
    split
    · exact List.forall_mem_singleton.2 (by decide)
    · exact words
  intro name member
  obtain ⟨listed, nonempty⟩ := List.mem_filter.1 member
  obtain ⟨root, inRoots, rfl⟩ := List.mem_map.1 listed
  exact ⟨by simpa using nonempty, all root inRoots⟩

theorem pathless_indexNames (isRoot : ∀ name ∈ names, IsRoot name) (isOther : IsRoot other)
    (known : other ∈ names ∨ Pathless other [] s) : Pathless other [] (indexNames names s) := by
  induction names generalizing s with
  | nil => exact known.resolve_left List.not_mem_nil
  | cons name later ih =>
      obtain ⟨first, others⟩ := List.forall_mem_cons.1 isRoot
      refine ih others ?_
      have indexes := indexes_indexName name [] s
      rcases known with member | pathless
      · rcases List.mem_cons.1 member with rfl | after
        · exact .inr (indexes.pathless first isOther (.inl rfl) rfl)
        · exact .inl after
      · exact .inr (indexes.pathless first isOther (.inr pathless) rfl)

theorem indexNames_eq_self (pathless : ∀ name ∈ names, Pathless name [] s) :
    indexNames names s = s := by
  induction names with
  | nil => rfl
  | cons name later ih =>
      obtain ⟨first, others⟩ := List.forall_mem_cons.1 pathless
      have stays : indexName name [] s = s := (indexes_indexName name [] s).eq_of_pathless first
      rw [indexNames, List.foldl_cons, stays]
      exact ih others

/-- Where every root is a word, no path of a root is left. -/
theorem pathless_indexPaths {roots : List String} (source : String)
    (words : ∀ root ∈ roots, AllIn isWordChar (trim root.toList)) :
    ∀ name ∈ rootNames roots, Pathless name [] (indexPaths roots source).toList := by
  have isRoot := isRoot_rootNames words
  intro name member
  rw [toList_indexPaths]
  exact pathless_indexNames isRoot (isRoot name member) (.inl member)

/-- Where every root is a word, putting keys into brackets twice is putting them there once. -/
theorem indexPaths_again (roots : List String) (source : String)
    (words : ∀ root ∈ roots, AllIn isWordChar (trim root.toList)) :
    indexPaths roots (indexPaths roots source) = indexPaths roots source := by
  rw [← String.toList_inj, toList_indexPaths roots (indexPaths roots source)]
  exact indexNames_eq_self (pathless_indexPaths source words)

theorem indexPaths_again_chained :
    indexPaths ["R", " S ", "", "R"] "R.R.S.a.b" = "R[R].S[a].b" ∧
      indexPaths ["R", " S ", "", "R"] (indexPaths ["R", " S ", "", "R"] "R.R.S.a.b") =
        indexPaths ["R", " S ", "", "R"] "R.R.S.a.b" :=
  ⟨by decide +kernel, indexPaths_again _ _ (by decide +kernel)⟩

/-- A root that is no word may start a path at a bracket that was put into the text. -/
example : indexPaths ["R", "]"] "R.x.y.z." = "R[x][y].z." ∧
    indexPaths ["R", "]"] "R[x][y].z." = "R[x][y][z]." := by
  decide +kernel

end AuctionBudget.Rule
