import AuctionBudget.Proofs.Auction.Isolation
import AuctionBudget.Proofs.Auction.SavedRule
import AuctionBudget.Proofs.Timestamp

/-! # The stored rules as a map

Saves of rules make a map: under every identifier stands the rule of the last accepted save, with its
tag trimmed. Each list of rules shows what it selects from the map once, by season, then by priority
and then by the texts of their times. This is the order in time unless two rules that agree otherwise
have times of which the later one is written with a sign.
-/

namespace AuctionBudget

open Rule (Row)

theorem Uuid.eq_of_toNat_eq {one other : Uuid} (same : one.toNat = other.toNat) : one = other := by
  cases one
  cases other
  exact congrArg _ (BitVec.eq_of_toNat_eq same)

namespace Rule

variable {before : Int → Int → Prop} {a b : Rule} {rules : List Rule} {season : Uuid}

/-- By priority and then by time, in an order of times. -/
def Ranks (before : Int → Int → Prop) (a b : Rule) : Prop :=
  a.priority < b.priority ∨ a.priority = b.priority ∧ before a.created b.created

/-- By season, and then as within a season. -/
def RanksInAll (before : Int → Int → Prop) (a b : Rule) : Prop :=
  a.season.toNat < b.season.toNat ∨ a.season = b.season ∧ a.Ranks before b

/-- The order of times by their texts. -/
def byText (one other : Int) : Prop :=
  Timestamp.precedes one other = true

/-- Two rules that differ in their times at most, as far as their order goes. -/
def Rival (a b : Rule) : Prop :=
  a.season = b.season ∧ a.priority = b.priority

/-- A rule compiles by its statement, its shorthand and its roots. -/
theorem compile_congr (written : Text.isAllBlank b.statement.toList = false)
    (statement : a.statement = b.statement) (shorthand : a.shorthand = b.shorthand)
    (roots : a.roots = b.roots) : a.compile = b.compile := by
  simp [compile, statement, shorthand, roots, written]

theorem ruleBefore_encode :
    Auction.ruleBefore (.encode a) (.encode b) = true ↔ a.Ranks byText b := by
  simp only [Auction.ruleBefore, Bool.or_eq_true, Bool.and_eq_true, decide_eq_true_eq]
  rfl

theorem ruleBeforeInAll_encode :
    Auction.ruleBeforeInAll (.encode a) (.encode b) = true ↔ a.RanksInAll byText b := by
  simp only [Auction.ruleBeforeInAll, Bool.or_eq_true, Bool.and_eq_true, decide_eq_true_eq,
    ruleBefore_encode]
  rfl

/-- Within a season the order is that of all rules. -/
theorem ranksInAll_iff (same : a.season = b.season) : a.RanksInAll before b ↔ a.Ranks before b := by
  simp [RanksInAll, same]

theorem pairwise_ranksInAll_iff (same : ∀ rule ∈ rules, rule.season = season) :
    rules.Pairwise (RanksInAll before) ↔ rules.Pairwise (Ranks before) :=
  List.Pairwise.iff_of_mem fun inA inB => ranksInAll_iff ((same _ inA).trans (same _ inB).symm)

/-- Rules in order are in the order in time just when no two rivals have times whose texts order
    otherwise. -/
theorem pairwise_inTime_iff (ordered : rules.Pairwise (RanksInAll byText)) :
    rules.Pairwise (RanksInAll (· ≤ ·)) ↔ ∀ a ∈ rules, ∀ b ∈ rules, a.Rival b →
      byText a.created b.created → a.created ≤ b.created := by
  constructor
  · intro inTime a inA b inB
    -- Of two rivals the first one has the earlier time, and by its text as well.
    let InTime (a b : Rule) : Prop :=
      a.Rival b → byText a.created b.created → a.created ≤ b.created
    have apart : rules.Pairwise fun a b => InTime a b ∧ InTime b a := by
      refine (ordered.and inTime).imp ?_
      rintro a b ⟨text, time⟩
      have both (rival : a.Rival b) :
          byText a.created b.created ∧ a.created ≤ b.created := by
        rw [ranksInAll_iff rival.1] at text time
        have tied := rival.2.not_lt
        exact ⟨(text.resolve_left tied).2, (time.resolve_left tied).2⟩
      refine ⟨fun rival _ => (both rival).2, fun rival back => ?_⟩
      have forth := (both ⟨rival.1.symm, rival.2.symm⟩).1
      exact (Timestamp.precedes_antisymm back forth).le
    have symmetric : Std.Symm fun a b => InTime a b ∧ InTime b a := ⟨fun _ _ => And.symm⟩
    exact (apart.forall_of_forall (fun _ _ => ⟨fun _ _ => le_rfl, fun _ _ => le_rfl⟩) inA inB).1
  · intro rivals
    refine ordered.imp_of_mem fun {a b} inA inB ranks => ranks.imp_right ?_
    rintro ⟨season, ranks⟩
    refine ⟨season, ranks.imp_right ?_⟩
    rintro ⟨priority, text⟩
    exact ⟨priority, rivals a inA b inB ⟨season, priority⟩ text⟩

theorem inTime_of_common (common : ∀ rule ∈ rules, Timestamp.Common rule.created) :
    ∀ a ∈ rules, ∀ b ∈ rules, a.Rival b →
      byText a.created b.created → a.created ≤ b.created := by
  intro a inA b inB _
  exact (Timestamp.precedes_iff_le (common a inA) (common b inB)).1

end Rule

namespace Auction

variable {db after : Auction} {rule a b : Rule} {id season : Uuid} {saves stored rules : List Rule}
variable {tag : String} {words : Rule.Words}

theorem ruleBeforeInAll_total (a b : Row) :
    ruleBeforeInAll a b = true ∨ ruleBeforeInAll b a = true := by
  simp only [ruleBeforeInAll, Bool.or_eq_true, Bool.and_eq_true, decide_eq_true_eq]
  rcases lt_trichotomy a.season.toNat b.season.toNat with first | same | second
  · exact .inl (.inl first)
  · have season := Uuid.eq_of_toNat_eq same
    exact (ruleBefore_total a b).imp (fun before => .inr ⟨season, before⟩)
      fun before => .inr ⟨season.symm, before⟩
  · exact .inr (.inl second)

theorem ruleBeforeInAll_trans (a b c : Row) (ab : ruleBeforeInAll a b = true)
    (bc : ruleBeforeInAll b c = true) : ruleBeforeInAll a c = true := by
  simp only [ruleBeforeInAll, Bool.or_eq_true, Bool.and_eq_true, decide_eq_true_eq] at *
  rcases ab with ab | ⟨ab, before⟩
  · exact .inl (bc.elim ab.trans fun same => same.1 ▸ ab)
  · rcases bc with bc | ⟨bc, later⟩
    · exact .inl (ab ▸ bc)
    · exact .inr ⟨ab.trans bc, ruleBefore_trans _ _ _ before later⟩

def accepts (db : Auction) (rule : Rule) : Bool :=
  ((keepRule rule).call db).1.isOk

/-- The records after a save of a rule, whether it is refused or not. -/
def savedRule (db : Auction) (rule : Rule) : Auction :=
  ((keepRule rule).call db).2

def saveRules (db : Auction) (saves : List Rule) : Auction :=
  saves.foldl savedRule db

/-- The rule of the last accepted save under an identifier, with its tag trimmed. -/
def lastSaved? (db : Auction) (saves : List Rule) (id : Uuid) : Option Rule :=
  ((saves.filter fun rule => db.accepts rule && rule.id = id).getLast?).map Rule.trimmed

/-- A save commits what it answers with, and changes nothing where it is refused. -/
theorem call_keepRule (db : Auction) (rule : Rule) : (keepRule rule).call db =
    match db.saveRule rule with
    | .ok (id, after) => (.ok id, after)
    | .error e => (.error e, db) := by
  rw [(atomic_keepRule rule).call_eq, saveRule]
  cases (keepRule rule).outcome db <;> rfl

/-- A rule is accepted for its own text and its season, whatever rules are stored. -/
theorem accepts_iff : db.accepts rule = true ↔
    Text.isAllBlank rule.tag.toList = false ∧ (∃ compiled, rule.trimmed.compile = .ok compiled) ∧
      (db.season? rule.season).isSome := by
  rw [accepts, call_keepRule]
  constructor
  · intro answers
    cases saved : db.saveRule rule with
    | error => simp [saved, Except.isOk, Except.toBool] at answers
    | ok result => exact (saveRule_eq_ok.1 saved).1
  · intro fit
    rw [saveRule_eq_ok.2 ⟨fit, rfl, rfl⟩]
    rfl

theorem accepts_congr (same : after.seasons = db.seasons) : after.accepts = db.accepts := by
  funext rule
  rw [Bool.eq_iff_iff, accepts_iff, accepts_iff, season?, season?, same]

theorem savedRule_eq (db : Auction) (rule : Rule) : db.savedRule rule =
    if db.accepts rule then { db with rules := Table.upsert Row.id (.encode rule.trimmed) db.rules }
    else db := by
  rw [savedRule, accepts, call_keepRule]
  cases saved : db.saveRule rule with
  | error => rfl
  | ok result => exact (saveRule_eq_ok.1 saved).2.2

/-- The rules that saves keep, in the order in which their identifiers came up. -/
def keptRules (db : Auction) (saves : List Rule) : List Rule :=
  (saves.filter db.accepts).foldl (fun kept rule => Table.upsert Rule.id rule.trimmed kept) []

theorem keptRules_append (db : Auction) (saves : List Rule) (rule : Rule) :
    db.keptRules (saves ++ [rule]) =
      if db.accepts rule then Table.upsert Rule.id rule.trimmed (db.keptRules saves)
      else db.keptRules saves := by
  by_cases accepted : db.accepts rule <;> simp [keptRules, List.filter_append, accepted]

theorem saveRules_eq (ruleless : db.rules = []) (saves : List Rule) :
    db.saveRules saves = { db with rules := (db.keptRules saves).map Row.encode } := by
  induction saves using List.reverseRecOn with
  | nil => simp [saveRules, keptRules, ← ruleless]
  | append_singleton saves rule ih =>
      have step : db.saveRules (saves ++ [rule]) = (db.saveRules saves).savedRule rule := by
        simp [saveRules]
      have accepted : Auction.accepts { db with rules := (db.keptRules saves).map Row.encode } =
          db.accepts := accepts_congr rfl
      have encoded : (Table.upsert Rule.id rule.trimmed (db.keptRules saves)).map Row.encode =
          Table.upsert Row.id (.encode rule.trimmed) ((db.keptRules saves).map Row.encode) :=
        Table.map_upsert fun _ => rfl
      rw [step, ih, savedRule_eq, accepted, keptRules_append]
      split
      · rw [encoded]
      · rfl

/-- Under every identifier stands the rule that was saved last. -/
theorem find?_keptRules (db : Auction) (saves : List Rule) (id : Uuid) :
    Table.find? Rule.id id (db.keptRules saves) = db.lastSaved? saves id := by
  induction saves using List.reverseRecOn with
  | nil => rfl
  | append_singleton saves rule ih =>
      rw [keptRules_append, lastSaved?, List.filter_append]
      by_cases accepted : db.accepts rule = true
      · rw [if_pos accepted, Table.find?_upsert, ih]
        by_cases here : rule.id = id
        · simp [accepted, here, Rule.trimmed]
        · simp [accepted, here, Rule.trimmed, lastSaved?]
      · rw [if_neg accepted, ih]
        simp [accepted, lastSaved?]

theorem nodup_keptRules (db : Auction) (saves : List Rule) :
    ((db.keptRules saves).map Rule.id).Nodup := by
  induction saves using List.reverseRecOn with
  | nil => exact .nil
  | append_singleton saves rule ih =>
      rw [keptRules_append]
      split
      · exact Table.nodup_upsert ih
      · exact ih

theorem mapM_rule_encode (words : Rule.Words) (rules : List Rule) :
    (rules.map Row.encode).mapM (Row.rule words) = .ok rules := by
  have read (rule : Rule) : (Row.encode rule).rule words = .ok rule := by
    rw [Row.rule, Row.decode_encode]
    rfl
  exact mapM_eq_ok_iff.2 (List.forall₂_map_left_iff.2 (List.forall₂_same.2 fun rule _ => read rule))

/-- Rules are read back as they are kept. -/
theorem rulesTagged_eq (active : after.activeRows season (Text.trimmed tag) = rules.map Row.encode)
    (named : Text.isAllBlank tag.toList = false) :
    after.rulesTagged words season tag = .ok rules := by
  rw [rulesTagged, requireCode_eq_ok.2 ⟨named, rfl⟩]
  exact (congrArg (List.mapM (Row.rule words)) active).trans (mapM_rule_encode words rules)

/-- The rules that are selected from a map by identifier, in an order that depends on that of
    times. -/
structure Shows (stored? : Uuid → Option Rule) (selected : Rule → Prop)
    (ranks : (Int → Int → Prop) → Rule → Rule → Prop) (rules : List Rule) : Prop where
  members : ∀ rule, rule ∈ rules ↔ stored? rule.id = some rule ∧ selected rule
  once : (rules.map Rule.id).Nodup
  ordered : rules.Pairwise (ranks Rule.byText)
  inTime : rules.Pairwise (ranks (· ≤ ·)) ↔ ∀ a ∈ rules, ∀ b ∈ rules, a.Rival b →
    Rule.byText a.created b.created → a.created ≤ b.created
  /-- Times of the years 0 to 9999 do not put rules out of order. -/
  common : (∀ rule ∈ rules, Timestamp.Common rule.created) → rules.Pairwise (ranks (· ≤ ·))

section Lists

variable (rows : after.rules = stored.map Row.encode) (distinct : (stored.map Rule.id).Nodup)

include rows

theorem allRules_eq : after.allRules words =
    .ok (Ordered.sortBy (fun a b => ruleBeforeInAll (.encode a) (.encode b)) stored) := by
  rw [allRules, rows, ← Ordered.map_sortBy, mapM_rule_encode]

theorem activeRows_eq (season : Uuid) (tag : String) : after.activeRows season tag =
    (Ordered.sortBy (fun a b => ruleBefore (.encode a) (.encode b)) (stored.filter fun rule =>
      rule.season = season ∧ rule.tag = tag ∧ rule.active)).map Row.encode := by
  rw [activeRows, rows, List.filter_map, Ordered.map_sortBy]
  rfl

include distinct

theorem shows_allRules : ∃ rules, after.allRules words = .ok rules ∧
    Shows (Table.find? Rule.id · stored) (fun _ => True) Rule.RanksInAll rules := by
  refine ⟨_, allRules_eq rows, ?_⟩
  have ordered : (Ordered.sortBy (fun a b => ruleBeforeInAll (.encode a) (.encode b))
      stored).Pairwise (Rule.RanksInAll Rule.byText) :=
    (Ordered.pairwise_sortBy (fun a b => ruleBeforeInAll_total (.encode a) (.encode b))
      (fun a b c => ruleBeforeInAll_trans (.encode a) (.encode b) (.encode c)) stored).imp
        Rule.ruleBeforeInAll_encode.1
  exact {
    members := fun rule => by
      simp [Table.find?_eq_some_iff distinct]
    once := ((Ordered.sortBy_perm _ _).map _).nodup_iff.2 distinct
    ordered
    inTime := Rule.pairwise_inTime_iff ordered
    common := fun common =>
      (Rule.pairwise_inTime_iff ordered).2 (Rule.inTime_of_common common) }

theorem shows_activeRows (season : Uuid) (tag : String) :
    ∃ rules, after.activeRows season tag = rules.map Row.encode ∧
      Shows (Table.find? Rule.id · stored)
        (fun rule => rule.season = season ∧ rule.tag = tag ∧ rule.active) Rule.Ranks rules := by
  refine ⟨_, activeRows_eq rows season tag, ?_⟩
  have ordered : (Ordered.sortBy (fun a b => ruleBefore (.encode a) (.encode b))
      (stored.filter fun rule => rule.season = season ∧ rule.tag = tag ∧ rule.active)).Pairwise
        (Rule.Ranks Rule.byText) :=
    (Ordered.pairwise_sortBy (fun a b => ruleBefore_total (.encode a) (.encode b))
      (fun a b c => ruleBefore_trans (.encode a) (.encode b) (.encode c)) _).imp
        Rule.ruleBefore_encode.1
  have ofSeason : ∀ rule ∈ Ordered.sortBy (fun a b => ruleBefore (.encode a) (.encode b))
      (stored.filter fun rule => rule.season = season ∧ rule.tag = tag ∧ rule.active),
      rule.season = season := by
    intro rule member
    simp at member
    exact member.2.1
  have inAll := Rule.pairwise_inTime_iff ((Rule.pairwise_ranksInAll_iff ofSeason).2 ordered)
  have inTime := (Rule.pairwise_ranksInAll_iff ofSeason).symm.trans inAll
  exact {
    members := fun rule => by
      simp [Table.find?_eq_some_iff distinct]
    once := ((Ordered.sortBy_perm _ _).map _).nodup_iff.2
      (distinct.sublist (List.filter_sublist.map Rule.id))
    ordered
    inTime
    common := fun common => inTime.2 (Rule.inTime_of_common common) }

end Lists

/-- The values of rules in order, or the reason why the first of them fails that does. -/
structure Evaluates (rules : List Rule) (context : Context) (answer : Except Error (List Float)) :
    Prop where
  values : ∀ values, answer = .ok values ↔
    List.Forall₂ (fun rule value => rule.evaluate context = .ok value) rules values
  fails : ∀ error, answer = .error error ↔ ∃ before rule later, rules = before ++ rule :: later ∧
    (∀ other ∈ before, (other.evaluate context).isOk = true) ∧ rule.evaluate context = .error error

/-- What saves of rules leave behind in records that had none. -/
structure Rulebook (words : Rule.Words) (db : Auction) (saves : List Rule) (after : Auction) :
    Prop where
  frame : after = { db with rules := after.rules }
  /-- Whether a rule is accepted does not depend on the saves before. -/
  acceptance : after.accepts = db.accepts
  rows : ∀ id, Table.find? Row.id id after.rules = (db.lastSaved? saves id).map Row.encode
  once : (after.rules.map Row.id).Nodup
  all : ∃ rules, after.allRules words = .ok rules ∧
    Shows (db.lastSaved? saves) (fun _ => True) Rule.RanksInAll rules
  tagged : ∀ season tag, Text.isAllBlank tag.toList = false → ∃ rules,
    after.rulesTagged words season tag = .ok rules ∧
      Shows (db.lastSaved? saves)
        (fun rule => rule.season = season ∧ rule.tag = Text.trimmed tag ∧ rule.active) Rule.Ranks
        rules ∧
      ∀ context, Evaluates rules context (after.evaluateRules words season tag context)

/-- Saves of rules make a map by identifier, and lists of rules show what is in it. -/
theorem rulebook_saveRules (words : Rule.Words) (ruleless : db.rules = []) (saves : List Rule) :
    Rulebook words db saves (db.saveRules saves) := by
  have whole := saveRules_eq ruleless saves
  have rows : (db.saveRules saves).rules = (db.keptRules saves).map Row.encode := by rw [whole]
  have distinct := nodup_keptRules db saves
  have stored : (Table.find? Rule.id · (db.keptRules saves)) = db.lastSaved? saves :=
    funext (find?_keptRules db saves)
  exact {
    frame := by rw [whole]
    acceptance := accepts_congr (by rw [whole])
    rows := by
      intro id
      rw [rows, ← find?_keptRules]
      exact Table.find?_map fun _ => rfl
    once := by
      rw [rows, List.map_map]
      exact distinct
    all := stored ▸ shows_allRules rows distinct
    tagged := by
      intro season tag named
      obtain ⟨rules, active, shows⟩ := shows_activeRows rows distinct season (Text.trimmed tag)
      have answer : (db.saveRules saves).rulesTagged words season tag = .ok rules :=
        rulesTagged_eq active named
      refine ⟨rules, answer, stored ▸ shows, fun context => ?_⟩
      have evaluates : (db.saveRules saves).evaluateRules words season tag context =
          rules.mapM (·.evaluate context) := by
        rw [evaluateRules, answer]
        rfl
      rw [evaluates]
      exact { values := fun _ => mapM_eq_ok_iff, fails := fun _ => mapM_eq_error_iff } }

theorem rulebook_ruleless : ruleless.rules = [] ∧
    Rulebook (fun _ _ => "expected value") ruleless [Rule.limiting Rule.spentField.name, salaried]
      (ruleless.saveRules [Rule.limiting Rule.spentField.name, salaried]) :=
  ⟨rfl, rulebook_saveRules _ rfl _⟩

/-- A rule on what is spent, made at some time. -/
def madeAt (id : Nat) (time : Int) : Rule :=
  { Rule.limiting Rule.spentField.name with id := .ofNat id, created := time }

theorem accepts_madeAt (id : Nat) (time : Int) : ruleless.accepts (madeAt id time) = true := by
  have statement : Text.isAllBlank (Rule.limiting Rule.spentField.name).statement.toList = false := by
    decide +kernel
  have same : (madeAt id time).trimmed.compile = (Rule.limiting Rule.spentField.name).compile :=
    Rule.compile_congr statement rfl rfl rfl
  have compiles := same.trans (Rule.compile_limiting (.inl rfl))
  exact accepts_iff.2 ⟨Rule.isAllBlank_nextBidTag, ⟨_, compiles⟩, rfl⟩

/-- A rule of the year 10000 is listed before one of 1970. -/
theorem not_inTime_tenThousand :
    let early := madeAt 1 0
    let late := madeAt 2 253402300800000000000
    Sound ruleless ∧ ruleless.rules = [] ∧ Timestamp.year early.created = 1970 ∧
      Timestamp.year late.created = 10000 ∧ ∀ words, ∃ rules,
        (ruleless.saveRules [early, late]).rulesTagged words openSeason.id Rule.nextBidTag =
          .ok rules ∧ early ∈ rules ∧ late ∈ rules ∧ ¬ rules.Pairwise (Rule.Ranks (· ≤ ·)) := by
  intro early late
  have sound : Sound ruleless := by constructor <;> decide
  have tag := Rule.trimmed_nextBidTag
  have trimmed (id : Nat) (time : Int) : (madeAt id time).trimmed = madeAt id time := by
    simp only [Rule.trimmed, madeAt, Rule.limiting, tag]
  have kept : ruleless.keptRules [early, late] = [early, late] := by
    simp only [keptRules, early, late, accepts_madeAt, List.filter_cons_of_pos, List.filter_nil,
      List.foldl_cons, List.foldl_nil, trimmed]
    decide +kernel
  have rows : (ruleless.saveRules [early, late]).rules = [early, late].map Row.encode := by
    rw [saveRules_eq rfl, kept]
  obtain ⟨rules, active, shows⟩ :=
    shows_activeRows rows (by decide) openSeason.id (Text.trimmed Rule.nextBidTag)
  have inEarly : early ∈ rules := (shows.members early).2 ⟨rfl, rfl, tag.symm, rfl⟩
  have inLate : late ∈ rules := (shows.members late).2 ⟨rfl, rfl, tag.symm, rfl⟩
  have sign : Rule.byText late.created early.created := by
    unfold Rule.byText
    decide +kernel
  refine ⟨sound, rfl, by decide +kernel, by decide +kernel, fun words => ⟨rules,
    rulesTagged_eq active Rule.isAllBlank_nextBidTag, inEarly, inLate, fun inTime => ?_⟩⟩
  have wrong : late.created ≤ early.created :=
    shows.inTime.1 inTime late inLate early inEarly ⟨rfl, rfl⟩ sign
  exact absurd wrong (by decide)

end Auction
end AuctionBudget
