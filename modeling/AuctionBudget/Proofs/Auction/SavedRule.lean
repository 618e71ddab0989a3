import AuctionBudget.Proofs.Auction.Cache
import AuctionBudget.Proofs.Auction.Save
import AuctionBudget.Proofs.Expr.Names

/-! # What a saved rule answers

A rule is saved only if its text compiles, and what is read back compiles to the same. Compiling does
not look at the names, though: a rule that names something unknown is saved as well. It is found
malformed wherever its evaluation gets to that name, and never has a value.
-/

namespace AuctionBudget

namespace Rule

/-- A value, or a fault of arithmetic. -/
inductive Settled : Except Error Float → Prop where
  | value (value : Float) : Settled (.ok value)
  | divisionByZero : Settled (.error (.evaluation "division by zero"))
  | overflow (op : BinaryOp) : Settled (.error (.evaluation s!"arithmetic overflow in {op.name}"))

variable {rule : Rule} {compiled : CompiledRule} {context : Context} {error : Error}
variable {fault : ReadFault}

theorem remaining_eq_error : compiled.remaining context = .error error ↔
    ∃ fault, compiled.expression.eval context = .error fault ∧ fault.toError = error := by
  rw [CompiledRule.remaining, map_eq_error, CompiledRule.total, Expr.evaluate, mapError_eq_error]

/-- A compiled rule is malformed just where it gets to a name that cannot be read. -/
theorem remaining_malformed_iff {detail : String} :
    compiled.remaining context = .error (.malformedRule detail) ↔
      ∃ fault, compiled.expression.StuckAt context fault ∧ fault.message = detail := by
  rw [remaining_eq_error]
  constructor
  · rintro ⟨failed, fails, same⟩
    cases failed with
    | read fault => exact ⟨fault, Expr.eval_eq_read_iff.1 fails, Error.malformedRule.inj same⟩
    | divisionByZero => cases same
    | overflow op => cases same
  · rintro ⟨fault, stuck, rfl⟩
    exact ⟨.read fault, stuck.eval_eq, rfl⟩

theorem settled_remaining_iff : Settled (compiled.remaining context) ↔
    ∀ fault, ¬ compiled.expression.StuckAt context fault := by
  constructor
  · intro settled fault stuck
    rw [remaining_malformed_iff.2 ⟨fault, stuck, rfl⟩] at settled
    cases settled
  · intro free
    cases answer : compiled.remaining context with
    | ok value => exact .value value
    | error error =>
        obtain ⟨failed, fails, rfl⟩ := remaining_eq_error.1 answer
        cases failed with
        | read fault => exact absurd (Expr.eval_eq_read_iff.1 fails) (free fault)
        | divisionByZero => exact .divisionByZero
        | overflow op => exact .overflow op

/-- What an active rule answers in a context. -/
structure Answers (rule : Rule) (compiled : CompiledRule) (context : Context) : Prop where
  /-- It has a value, or its arithmetic fails, unless it gets to a name that cannot be read. -/
  settled : Settled (rule.evaluate context) ↔
    ∀ fault, ¬ compiled.expression.StuckAt context fault
  malformed : ∀ detail, rule.evaluate context = .error (.malformedRule detail) ↔
    ∃ fault, compiled.expression.StuckAt context fault ∧ fault.message = detail
  nonempty : ∀ detail, rule.evaluate context ≠ .error (.invalidInput detail)
  /-- If all names can be read, it does not get stuck, and otherwise it never has a value. -/
  readable : compiled.expression.Readable → Settled (rule.evaluate context)
  valued : ∀ value, rule.evaluate context = .ok value → compiled.expression.Readable

theorem answers (active : rule.active = true) (compiles : rule.compile = .ok compiled)
    (context : Context) : rule.Answers compiled context := by
  constructor <;> rw [evaluate_eq active compiles]
  · exact settled_remaining_iff
  · exact fun _ => remaining_malformed_iff
  · intro detail refused
    obtain ⟨failed, -, same⟩ := remaining_eq_error.1 refused
    cases failed <;> cases same
  · exact fun readable => settled_remaining_iff.2 fun _ stuck => stuck.not_readable readable
  · intro value evaluates
    obtain ⟨total, evaluates, -⟩ := map_eq_ok.1 evaluates
    exact Expr.readable_of_eval_eq_ok (mapError_eq_ok.1 evaluates)

/-- The rule as it is stored, with its tag trimmed. -/
def trimmed (rule : Rule) : Rule :=
  { rule with tag := Text.trimmed rule.tag }

theorem isAllBlank_nextBidTag : Text.isAllBlank nextBidTag.toList = false := by
  decide +kernel

theorem trimmed_nextBidTag : Text.trimmed nextBidTag = nextBidTag := by
  decide +kernel

end Rule

namespace Auction

open Rule (Row)
open scoped Text

variable {db after : Auction} {rule : Rule} {id : Uuid}

/-- A save of a rule, step by step. -/
theorem saveRule_eq (db : Auction) (rule : Rule) : db.saveRule rule = (do
    let tag ← requireCode "rule context" rule.tag
    let rule := { rule with tag }
    let _ ← rule.compile
    let _ ← db.requireSeason rule.season
    return (rule.id, { db with rules := Table.upsert Row.id (.encode rule) db.rules })) := by
  simp only [saveRule, keepRule, Session.outcome_check_bind, Session.outcome_transact,
    Steps.outcome_bind, Steps.outcome_get, Steps.outcome_lift, Steps.outcome_modify,
    Steps.outcome_pure, ok_bind, map_bind_eq]
  rfl

/-- A rule is checked before its transaction begins. -/
theorem atomic_keepRule (rule : Rule) : (keepRule rule).Atomic :=
  .check_bind _ fun _ => .check_bind _ fun _ => Session.atomic_transact _

theorem saveRule_eq_ok : db.saveRule rule = .ok (id, after) ↔
    (Text.isAllBlank rule.tag.toList = false ∧ (∃ compiled, rule.trimmed.compile = .ok compiled) ∧
      (db.season? rule.season).isSome) ∧ id = rule.id ∧
      after = { db with rules := Table.upsert Row.id (.encode rule.trimmed) db.rules } := by
  constructor
  · intro saved
    rw [saveRule_eq] at saved
    obtain ⟨_, named, saved⟩ := bind_eq_ok.1 saved
    obtain ⟨written, rfl⟩ := requireCode_eq_ok.1 named
    obtain ⟨compiled, compiles, saved⟩ := bind_eq_ok.1 saved
    obtain ⟨season, found, saved⟩ := bind_eq_ok.1 saved
    cases saved
    exact ⟨⟨written, ⟨compiled, compiles⟩, by simp [required_eq_ok.1 found]⟩, rfl, rfl⟩
  · rintro ⟨⟨written, ⟨compiled, compiles⟩, known⟩, rfl, rfl⟩
    obtain ⟨season, found⟩ := Option.isSome_iff_exists.1 known
    rw [saveRule_eq]
    refine bind_eq_ok.2 ⟨_, requireCode_eq_ok.2 ⟨written, rfl⟩, ?_⟩
    exact bind_eq_ok.2 ⟨_, compiles, bind_eq_ok.2 ⟨_, required_eq_ok.2 found, rfl⟩⟩

/-- A rule that is saved compiles, with its tag trimmed, and its row stands under its identifier. -/
theorem saveRule_ok (saved : db.saveRule rule = .ok (id, after)) :
    ∃ compiled, { rule with tag := Text.trimmed rule.tag }.compile = .ok compiled ∧
      id = rule.id ∧
      after.rules = Table.upsert Row.id (.encode { rule with tag := Text.trimmed rule.tag })
        db.rules := by
  obtain ⟨⟨-, ⟨compiled, compiles⟩, -⟩, rfl, rfl⟩ := saveRule_eq_ok.1 saved
  exact ⟨compiled, compiles, rfl, rfl⟩

/-- An active rule that is saved is read back as it is, with its tag trimmed, and evaluates to a
    value or a fault of arithmetic wherever it does not get to a name that cannot be read. -/
theorem evaluate_saved (active : rule.active = true) (saved : db.saveRule rule = .ok (id, after)) :
    ∃ row stored compiled,
      Table.find? Row.id rule.id after.rules = some row ∧
      row ∈ after.activeRows rule.season (Text.trimmed rule.tag) ∧
      row.decode = .ok stored ∧ stored = { rule with tag := Text.trimmed rule.tag } ∧
      stored.compile = .ok compiled ∧ ∀ context, stored.Answers compiled context := by
  obtain ⟨compiled, compiles, -, rules⟩ := saveRule_ok saved
  have found : Table.find? Row.id rule.id after.rules =
      some (.encode { rule with tag := Text.trimmed rule.tag }) := by
    rw [rules, Table.find?_upsert]
    exact if_pos rfl
  have there := (Table.mem_of_find?_eq_some found).1
  exact ⟨_, _, compiled, found, mem_activeRows.2 ⟨there, rfl, rfl, active⟩, Row.decode_encode _, rfl,
    compiles, Rule.answers active compiles⟩

/-- A season, and no rules yet. -/
def ruleless : Auction :=
  { limited Rule.spentField.name [] with rules := [] }

theorem saveRule_ruleless {compiled : CompiledRule} (tag : rule.tag = Rule.nextBidTag)
    (season : rule.season = openSeason.id) (compiles : rule.compile = .ok compiled) :
    ruleless.saveRule rule = .ok (rule.id, { ruleless with rules := [.encode rule] }) := by
  have trimmed : requireCode "rule context" rule.tag = .ok rule.tag := by
    rw [tag]
    exact requireCode_eq_ok.2 ⟨Rule.isAllBlank_nextBidTag, Rule.trimmed_nextBidTag.symm⟩
  have known : ruleless.requireSeason rule.season = .ok openSeason := by
    rw [season]
    rfl
  rw [saveRule_eq, trimmed]
  simp only [ok_bind, compiles, known]
  rfl

/-- A rule on a known field has a value in every context, or its arithmetic fails. -/
theorem evaluate_saved_limiting :
    (Rule.limiting Rule.spentField.name).active = true ∧
      ∃ after row, ruleless.saveRule (Rule.limiting Rule.spentField.name) = .ok (.ofNat 1, after) ∧
        row ∈ after.activeRows openSeason.id Rule.nextBidTag ∧
        row.decode = .ok (Rule.limiting Rule.spentField.name) ∧
        ∀ context, Rule.Settled ((Rule.limiting Rule.spentField.name).evaluate context) := by
  have compiles := Rule.compile_limiting (.inl rfl)
  have saved := saveRule_ruleless rfl rfl compiles
  obtain ⟨row, stored, compiled, -, active, decoded, same, compilesToo, answers⟩ :=
    evaluate_saved rfl saved
  have tag : Text.trimmed Rule.nextBidTag = Rule.nextBidTag := by decide +kernel
  obtain rfl : stored = Rule.limiting Rule.spentField.name := by
    rw [same, Rule.limiting, tag]
  obtain rfl : _ = compiled := Except.ok.inj (compiles.symm.trans compilesToo)
  exact ⟨rfl, _, row, saved, tag ▸ active, decoded, fun context =>
    (answers context).readable rfl⟩

/-- A rule on the salary of a team. -/
def salaried : Rule :=
  { Rule.limiting "" with statement := "team.salary <= 5" }

theorem compile_salaried : salaried.compile = .ok {
    comparison := ⟨"team.salary", .atMost, 5.0⟩
    expression := .field "team" "salary" } := by
  have written : Text.isAllBlank salaried.statement.toList = false := by decide +kernel
  have cut : Rule.Comparison.parse (Rule.expand salaried.shorthand salaried.statement) =
      .ok ⟨"team.salary", .atMost, 5.0⟩ := by decide +kernel
  have path : Rule.indexPaths salaried.roots "team.salary" = "team.salary" := by decide +kernel
  have isSalary : Rule.IsName ['s', 'a', 'l', 'a', 'r', 'y'] := ⟨by decide, by decide⟩
  have reads : Expr.parse "team.salary" = .ok (.field "team" "salary") :=
    Rule.parse_of_lexes (.term (.factor (.operand .field)))
      (Rule.lexes_field Rule.isName_team isSalary)
  exact Rule.compile_eq_ok written cut path reads

/-- It is saved and read back, and malformed in every context. -/
theorem not_settled_salaried :
    Sound ruleless ∧ salaried.active = true ∧
      ∃ after row, ruleless.saveRule salaried = .ok (salaried.id, after) ∧
        Table.find? Row.id salaried.id after.rules = some row ∧ row.decode = .ok salaried ∧
        ∀ context, salaried.evaluate context =
          .error (.malformedRule "unknown field `salary` on `team`") := by
  have sound : Sound ruleless := by constructor <;> decide
  refine ⟨sound, rfl, _, _, saveRule_ruleless rfl rfl compile_salaried, rfl, Row.decode_encode _,
    fun context => ?_⟩
  rw [Rule.evaluate_eq rfl compile_salaried]
  exact Rule.remaining_malformed_iff.2 ⟨_, .field rfl, by decide +kernel⟩

end Auction
end AuctionBudget
