import AuctionBudget.Auction.Transaction
import AuctionBudget.Proofs.Refusal

/-! # What a transaction leaves

Steps may be taken one after another as answers with records. A call that is one transaction commits
what its steps leave, and where they fail it leaves the records as they were, whatever was written
by then.
-/

namespace AuctionBudget

variable {α β : Type}

section Run

variable {State : Type}

theorem run_get_bind (next : State → ExceptT Error (StateM State) β) (state : State) :
    (get >>= next).run.run state = (next state).run.run state :=
  rfl

theorem run_modify_bind (change : State → State) (next : ExceptT Error (StateM State) β)
    (state : State) : (modify change >>= fun _ => next).run.run state = next.run.run (change state) :=
  rfl

end Run

namespace Steps

@[simp] theorem outcome_pure (a : α) (db : Auction) : outcome (pure a) db = .ok (a, db) :=
  rfl

@[simp] theorem outcome_lift (result : Except Error α) (db : Auction) :
    outcome (liftM result) db = result.map (·, db) := by
  cases result <;> rfl

@[simp] theorem outcome_get (db : Auction) : outcome get db = .ok (db, db) :=
  rfl

@[simp] theorem outcome_modify (change : Auction → Auction) (db : Auction) :
    outcome (modify change) db = .ok ((), change db) :=
  rfl

@[simp] theorem outcome_throw (e : Error) (db : Auction) :
    outcome (throw e : Steps α) db = .error e :=
  rfl

/-- Steps go on with the records that the steps before left. -/
@[simp] theorem outcome_bind (steps : Steps α) (next : α → Steps β) (db : Auction) :
    outcome (steps >>= next) db =
      steps.outcome db >>= fun (answer, between) => (next answer).outcome between := by
  rcases ran : steps.run.run db with ⟨e | a, between⟩
  · have stopped : (steps >>= next).run.run db = (.error e, between) := by
      simp only [ExceptT.run_bind, StateT.run_bind, ran]
      rfl
    rw [outcome, stopped, outcome, ran]
    rfl
  · have goes : (steps >>= next).run.run db = (next a).run.run between := by
      simp only [ExceptT.run_bind, StateT.run_bind, ran]
      rfl
    rw [outcome, goes, outcome, ran]
    rfl

end Steps

namespace Session

/-- Begin, take the steps, and end the transaction by how they went. -/
theorem run_transact (steps : Steps α) (db : Auction) : (transact steps).run.run ⟨db, none⟩ =
    match steps.run.run db with
    | (.ok answer, written) => (.ok answer, ⟨written, none⟩)
    | (.error e, _) => (.error e, ⟨db, none⟩) := by
  have seen : (Store.begin ⟨db, none⟩).records = db := rfl
  rw [transact, run_modify_bind, run_get_bind, seen]
  rcases steps.run.run db with ⟨_ | _, written⟩
  · rfl
  · rfl

/-- Commit what the steps leave, or undo what they wrote until they failed. -/
theorem call_transact (steps : Steps α) (db : Auction) : (transact steps).call db =
    match steps.outcome db with
    | .ok (answer, after) => (.ok answer, after)
    | .error e => (.error e, db) := by
  rw [call, run_transact, Steps.outcome]
  rcases steps.run.run db with ⟨_ | _, written⟩ <;> rfl

theorem call_map (f : α → β) (session : Session α) (db : Auction) :
    (f <$> session).call db = ((session.call db).1.map f, (session.call db).2) := by
  have ran : (f <$> session).run.run ⟨db, none⟩ =
      ((session.run.run ⟨db, none⟩).1.map f, (session.run.run ⟨db, none⟩).2) := by
    rw [ExceptT.run_map, StateT.run_map]
    rfl
  rw [call, ran]
  rfl

/-- What is checked before a transaction begins. -/
theorem call_check_bind (check : Except Error α) (next : α → Session β) (db : Auction) :
    (liftM check >>= next).call db =
      match check with
      | .ok a => (next a).call db
      | .error e => (.error e, db) := by
  cases check <;> rfl

@[simp] theorem outcome_transact (steps : Steps α) (db : Auction) :
    (transact steps).outcome db = steps.outcome db := by
  rw [outcome, call_transact]
  cases steps.outcome db <;> rfl

@[simp] theorem outcome_map (f : α → β) (session : Session α) (db : Auction) :
    (f <$> session).outcome db = (session.outcome db).map fun (a, after) => (f a, after) := by
  rw [outcome, call_map, outcome]
  rcases session.call db with ⟨_ | _, after⟩ <;> rfl

@[simp] theorem outcome_check_bind (check : Except Error α) (next : α → Session β)
    (db : Auction) :
    (liftM check >>= next).outcome db = check >>= fun a => (next a).outcome db := by
  rw [outcome, call_check_bind]
  cases check <;> rfl

/-- A call that fails leaves the records as they were. -/
def Atomic (session : Session α) : Prop :=
  ∀ db e, (session.call db).1 = .error e → (session.call db).2 = db

theorem atomic_transact (steps : Steps α) : (transact steps).Atomic := by
  intro db e failed
  rw [call_transact] at failed ⊢
  cases reached : steps.outcome db with
  | ok result => simp [reached] at failed
  | error fault => rfl

theorem Atomic.map {session : Session α} (atomic : session.Atomic) (f : α → β) :
    (f <$> session).Atomic := by
  intro db e failed
  rw [call_map] at failed ⊢
  exact atomic db e (map_eq_error.1 failed)

theorem Atomic.check_bind (check : Except Error α) {next : α → Session β}
    (atomic : ∀ a, (next a).Atomic) : (liftM check >>= next : Session β).Atomic := by
  intro db e failed
  rw [call_check_bind] at failed ⊢
  cases check with
  | ok a => exact atomic a db e failed
  | error fault => rfl

/-- The answer of an atomic call and the records that it leaves, told from its outcome. -/
theorem Atomic.call_eq {session : Session α} (atomic : session.Atomic) (db : Auction) :
    session.call db =
      match session.outcome db with
      | .ok (answer, after) => (.ok answer, after)
      | .error e => (.error e, db) := by
  have undone := atomic db
  rcases called : session.call db with ⟨e | answer, after⟩
  · simp only [called] at undone
    simp only [outcome, called]
    rw [undone e rfl]
  · simp only [outcome, called]

end Session
end AuctionBudget
