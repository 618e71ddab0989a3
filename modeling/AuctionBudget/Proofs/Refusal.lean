import Mathlib.Data.List.Forall2

/-! # Steps that may be refused

A chain of steps answers exactly when every step does, so an answer can be taken apart step by step.
-/

namespace AuctionBudget

variable {ε δ α β γ : Type}

@[simp] theorem ok_bind (a : α) (f : α → Except ε β) : (Except.ok a >>= f) = f a :=
  rfl

@[simp] theorem error_bind (e : ε) (f : α → Except ε β) : (Except.error e >>= f) = .error e :=
  rfl

theorem bind_eq_ok {x : Except ε α} {f : α → Except ε β} {b : β} :
    x >>= f = .ok b ↔ ∃ a, x = .ok a ∧ f a = .ok b := by
  cases x with
  | error e => simp [bind, Except.bind]
  | ok a => simp [bind, Except.bind]

theorem map_eq_ok {x : Except ε α} {f : α → β} {b : β} :
    x.map f = .ok b ↔ ∃ a, x = .ok a ∧ f a = b := by
  cases x with
  | error e => simp [Except.map]
  | ok a => simp [Except.map]

theorem bind_eq_error {x : Except ε α} {f : α → Except ε β} {e : ε} :
    x >>= f = .error e ↔ x = .error e ∨ ∃ a, x = .ok a ∧ f a = .error e := by
  cases x with
  | error held => simp [bind, Except.bind]
  | ok a => simp [bind, Except.bind]

theorem map_eq_error {x : Except ε α} {f : α → β} {e : ε} :
    x.map f = .error e ↔ x = .error e := by
  cases x with
  | error held => simp [Except.map]
  | ok a => simp [Except.map]

theorem mapError_eq_ok {x : Except ε α} {f : ε → δ} {a : α} :
    x.mapError f = .ok a ↔ x = .ok a := by
  cases x with
  | error e => constructor <;> nofun
  | ok b =>
      constructor <;> intro same
      · cases same
        rfl
      · cases same
        rfl

theorem mapError_eq_error {x : Except ε α} {f : ε → δ} {d : δ} :
    x.mapError f = .error d ↔ ∃ e, x = .error e ∧ f e = d := by
  cases x with
  | error e =>
      constructor
      · intro refused
        cases refused
        exact ⟨e, rfl, rfl⟩
      · rintro ⟨_, ⟨⟩, rfl⟩
        rfl
  | ok a => constructor <;> nofun

theorem isOk_map {x : Except ε α} {f : α → β} : (x.map f).isOk = x.isOk := by
  cases x <;> rfl

theorem map_bind (x : Except ε α) (f : α → Except ε β) (g : β → γ) :
    (x >>= f).map g = x >>= fun a => (f a).map g := by
  cases x <;> rfl

theorem map_bind_eq (x : Except ε α) (f : α → β) (g : β → Except ε γ) :
    (x.map f >>= g) = x >>= fun a => g (f a) := by
  cases x <;> rfl

/-- Steps that agree on the answer of the step before are the same. -/
theorem bind_congr_of_ok {x : Except ε α} {f g : α → Except ε β}
    (same : ∀ a, x = .ok a → f a = g a) : x >>= f = x >>= g := by
  cases x with
  | error e => rfl
  | ok a => exact same a rfl

theorem toOption_eq_some_iff {x : Except ε α} {a : α} : x.toOption = some a ↔ x = .ok a := by
  cases x with
  | error e => simp [Except.toOption]
  | ok b => simp [Except.toOption]

/-- Steps that all answer make a list of answers. -/
theorem mapM_eq_ok {f : α → Except ε β} {g : α → β} {items : List α}
    (each : ∀ a ∈ items, f a = .ok (g a)) : items.mapM f = .ok (items.map g) := by
  induction items with
  | nil => rfl
  | cons a rest ih =>
      rw [List.mapM_cons, each a List.mem_cons_self,
        ih fun b member => each b (List.mem_cons_of_mem _ member)]
      rfl

/-- Steps make a list of answers when they answer with its items one by one. -/
theorem mapM_eq_ok_iff {f : α → Except ε β} {items : List α} {answers : List β} :
    items.mapM f = .ok answers ↔ List.Forall₂ (fun a b => f a = .ok b) items answers := by
  induction items generalizing answers with
  | nil => cases answers <;> simp [pure, Except.pure]
  | cons a rest ih =>
      rw [List.mapM_cons, bind_eq_ok, List.forall₂_cons_left_iff]
      constructor
      · rintro ⟨b, first, later⟩
        obtain ⟨others, more, ⟨⟩⟩ := bind_eq_ok.1 later
        exact ⟨b, others, first, ih.1 more, rfl⟩
      · rintro ⟨b, others, first, more, rfl⟩
        exact ⟨b, first, bind_eq_ok.2 ⟨others, ih.2 more, rfl⟩⟩

/-- A row of steps is refused for the reason of the first one that is. -/
theorem mapM_eq_error_iff {f : α → Except ε β} {items : List α} {e : ε} :
    items.mapM f = .error e ↔ ∃ before a after, items = before ++ a :: after ∧
      (∀ b ∈ before, (f b).isOk = true) ∧ f a = .error e := by
  induction items with
  | nil => simp [pure, Except.pure]
  | cons first rest ih =>
      rw [List.mapM_cons, bind_eq_error]
      constructor
      · rintro (here | ⟨answer, answered, later⟩)
        · exact ⟨[], first, rest, rfl, by simp, here⟩
        · have refused : rest.mapM f = .error e := by
            rcases bind_eq_error.1 later with more | ⟨_, _, ⟨⟩⟩
            exact more
          obtain ⟨before, a, after, rfl, answers, here⟩ := ih.1 refused
          refine ⟨first :: before, a, after, rfl, ?_, here⟩
          exact List.forall_mem_cons.2 ⟨by rw [answered]; rfl, answers⟩
      · rintro ⟨before, a, after, split, answers, here⟩
        cases before with
        | nil =>
            cases split
            exact .inl here
        | cons _ before =>
            cases split
            obtain ⟨ok, others⟩ := List.forall_mem_cons.1 answers
            cases answered : f first with
            | error e => simp [answered, Except.isOk, Except.toBool] at ok
            | ok answer =>
                have refused := ih.2 ⟨before, a, after, rfl, others, here⟩
                exact .inr ⟨answer, rfl, bind_eq_error.2 (.inl refused)⟩

end AuctionBudget
