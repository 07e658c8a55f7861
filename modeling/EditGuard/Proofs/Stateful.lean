/-!
# Running computations that keep their state

Evaluating a rule, reading a variable and operating a platform are computations
of one kind: they may fail, and what they have done to their state stays.  This
file says how such a computation runs when it is put together from others.
-/

namespace EditGuard

variable {ε σ α β : Type}

@[simp]
theorem run_pure (a : α) (s : σ) :
    (pure a : ExceptT ε (StateM σ) α).run.run s = (.ok a, s) :=
  rfl

@[simp]
theorem run_throw (e : ε) (s : σ) :
    (throw e : ExceptT ε (StateM σ) α).run.run s = (.error e, s) :=
  rfl

@[simp]
theorem run_get_bind (f : σ → ExceptT ε (StateM σ) α) (s : σ) :
    (get >>= f).run.run s = (f s).run.run s :=
  rfl

@[simp]
theorem run_set_bind (t : σ) (f : PUnit → ExceptT ε (StateM σ) α) (s : σ) :
    (set t >>= f).run.run s = (f ⟨⟩).run.run t :=
  rfl

@[simp]
theorem run_modify_bind (change : σ → σ) (f : PUnit → ExceptT ε (StateM σ) α) (s : σ) :
    (modify change >>= f).run.run s = (f ⟨⟩).run.run (change s) :=
  rfl

theorem run_bind (x : ExceptT ε (StateM σ) α) (f : α → ExceptT ε (StateM σ) β) (s : σ) :
    (x >>= f).run.run s =
      match x.run.run s with
      | (.ok a, t) => (f a).run.run t
      | (.error e, t) => (.error e, t) := by
  rw [ExceptT.run_bind, StateT.run_bind]
  rcases x.run.run s with ⟨outcome, t⟩
  cases outcome <;> rfl

/-- A computation whose first part succeeds goes on where that part has ended. -/
theorem run_bind_of_ok {x : ExceptT ε (StateM σ) α} {f : α → ExceptT ε (StateM σ) β}
    {s t : σ} {a : α} (first : x.run.run s = (.ok a, t)) :
    (x >>= f).run.run s = (f a).run.run t := by
  rw [run_bind, first]

/-- A computation whose first part fails has failed there. -/
theorem run_bind_of_error {x : ExceptT ε (StateM σ) α} {f : α → ExceptT ε (StateM σ) β}
    {s t : σ} {e : ε} (first : x.run.run s = (.error e, t)) :
    (x >>= f).run.run s = (.error e, t) := by
  rw [run_bind, first]

/-- Of a computation whose result is not looked at the state is left. -/
theorem run_discard (x : StateM σ α) (s : σ) : (discard x).run s = ((), (x.run s).2) :=
  rfl

/-- A result that is not looked at may as well not be there. -/
theorem discard_bind (x : ExceptT ε (StateM σ) α) (f : PUnit → ExceptT ε (StateM σ) β) :
    discard x >>= f = x >>= fun _ => f ⟨⟩ :=
  bind_map_left _ _ _

/-- A computation that succeeds has a first part that succeeds, where the rest starts. -/
theorem exists_of_run_bind_eq_ok {x : ExceptT ε (StateM σ) α} {f : α → ExceptT ε (StateM σ) β}
    {s u : σ} {b : β} (ran : (x >>= f).run.run s = (.ok b, u)) :
    ∃ a t, x.run.run s = (.ok a, t) ∧ (f a).run.run t = (.ok b, u) := by
  rw [run_bind] at ran
  rcases first : x.run.run s with ⟨e | a, t⟩
  · rw [first] at ran
    cases ran
  · rw [first] at ran
    exact ⟨a, t, rfl, ran⟩

/-- Computations one after the other have a result if both have. -/
theorem exists_of_bind_eq_ok {x : Except ε α} {f : α → Except ε β} {b : β}
    (ran : x >>= f = .ok b) : ∃ a, x = .ok a ∧ f a = .ok b := by
  cases x with
  | ok a => exact ⟨a, rfl, ran⟩
  | error e => cases ran

theorem exists_of_map_eq_ok {x : Except ε α} {f : α → β} {b : β} (ran : x.map f = .ok b) :
    ∃ a, x = .ok a ∧ f a = b := by
  cases x with
  | ok a => exact ⟨a, rfl, Except.ok.inj ran⟩
  | error e => cases ran

/-- A result that is changed keeps its error. -/
theorem eq_error_of_map {x : Except ε α} {f : α → β} {e : ε} (ran : x.map f = .error e) :
    x = .error e := by
  cases x with
  | ok a => cases ran
  | error e => exact congrArg Except.error (Except.error.inj ran)

theorem exists_ok_of_isSome {x : Except ε α} (isSome : x.toOption.isSome = true) :
    ∃ a, x = .ok a := by
  cases x with
  | ok a => exact ⟨a, rfl⟩
  | error e => cases isSome

end EditGuard
