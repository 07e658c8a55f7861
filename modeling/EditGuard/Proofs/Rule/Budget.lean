import EditGuard.Proofs.Rule.Composition

/-!
# Evaluation under a budget

The conditions that an evaluation counts do not depend on the budget that it is
given.  A budget that suffices is charged with them and changes nothing else; a
budget that does not suffice is consumed exactly, and the evaluation fails with
its limit.
-/

namespace EditGuard

namespace Budget

/-- A count that a budget can have: no more than the largest count, nor more than
an enforced limit. -/
structure Within (b : Budget) : Prop where
  counted : b.consumed ≤ countLimit
  limited : b.enforced = true → b.consumed ≤ b.limit

theorem exceededBy_iff {b : Budget} {n : Nat} :
    b.exceededBy n = true ↔ b.enforced = true ∧ b.limit < b.after n := by
  simp [exceededBy]

theorem raise_of_not_exceeded {b : Budget} {n : Nat} (fits : b.exceededBy n = false) :
    b.raise n = (.ok (), { b with consumed := b.after n }) := by
  simp [raise, fits]

theorem raise_of_exceeded {b : Budget} {n : Nat} (exceeded : b.exceededBy n = true) :
    b.raise n = (.error (.conditions b.limit), { b with consumed := b.limit }) := by
  simp [raise, exceeded]

/-- Counting nothing changes nothing. -/
theorem Within.raise_zero {b : Budget} (within : b.Within) : b.raise 0 = (.ok (), b) := by
  have unchanged : b.after 0 = b.consumed := Nat.min_eq_left within.counted
  have fits : ¬ b.exceededBy 0 = true := by
    rw [exceededBy_iff, unchanged]
    rintro ⟨enforced, less⟩
    exact absurd (within.limited enforced) (Nat.not_le_of_lt less)
  rw [raise_of_not_exceeded (Bool.not_eq_true _ ▸ fits), unchanged]

/-- What a budget becomes by counting, if it suffices, is a count that it can have. -/
theorem within_of_raise {b charged : Budget} {n : Nat}
    (raised : b.raise n = (.ok (), charged)) : charged.Within := by
  by_cases exceeded : b.exceededBy n = true
  · rw [raise_of_exceeded exceeded] at raised
    cases raised
  · rw [Bool.not_eq_true] at exceeded
    rw [raise_of_not_exceeded exceeded] at raised
    cases raised
    constructor
    · exact Nat.min_le_right _ _
    · intro enforced
      have fits : ¬ b.limit < b.after n := by
        intro less
        have exceeds : b.exceededBy n = true := exceededBy_iff.mpr ⟨enforced, less⟩
        rw [exceeded] at exceeds
        contradiction
      exact Nat.le_of_not_lt fits

theorem after_add (b : Budget) (m n : Nat) :
    b.after (m + n) = { b with consumed := b.after m }.after n := by
  simp only [after]
  omega

/-- Counting in two parts is counting at once. -/
theorem raise_add (b : Budget) (m n : Nat) :
    b.raise (m + n) =
      match b.raise m with
      | (.ok (), charged) => charged.raise n
      | (.error o, charged) => (.error o, charged) := by
  by_cases first : b.exceededBy m = true
  · have whole : b.exceededBy (m + n) = true := by
      rw [exceededBy_iff] at first ⊢
      obtain ⟨enforced, less⟩ := first
      simp only [after] at less ⊢
      exact ⟨enforced, by omega⟩
    rw [raise_of_exceeded first, raise_of_exceeded whole]
  · rw [Bool.not_eq_true] at first
    rw [raise_of_not_exceeded first]
    have same : b.exceededBy (m + n) = { b with consumed := b.after m }.exceededBy n := by
      rw [exceededBy, after_add]
      rfl
    simp only [raise, same, after_add]

end Budget

namespace Rule

open Variable (Host)

/-! ## The conditions of an evaluation -/

/-- From a state a computation counts `n` conditions: under a budget that suffices
it ends with an outcome and a state, but for the budget, and under any other it fails
with the limit. -/
def Spends {α : Type} (x : Eval α) (s : State) (n : Nat) (outcome : Except Failure α)
    (finish : State) : Prop :=
  ∀ b : Budget, b.Within →
    match b.raise n with
    | (.ok (), charged) =>
        x.run.run { s with budget := b } = (outcome, { finish with budget := charged })
    | (.error o, charged) =>
        (x.run.run { s with budget := b }).1 = .error (.fault (.overrun o)) ∧
          (x.run.run { s with budget := b }).2.budget = charged

/-- A computation that does not look at the budget counts nothing. -/
theorem exists_spends_of_blind {α : Type} {x : Eval α} {s : State}
    (blind : ∀ b, x.run.run { s with budget := b } =
      ((x.run.run s).1, { (x.run.run s).2 with budget := b })) :
    ∃ n outcome finish, Spends x s n outcome finish := by
  refine ⟨0, (x.run.run s).1, (x.run.run s).2, fun b within => ?_⟩
  rw [within.raise_zero]
  exact blind b

theorem readVariable_blind (host : Host) (span : Span) (name : String) (s : State)
    (b : Budget) :
    (Eval.readVariable host span name).run.run { s with budget := b } =
      (((Eval.readVariable host span name).run.run s).1,
        { ((Eval.readVariable host span name).run.run s).2 with budget := b }) := by
  simp only [run_readVariable, run_reading]
  split
  · rfl
  · split
    · rfl
    · split
      · rfl
      · split <;> rfl

theorem spends_count (s : State) : Spends Eval.count s 1 (.ok ()) s := by
  intro b _
  rw [run_count]
  rcases raised : b.raise 1 with ⟨outcome, charged⟩
  cases outcome with
  | ok => rfl
  | error o => exact ⟨rfl, rfl⟩

theorem Spends.bind_of_ok {α β : Type} {x : Eval α} {f : α → Eval β} {s t : State}
    {m n : Nat} {a : α} {outcome : Except Failure β} {finish : State}
    (first : Spends x s m (.ok a) t) (rest : Spends (f a) t n outcome finish) :
    Spends (x >>= f) s (m + n) outcome finish := by
  intro b within
  have firstRun := first b within
  rw [Budget.raise_add]
  rcases raised : b.raise m with ⟨answer, charged⟩
  rw [raised] at firstRun
  cases answer with
  | ok =>
      have restRun := rest charged (Budget.within_of_raise raised)
      rw [run_bind_of_ok firstRun]
      exact restRun
  | error o =>
      obtain ⟨failed, spent⟩ := firstRun
      rw [run_bind_of_error (Prod.ext failed rfl)]
      exact ⟨rfl, spent⟩

theorem Spends.bind_of_error {α β : Type} {x : Eval α} {f : α → Eval β} {s t : State}
    {n : Nat} {e : Failure} (first : Spends x s n (.error e) t) :
    Spends (x >>= f) s n (.error e) t := by
  intro b within
  have firstRun := first b within
  rcases raised : b.raise n with ⟨answer, charged⟩
  rw [raised] at firstRun
  cases answer with
  | ok => exact run_bind_of_error firstRun
  | error o =>
      obtain ⟨failed, spent⟩ := firstRun
      dsimp only
      rw [run_bind_of_error (Prod.ext failed rfl)]
      exact ⟨rfl, spent⟩

/-- Whatever is put together from the steps of evaluations counts a number of
conditions that does not depend on the budget. -/
theorem Composed.spends {host : Host} {α : Type} {x : Eval α} (composed : Composed host x)
    (s : State) : ∃ n outcome finish, Spends x s n outcome finish := by
  induction composed generalizing s with
  | pure a => exact exists_spends_of_blind fun _ => rfl
  | refuse span p => exact exists_spends_of_blind fun _ => rfl
  | count => exact ⟨1, _, s, spends_count s⟩
  | readVariable span name => exact exists_spends_of_blind (readVariable_blind host span name s)
  | findLocal name => exact exists_spends_of_blind fun _ => rfl
  | bindLocal name v => exact exists_spends_of_blind fun _ => rfl
  | clearLocals => exact exists_spends_of_blind fun _ => rfl
  | apply span args body values =>
      refine exists_spends_of_blind fun b => ?_
      simp only [run_apply]
      split
      · rfl
      · split <;> rfl
  | applyKeyword span op left right =>
      refine exists_spends_of_blind fun b => ?_
      simp only [run_applyKeyword]
      split
      · rfl
      · split <;> rfl
  | sequence _ _ first rest =>
      obtain ⟨m, outcome, t, firstSpends⟩ := first s
      cases outcome with
      | error e => exact ⟨m, _, t, firstSpends.bind_of_error⟩
      | ok a =>
          obtain ⟨n, outcome, finish, restSpends⟩ := rest a t
          exact ⟨m + n, outcome, finish, firstSpends.bind_of_ok restSpends⟩

/-! ## Limited and unlimited budgets -/

/-- A computation under a limit, against the same computation under a budget that
only counts. -/
theorem Composed.run_limited {host : Host} {α : Type} {x : Eval α}
    (composed : Composed host x) (s : State) {limit consumed : Nat}
    (limitCounted : limit ≤ Budget.countLimit) (started : consumed ≤ limit) :
    let free := x.run.run { s with budget := .unlimited }
    let bound := x.run.run { s with budget := ⟨limit, consumed, true⟩ }
    let n := free.2.budget.consumed
    n ≤ Budget.countLimit ∧
      (consumed + n ≤ limit ∨ limit = Budget.countLimit →
        bound = (free.1,
          { free.2 with budget := ⟨limit, min (consumed + n) Budget.countLimit, true⟩ })) ∧
      (limit < consumed + n → limit < Budget.countLimit →
        bound.1 = .error (.fault (.overrun (.conditions limit))) ∧
          bound.2.budget = ⟨limit, limit, true⟩) := by
  intro free bound n
  obtain ⟨count, outcome, finish, spends⟩ := composed.spends s
  have freeRun : free = (outcome,
      { finish with budget := ⟨Budget.countLimit, min count Budget.countLimit, false⟩ }) := by
    have run := spends .unlimited ⟨Nat.zero_le _, fun enforced => by contradiction⟩
    have charged : Budget.unlimited.after count = min count Budget.countLimit := by
      rw [Budget.after, Budget.unlimited, Nat.zero_add]
    rw [Budget.raise_of_not_exceeded rfl, charged] at run
    exact run
  have n_eq : n = min count Budget.countLimit := by
    change free.2.budget.consumed = _
    rw [freeRun]
  have boundRun := spends ⟨limit, consumed, true⟩
    ⟨Nat.le_trans started limitCounted, fun _ => started⟩
  refine ⟨by omega, ?_, ?_⟩
  · intro enough
    have fits : Budget.exceededBy ⟨limit, consumed, true⟩ count = false := by
      rw [← Bool.not_eq_true, Budget.exceededBy_iff]
      simp only [Budget.after, true_and]
      omega
    have charged : Budget.after ⟨limit, consumed, true⟩ count =
        min (consumed + n) Budget.countLimit := by
      change min (consumed + count) Budget.countLimit = _
      omega
    rw [Budget.raise_of_not_exceeded fits, charged] at boundRun
    rw [freeRun]
    exact boundRun
  · intro exceeds notLargest
    have exceeded : Budget.exceededBy ⟨limit, consumed, true⟩ count = true := by
      rw [Budget.exceededBy_iff]
      simp only [Budget.after, true_and]
      omega
    rw [Budget.raise_of_exceeded exceeded] at boundRun
    exact boundRun

/-- Under a limit that suffices a rule ends as it does under a budget that only
counts; under a limit that does not, it fails with the limit and has consumed it
exactly.  The largest count is a limit that no count exceeds. -/
theorem evaluate_limited (host : Host) (rule : Rule) (s : State) (limit consumed : Nat)
    (limitCounted : limit ≤ Budget.countLimit) (started : consumed ≤ limit) :
    let free := (evaluate host rule).run.run { s with budget := .unlimited }
    let bound := (evaluate host rule).run.run { s with budget := ⟨limit, consumed, true⟩ }
    let n := free.2.budget.consumed
    (consumed + n ≤ limit →
        bound = (free.1, { free.2 with budget := ⟨limit, consumed + n, true⟩ })) ∧
      (limit < consumed + n → limit < Budget.countLimit →
        bound.1 = .error (.fault (.overrun (.conditions limit))) ∧
          bound.2.budget = ⟨limit, limit, true⟩) ∧
      (limit = Budget.countLimit →
        bound = (free.1,
          { free.2 with budget := ⟨limit, min (consumed + n) Budget.countLimit, true⟩ })) := by
  intro free bound n
  obtain ⟨-, fits, exceeds⟩ :=
    (composed_evaluate host rule).run_limited s limitCounted started
  refine ⟨?_, exceeds, fun largest => fits (.inr largest)⟩
  intro enough
  have counted : min (consumed + n) Budget.countLimit = consumed + n :=
    Nat.min_eq_left (Nat.le_trans enough limitCounted)
  have boundRun := fits (.inl enough)
  rw [counted] at boundRun
  exact boundRun

/-- A comparison, which counts one condition. -/
def oneCondition : Rule :=
  .compare default .eq (.literal default (.int 1)) (.literal default (.int 1))

/-- A comparison fails when the budget is used up. -/
theorem evaluate_limited_oneCondition :
    let bound := (evaluate .none oneCondition).run.run
      { (default : State) with budget := ⟨5, 5, true⟩ }
    bound.1 = .error (.fault (.overrun (.conditions 5))) ∧ bound.2.budget = ⟨5, 5, true⟩ :=
  (evaluate_limited .none oneCondition default 5 5 (by decide) (by decide)).2.1
    (by decide) (by decide)

/-- A used up budget of the largest count does not stop an evaluation, since counts go
no further. -/
theorem evaluate_at_largest_limit :
    ¬ ∀ (host : Host) (rule : Rule) (s : State) (limit consumed : Nat),
      limit ≤ Budget.countLimit → consumed ≤ limit →
      let free := (evaluate host rule).run.run { s with budget := .unlimited }
      let bound := (evaluate host rule).run.run { s with budget := ⟨limit, consumed, true⟩ }
      let n := free.2.budget.consumed
      (consumed + n ≤ limit →
          bound = (free.1, { free.2 with budget := ⟨limit, consumed + n, true⟩ })) ∧
        (limit < consumed + n →
          bound.1 = .error (.fault (.overrun (.conditions limit))) ∧
            bound.2.budget = ⟨limit, limit, true⟩) := by
  intro unbounded
  obtain ⟨failed, -⟩ := (unbounded .none oneCondition default Budget.countLimit Budget.countLimit
    (Nat.le_refl _) (Nat.le_refl _)).2 (by decide)
  have ended : ((evaluate .none oneCondition).run.run { (default : State) with
      budget := ⟨Budget.countLimit, Budget.countLimit, true⟩ }).1 = .ok (.bool true) := rfl
  rw [ended] at failed
  contradiction

end Rule

end EditGuard
