import EditGuard.Proofs.Rule.Budget
import EditGuard.Proofs.Variable.Reading

/-!
# Where limits are exceeded

If the host exceeds no limit itself, then nothing but the budget does.  So an
evaluation that ends with an exceeded limit has consumed its budget, and one that ends
otherwise has ended as it does under a budget that only counts.
-/

namespace EditGuard.Rule

open Variable (Host)

/-- No limit was exceeded. -/
def WithinLimits {α : Type} (outcome : Except Failure α) : Prop :=
  ∀ o, outcome ≠ .error (.fault (.overrun o))

theorem withinLimits_ok {α : Type} (a : α) : WithinLimits (.ok a) := by
  rintro o ⟨⟩

theorem withinLimits_finding {α : Type} (f : Finding) :
    WithinLimits (.error (.finding f) : Except Failure α) := by
  rintro o ⟨⟩

/-- A computation that exceeds no limit while the budget only counts. -/
def Uncut {α : Type} (x : Eval α) : Prop :=
  ∀ s, s.budget.enforced = false →
    WithinLimits (x.run.run s).1 ∧ (x.run.run s).2.budget.enforced = false

namespace Uncut

theorem count : Uncut Eval.count := by
  intro s free
  have fits : s.budget.exceededBy 1 = false := by
    rw [Budget.exceededBy, free, Bool.false_and]
  rw [run_count, Budget.raise_of_not_exceeded fits]
  exact ⟨withinLimits_ok _, free⟩

theorem readVariable {host : Host} (never : host.NeverOverruns) (span : Span) (name : String) :
    Uncut (Eval.readVariable host span name) := by
  intro s free
  rw [run_readVariable]
  cases s.locals.find? name with
  | some v => exact ⟨withinLimits_ok v, free⟩
  | none =>
      by_cases withdrawn : Variable.isWithdrawn name
      · simp only [if_pos withdrawn]
        exact ⟨withinLimits_finding _, free⟩
      · simp only [if_neg withdrawn]
        by_cases unknown : !Variable.isBuiltin name && !s.memory.vars.has name
        · simp only [if_pos unknown]
          exact ⟨withinLimits_finding _, free⟩
        · simp only [if_neg unknown, run_reading]
          have read := Variable.read_ne_overrun never name .current s.memory
          generalize (Variable.read host name .current).run.run s.memory = result at read ⊢
          rcases result with ⟨outcome, memory⟩
          cases outcome with
          | ok v => exact ⟨withinLimits_ok v, free⟩
          | error f =>
              refine ⟨?_, free⟩
              rintro o ⟨⟩
              exact read o rfl

theorem apply (span : Span) (args : List Rule) (body : Function.Body) (values : List Value) :
    Uncut (Eval.apply span args body values) := by
  intro s free
  rw [run_apply]
  by_cases undefined : values.any Value.isUndefined
  · simp only [if_pos undefined]
    exact ⟨withinLimits_ok _, free⟩
  · simp only [if_neg undefined]
    cases body.apply values s.patterns with
    | ok result => exact ⟨withinLimits_ok _, free⟩
    | error refusal => exact ⟨withinLimits_finding _, free⟩

theorem applyKeyword (span : Span) (op : KeywordOp) (left right : Value) :
    Uncut (Eval.applyKeyword span op left right) := by
  intro s free
  rw [run_applyKeyword]
  by_cases undefined : left.isUndefined || right.isUndefined
  · simp only [if_pos undefined]
    exact ⟨withinLimits_ok _, free⟩
  · simp only [if_neg undefined]
    cases Function.applyKeyword op left right s.patterns with
    | ok result => exact ⟨withinLimits_ok _, free⟩
    | error problem => exact ⟨withinLimits_finding _, free⟩

theorem sequence {α β : Type} {x : Eval α} {f : α → Eval β} (first : Uncut x)
    (rest : ∀ a, Uncut (f a)) : Uncut (x >>= f) := by
  intro s free
  obtain ⟨outcome, still⟩ := first s free
  rw [run_bind]
  generalize x.run.run s = result at outcome still ⊢
  rcases result with ⟨answer, t⟩
  cases answer with
  | ok a => exact rest a t still
  | error e =>
      refine ⟨?_, still⟩
      rintro o ⟨⟩
      exact outcome o rfl

end Uncut

/-- Nothing but the budget exceeds a limit in an evaluation. -/
theorem Composed.uncut {host : Host} (never : host.NeverOverruns) {α : Type} {x : Eval α}
    (composed : Composed host x) : Uncut x := by
  induction composed with
  | pure a => exact fun s free => ⟨withinLimits_ok a, free⟩
  | refuse span p => exact fun s free => ⟨withinLimits_finding _, free⟩
  | count => exact .count
  | readVariable span name => exact .readVariable never span name
  | findLocal name => exact fun s free => ⟨withinLimits_ok _, free⟩
  | bindLocal name v => exact fun s free => ⟨withinLimits_ok _, free⟩
  | clearLocals => exact fun s free => ⟨withinLimits_ok _, free⟩
  | apply span args body values => exact .apply span args body values
  | applyKeyword span op left right => exact .applyKeyword span op left right
  | sequence _ _ first rest => exact .sequence first rest

end EditGuard.Rule
