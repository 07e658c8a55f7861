import EditGuard.Proofs.Rule.Composition

/-!
# How evaluations end

An evaluation from a state ends in a value and a state, or it raises a finding, or a fault
from outside of the rule stops it.  Here is said which values and which findings to expect,
one step after the other.
-/

namespace EditGuard.Rule

open Variable (Host)

/-! ## Problems of values -/

/-- A problem that depends on the values that an operation is applied to. -/
def Problem.isOfValues : Problem → Bool
  | divisionByZero _ | listInArithmetic | notList | negativeIndex _ | indexOutOfBounds _ _
  | badAddressRange _ => true
  | _ => false

theorem UnaryOp.isOfValues_of_apply {op : UnaryOp} {v : Value} {p : Problem}
    (refused : op.apply v = .error p) : p.isOfValues := by
  unfold UnaryOp.apply at refused
  split at refused
  · cases refused
  · split at refused
    · cases refused
    all_goals
      split at refused <;> cases refused
      rfl

theorem ArithOp.isOfValues_of_apply {op : ArithOp} {a b : Value} {p : Problem}
    (refused : op.apply a b = .error p) : p.isOfValues := by
  unfold ArithOp.apply at refused
  split at refused
  · cases refused
  split at refused
  · cases refused
  unfold ArithOp.applyNumbers at refused
  split at refused
  · split at refused <;> cases refused
    rfl
  · cases refused
    rfl

theorem isOfValues_of_placeOf {v : Value} {length : Nat} {p : Problem}
    (refused : placeOf v length = .error p) : p.isOfValues := by
  unfold placeOf at refused
  dsimp only at refused
  split at refused
  · cases refused
    rfl
  · split at refused <;> cases refused
    rfl

theorem isOfValues_of_itemAt {items : List Value} {v : Value} {p : Problem}
    (refused : itemAt items v = .error p) : p.isOfValues := by
  unfold itemAt at refused
  cases place : placeOf v items.length with
  | ok i =>
      rw [place] at refused
      cases refused
  | error q =>
      rw [place] at refused
      cases refused
      exact isOfValues_of_placeOf place

namespace Eval

variable {α β : Type} {s : State}

/-- A computation from a state ends as described, or raises a finding as described, or is
stopped by a fault. -/
def Ends (x : Eval α) (s : State) (post : α → State → Prop) (raised : Finding → State → Prop) :
    Prop :=
  match x.run.run s with
  | (.ok a, t) => post a t
  | (.error (.finding f), t) => raised f t
  | (.error (.fault _), _) => True

variable {post : α → State → Prop} {raised : Finding → State → Prop}

theorem ends_iff {x : Eval α} :
    Ends x s post raised ↔
      (∀ a t, x.run.run s = (.ok a, t) → post a t) ∧
        ∀ f t, x.run.run s = (.error (.finding f), t) → raised f t := by
  unfold Ends
  rcases x.run.run s with ⟨_ | a, t⟩
  · rename_i failure
    cases failure with
    | finding f =>
        constructor
        · intro holds
          refine ⟨nofun, ?_⟩
          rintro _ _ ⟨⟩
          exact holds
        · rintro ⟨-, holds⟩
          exact holds f t rfl
    | fault f =>
        constructor
        · intro _
          exact ⟨nofun, nofun⟩
        · intro _
          trivial
  · constructor
    · intro holds
      refine ⟨?_, nofun⟩
      rintro _ _ ⟨⟩
      exact holds
    · rintro ⟨holds, -⟩
      exact holds a t rfl

theorem Ends.mono {x : Eval α} {post' : α → State → Prop} {raised' : Finding → State → Prop}
    (ends : Ends x s post raised)
    (posts : ∀ a t, x.run.run s = (.ok a, t) → post a t → post' a t)
    (raises : ∀ f t, raised f t → raised' f t) : Ends x s post' raised' := by
  rw [ends_iff] at ends ⊢
  constructor
  · intro a t ran
    exact posts a t ran (ends.1 a t ran)
  · intro f t ran
    exact raises f t (ends.2 f t ran)

/-- One computation after the other: the second starts where the first has ended. -/
theorem Ends.bind {x : Eval α} {f : α → Eval β} {after : β → State → Prop}
    (first : Ends x s post raised)
    (second : ∀ a t, x.run.run s = (.ok a, t) → post a t → Ends (f a) t after raised) :
    Ends (x >>= f) s after raised := by
  unfold Ends at first ⊢
  rw [run_bind]
  rcases ran : x.run.run s with ⟨failure | a, t⟩
  · rw [ran] at first
    cases failure <;> exact first
  · rw [ran] at first
    exact second a t ran first

/-! ## Steps -/

theorem ends_pure {a : α} (holds : post a s) : Ends (pure a) s post raised :=
  holds

theorem ends_refuse {span : Span} {p : Problem} (holds : raised ⟨p, span⟩ s) :
    Ends (refuse span p) s post raised :=
  holds

theorem ends_require {span : Span} {outcome : Except Problem α}
    (result : ∀ a, outcome = .ok a → post a s)
    (problem : ∀ p, outcome = .error p → raised ⟨p, span⟩ s) :
    Ends (require span outcome) s post raised := by
  cases outcome with
  | ok a => exact ends_pure (result a rfl)
  | error p => exact ends_refuse (problem p rfl)

/-- Counting a condition leaves the local variables alone and finds nothing. -/
theorem ends_count : Ends count s (fun _ t => t.locals = s.locals) raised := by
  rw [Ends, run_count]
  rcases s.budget.raise 1 with ⟨outcome, budget⟩
  cases outcome with
  | ok => rfl
  | error o => trivial

theorem ends_readVariable {host : Host} {span : Span} {name : String}
    {post : Value → State → Prop}
    (value : ∀ v t, t.locals = s.locals → post v t)
    (disabled : s.locals.find? name = none → Variable.isWithdrawn name = true →
      raised ⟨.disabledVariable name, span⟩ s)
    (unrecognised : s.locals.find? name = none → Variable.isBuiltin name = false →
      raised ⟨.unrecognisedVariable name, span⟩ s) :
    Ends (readVariable host span name) s post raised := by
  rw [Ends, run_readVariable]
  cases unbound : s.locals.find? name with
  | some v => exact value v s rfl
  | none =>
      by_cases withdrawn : Variable.isWithdrawn name
      · rw [if_pos withdrawn]
        exact disabled unbound withdrawn
      rw [if_neg withdrawn]
      by_cases unknown : !Variable.isBuiltin name && !s.memory.vars.has name
      · rw [if_pos unknown]
        rw [Bool.and_eq_true, Bool.not_eq_true'] at unknown
        exact unrecognised unbound unknown.1
      · rw [if_neg unknown, run_reading]
        rcases (Variable.read host name .current).run.run s.memory with ⟨outcome, memory⟩
        cases outcome with
        | ok v => exact value v _ rfl
        | error f => trivial

theorem ends_apply {span : Span} {args : List Rule} {body : Function.Body} {values : List Value}
    {post : Value → State → Prop} (value : ∀ v t, t.locals = s.locals → post v t)
    (refused : ∀ refusal, body.apply values s.patterns = .error refusal →
      raised ⟨refusal.problem, argumentSpan args span refusal.argument⟩ s) :
    Ends (apply span args body values) s post raised := by
  rw [Ends, run_apply]
  by_cases undefined : values.any Value.isUndefined
  · rw [if_pos undefined]
    exact value .undefined s rfl
  · rw [if_neg undefined]
    cases applied : body.apply values s.patterns with
    | ok result => exact value result.1 _ rfl
    | error refusal => exact refused refusal applied

theorem ends_applyKeyword {span : Span} {op : KeywordOp} {left right : Value}
    {post : Value → State → Prop} (value : ∀ v t, t.locals = s.locals → post v t)
    (refused : ∀ p, Function.applyKeyword op left right s.patterns = .error p →
      raised ⟨p, span⟩ s) :
    Ends (applyKeyword span op left right) s post raised := by
  rw [Ends, run_applyKeyword]
  by_cases undefined : left.isUndefined || right.isUndefined
  · rw [if_pos undefined]
    exact value .undefined s rfl
  · rw [if_neg undefined]
    cases applied : Function.applyKeyword op left right s.patterns with
    | ok result => exact value (.bool result.1) _ rfl
    | error p => exact refused p applied

/-- A local variable may be assigned. -/
theorem requireLocal_of_isLocal {span : Span} {name : String}
    (isLocal : Variable.isBuiltin name = false) : requireLocal span name = pure () := by
  rw [requireLocal, isLocal]
  rfl

/-- A setter whose target is a literal that names a local variable has that variable. -/
theorem setterTarget_of_literal {target : Rule} {text : String}
    (literal : target.literalText? = some text)
    (isLocal : Variable.isBuiltin (Variable.fold text) = false) :
    setterTarget target = pure (Variable.fold text) := by
  rw [setterTarget, literal]
  simp only [requireLocal_of_isLocal isLocal]
  rfl

/-- Assigning an item binds at most the variable itself. -/
theorem ends_assignItem {span : Span} {name : String} {current v : Value}
    {index : Option (Span × Value)} {post : Value → State → Prop}
    (kept : ∀ w, post w s)
    (bound : ∀ w u t, t.locals = s.locals.insert name u → post w t)
    (refused : ∀ p place, p.isOfValues → raised ⟨p, place⟩ s) :
    Ends (assignItem span name current index v) s post raised := by
  unfold assignItem
  split
  · split
    · exact bound _ .undefined _ rfl
    · rename_i items _
      have placed : Ends (place items v index) s (fun _ t => t = s) raised := by
        cases index with
        | none => exact ends_pure rfl
        | some index =>
            apply Ends.bind
            · apply ends_require
              · intro i _
                exact (rfl : s = s)
              · intro p failed
                exact refused p _ (isOfValues_of_placeOf failed)
            · rintro i t - rfl
              exact ends_pure rfl
      refine placed.bind ?_
      rintro items t - rfl
      exact bound _ (.list items) _ rfl
  · exact kept .undefined
  · exact refused .notList span rfl

end Eval

/-! ## Calls and assignments -/

open Eval

variable {host : Host} {span : Span}

/-- A call of a function that is no setter applies it to the values of its arguments. -/
theorem eval_call {f : String} {args : List Rule} {body : Function.Body}
    (found : Function.find f args.length = .ok body) (ordinary : body ≠ .setter) :
    eval host (.call span f args) = (do
      count
      let values ← evalAll host args
      apply span args body values) := by
  rw [eval, found]
  cases body with
  | setter => exact absurd rfl ordinary
  | _ => rfl

/-- A call of a setter assigns the value of its second argument. -/
theorem eval_setter {f : String} {target value : Rule} {text : String}
    (found : Function.find f 2 = .ok .setter)
    (literal : target.literalText? = some text)
    (isLocal : Variable.isBuiltin (Variable.fold text) = false) :
    eval host (.call span f [target, value]) = (do
      count
      let v ← eval host value
      Eval.bind (Variable.fold text) v
      return v) := by
  rw [eval, List.length_cons, List.length_singleton, found]
  change (do count; evalSetter host [target, value]) = _
  rw [evalSetter, setterTarget_of_literal literal isLocal]
  rfl

theorem eval_assign {name : String} {value : Rule} (isLocal : Variable.isBuiltin name = false) :
    eval host (.assign span name value) = (do
      let v ← eval host value
      Eval.bind name v
      return v) := by
  rw [eval, requireLocal_of_isLocal isLocal]
  rfl

theorem eval_assignItem {name : String} {position : Option Rule} {value : Rule}
    (isLocal : Variable.isBuiltin name = false) :
    eval host (.indexAssign span name position value) = (do
      match ← findLocal name with
      | none => refuse span (.unrecognisedVariable name)
      | some current =>
          let index ← evalIndex host position
          let v ← eval host value
          assignItem span name current index v) := by
  rw [eval_indexAssign, requireLocal_of_isLocal isLocal]
  rfl

end EditGuard.Rule
