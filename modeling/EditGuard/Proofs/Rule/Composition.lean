import EditGuard.Proofs.Stateful
import EditGuard.Rule.Evaluation

/-!
# What evaluations are made of

An evaluation is put together from few steps: it counts a condition, reads a
variable of the action, reads or binds a local variable, applies a function or an
operator that may read a pattern, or reports a problem.  What holds of these
steps and is kept by sequencing holds of the evaluation of every rule.
-/

namespace EditGuard.Rule

open Variable (Host Reading)

namespace Eval

/-- Look for a local variable. -/
def findLocal (name : String) : Eval (Option Value) := do
  return (← get).locals.find? name

/-- Forget the local variables. -/
def clearLocals : Eval Unit :=
  modify fun s => { s with locals := .empty }

end Eval

open Eval

/-! ## Running a step -/

@[simp]
theorem run_refuse {α : Type} (span : Span) (p : Problem) (s : State) :
    (refuse span p : Eval α).run.run s = (.error (.finding ⟨p, span⟩), s) :=
  rfl

theorem run_count (s : State) :
    count.run.run s =
      match s.budget.raise 1 with
      | (.ok (), budget) => (.ok (), { s with budget })
      | (.error o, budget) => (.error (.fault (.overrun o)), { s with budget }) := by
  simp only [count, run_get_bind, run_set_bind]
  rcases s.budget.raise 1 with ⟨outcome, budget⟩
  cases outcome <;> rfl

theorem run_reading {α : Type} (r : Reading α) (s : State) :
    (reading r).run.run s =
      match r.run.run s.memory with
      | (.ok a, memory) => (.ok a, { s with memory })
      | (.error f, memory) => (.error (.fault f), { s with memory }) := by
  simp only [reading, run_get_bind]
  rcases r.run.run s.memory with ⟨outcome, memory⟩
  cases outcome <;> rfl

/-- A variable is known if it is builtin, or if the action has it. -/
theorem not_unknown_iff {name : String} {vs : Variables} :
    ¬ (!Variable.isBuiltin name && !vs.has name) = true ↔
      Variable.isBuiltin name = true ∨ vs.has name = true := by
  cases Variable.isBuiltin name <;> cases vs.has name <;> decide

theorem run_readVariable (host : Host) (span : Span) (name : String) (s : State) :
    (readVariable host span name).run.run s =
      match s.locals.find? name with
      | some v => (.ok v, s)
      | none =>
          if Variable.isWithdrawn name then (.error (.finding ⟨.disabledVariable name, span⟩), s)
          else if !Variable.isBuiltin name && !s.memory.vars.has name then
            (.error (.finding ⟨.unrecognisedVariable name, span⟩), s)
          else (reading (Variable.read host name .current)).run.run s := by
  simp only [readVariable, run_get_bind]
  cases s.locals.find? name with
  | some v => rfl
  | none =>
      by_cases withdrawn : Variable.isWithdrawn name
      · simp [withdrawn]
      · by_cases unknown : !Variable.isBuiltin name && !s.memory.vars.has name
        · simp [withdrawn, unknown]
        · simp [withdrawn, unknown]

@[simp]
theorem run_findLocal (name : String) (s : State) :
    (findLocal name).run.run s = (.ok (s.locals.find? name), s) :=
  rfl

@[simp]
theorem run_bindLocal (name : String) (v : Value) (s : State) :
    (Eval.bind name v).run.run s = (.ok (), { s with locals := s.locals.insert name v }) :=
  rfl

@[simp]
theorem run_clearLocals (s : State) :
    clearLocals.run.run s = (.ok (), { s with locals := .empty }) :=
  rfl

theorem run_apply (span : Span) (args : List Rule) (body : Function.Body)
    (values : List Value) (s : State) :
    (apply span args body values).run.run s =
      if values.any Value.isUndefined then (.ok .undefined, s)
      else
        match body.apply values s.patterns with
        | .ok (v, patterns) => (.ok v, { s with patterns })
        | .error refusal =>
            (.error (.finding ⟨refusal.problem, argumentSpan args span refusal.argument⟩), s) := by
  by_cases undefined : values.any Value.isUndefined
  · simp only [apply, if_pos undefined]
    rfl
  · simp only [apply, if_neg undefined, run_get_bind]
    cases body.apply values s.patterns with
    | ok result => rfl
    | error refusal => rfl

theorem run_applyKeyword (span : Span) (op : KeywordOp) (left right : Value) (s : State) :
    (applyKeyword span op left right).run.run s =
      if left.isUndefined || right.isUndefined then (.ok .undefined, s)
      else
        match Function.applyKeyword op left right s.patterns with
        | .ok (b, patterns) => (.ok (.bool b), { s with patterns })
        | .error p => (.error (.finding ⟨p, span⟩), s) := by
  by_cases undefined : left.isUndefined || right.isUndefined
  · simp only [applyKeyword, if_pos undefined]
    rfl
  · simp only [applyKeyword, if_neg undefined, run_get_bind]
    cases Function.applyKeyword op left right s.patterns with
    | ok result => rfl
    | error p => rfl

/-! ## Sequences of steps -/

/-- Computations that are put together from the steps of evaluations. -/
inductive Composed (host : Host) : {α : Type} → Eval α → Prop
  | pure {α : Type} (a : α) : Composed host (pure a)
  | refuse {α : Type} (span : Span) (p : Problem) : Composed host (refuse span p : Eval α)
  | count : Composed host count
  | readVariable (span : Span) (name : String) : Composed host (readVariable host span name)
  | findLocal (name : String) : Composed host (findLocal name)
  | bindLocal (name : String) (v : Value) : Composed host (Eval.bind name v)
  | clearLocals : Composed host clearLocals
  | apply (span : Span) (args : List Rule) (body : Function.Body) (values : List Value) :
      Composed host (apply span args body values)
  | applyKeyword (span : Span) (op : KeywordOp) (left right : Value) :
      Composed host (applyKeyword span op left right)
  | sequence {α β : Type} {x : Eval α} {f : α → Eval β} (first : Composed host x)
      (rest : ∀ a, Composed host (f a)) : Composed host (x >>= f)

namespace Composed

variable {host : Host}

theorem require {α : Type} (span : Span) (outcome : Except Problem α) :
    Composed host (require span outcome) := by
  cases outcome with
  | ok a => exact .pure a
  | error p => exact .refuse span p

theorem requireLocal (span : Span) (name : String) :
    Composed host (requireLocal span name) := by
  unfold Eval.requireLocal
  split
  · exact .refuse span _
  · exact .pure ()

theorem setterTarget (target : Rule) : Composed host (setterTarget target) := by
  unfold Eval.setterTarget
  split
  · exact .refuse _ _
  · exact .sequence (requireLocal _ _) fun _ => .pure _

theorem place (items : List Value) (v : Value) (index : Option (Span × Value)) :
    Composed host (place items v index) := by
  cases index with
  | none => exact .pure _
  | some index => exact .sequence (require _ _) fun _ => .pure _

theorem assignItem (span : Span) (name : String) (current : Value)
    (index : Option (Span × Value)) (v : Value) :
    Composed host (assignItem span name current index v) := by
  unfold Eval.assignItem
  split
  · split
    · exact .sequence (.bindLocal _ _) fun _ => .pure _
    · exact .sequence (place _ _ _) fun _ => .sequence (.bindLocal _ _) fun _ => .pure _
  · exact .pure _
  · exact .refuse _ _

end Composed

/-! ## The evaluation of a rule -/

/-- The local variable is looked for before index and value are evaluated. -/
theorem eval_indexAssign (host : Host) (span : Span) (name : String) (position : Option Rule)
    (value : Rule) :
    eval host (.indexAssign span name position value) = (do
      requireLocal span name
      match ← findLocal name with
      | none => refuse span (.unrecognisedVariable name)
      | some current =>
          let index ← evalIndex host position
          let v ← eval host value
          assignItem span name current index v) :=
  rfl

mutual

/-- The evaluation of every expression is put together from the steps. -/
theorem composed_eval (host : Host) : ∀ e : Rule, Composed host (eval host e)
  | .literal _ v => .pure v
  | .var span name => .readVariable span name
  | .list _ items => .sequence (composed_evalAll host items) fun _ => .pure _
  | .unary _ _ operand => .sequence (composed_eval host operand) fun _ => .require _ _
  | .arith _ _ left right =>
      .sequence (composed_eval host left) fun _ =>
        .sequence (composed_eval host right) fun _ => .require _ _
  | .compare _ _ left right =>
      .sequence .count fun _ => .sequence (composed_eval host left) fun _ =>
        .sequence (composed_eval host right) fun _ => .pure _
  | .logic _ op left right => by
      refine .sequence .count fun _ => .sequence (composed_eval host left) fun a => ?_
      cases op.decided? a with
      | some b => exact .pure _
      | none => exact .sequence (composed_eval host right) fun _ => .pure _
  | .keyword _ _ left right =>
      .sequence .count fun _ => .sequence (composed_eval host left) fun _ =>
        .sequence (composed_eval host right) fun _ => .applyKeyword _ _ _ _
  | .conditional _ condition yes no => by
      refine .sequence .count fun _ => .sequence (composed_eval host condition) fun c => ?_
      split
      · exact .pure _
      · split
        · exact composed_eval host yes
        · exact composed_evalBranch host no
  | .call span function args => by
      refine .sequence .count fun _ => .sequence (.require _ _) fun body => ?_
      split
      · exact composed_evalSetter host args
      · exact .sequence (composed_evalAll host args) fun _ => .apply _ _ _ _
  | .index _ base position => by
      refine .sequence (composed_eval host base) fun v =>
        .sequence (composed_eval host position) fun i => ?_
      split
      · exact .pure _
      · split
        · exact .require _ _
        · exact .refuse _ _
  | .assign _ _ value =>
      .sequence (.requireLocal _ _) fun _ => .sequence (composed_eval host value) fun _ =>
        .sequence (.bindLocal _ _) fun _ => .pure _
  | .indexAssign span name position value => by
      rw [eval_indexAssign]
      refine .sequence (.requireLocal _ _) fun _ => .sequence (.findLocal _) fun current => ?_
      cases current with
      | none => exact .refuse _ _
      | some current =>
          exact .sequence (composed_evalIndex host position) fun _ =>
            .sequence (composed_eval host value) fun _ => .assignItem _ _ _ _ _
  | .sequence _ statements => composed_evalSequence host .null statements

theorem composed_evalAll (host : Host) : ∀ es : List Rule, Composed host (evalAll host es)
  | [] => .pure _
  | e :: es =>
      .sequence (composed_eval host e) fun _ =>
        .sequence (composed_evalAll host es) fun _ => .pure _

theorem composed_evalSequence (host : Host) :
    ∀ (last : Value) (es : List Rule), Composed host (evalSequence host last es)
  | _, [] => .pure _
  | _, e :: es => .sequence (composed_eval host e) fun v => composed_evalSequence host v es

theorem composed_evalBranch (host : Host) :
    ∀ e : Option Rule, Composed host (evalBranch host e)
  | none => .pure _
  | some e => composed_eval host e

theorem composed_evalIndex (host : Host) :
    ∀ e : Option Rule, Composed host (evalIndex host e)
  | none => .pure _
  | some e => .sequence (composed_eval host e) fun _ => .pure _

theorem composed_evalSetter (host : Host) :
    ∀ args : List Rule, Composed host (evalSetter host args)
  | target :: value :: _ =>
      .sequence (.setterTarget target) fun _ => .sequence (composed_eval host value) fun _ =>
        .sequence (.bindLocal _ _) fun _ => .pure _
  | [_] => .pure _
  | [] => .pure _

end

theorem composed_evaluate (host : Host) (rule : Rule) : Composed host (evaluate host rule) :=
  .sequence .clearLocals fun _ => composed_eval host rule

theorem composed_matchesAction (host : Host) (rule : Rule) :
    Composed host (matchesAction host rule) :=
  .sequence (composed_evaluate host rule) fun _ => .pure _

end EditGuard.Rule
