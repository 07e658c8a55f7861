import EditGuard.Proofs.Rule.Composition
import EditGuard.Proofs.Value.Coherence
import EditGuard.Proofs.Variable.Reading

/-!
# Comparisons in rules

The loose comparison operators of rules go together: of two values without NaN that are both
defined, one is less, or they are equal, or it is greater.
-/

namespace EditGuard.Rule

open Variable (Host)
open Eval

/-- The three operators that tell the order of two values. -/
def orderings : List CompareOp :=
  [.lt, .eq, .gt]

theorem loose_of_mem_orderings : ∀ op ∈ orderings, op ≠ .strictEq ∧ op ≠ .strictNe := by
  decide

/-- The operator that tells an order. -/
def operatorOf : Ordering → CompareOp
  | .lt => .lt
  | .eq => .eq
  | .gt => .gt

/-- A comparison is counted, and then made of the values of its operands. -/
theorem run_compare {host : Host} {s t u w : State} {span : Span} {op : CompareOp}
    {left right : Rule} {a b : Value} (counted : count.run.run s = (.ok (), t))
    (first : (eval host left).run.run t = (.ok a, u))
    (second : (eval host right).run.run u = (.ok b, w)) :
    (eval host (.compare span op left right)).run.run s = (.ok (op.apply a b), w) := by
  have same : eval host (.compare span op left right) = (do
      count
      let a ← eval host left
      let b ← eval host right
      return op.apply a b) := rfl
  rw [same, run_bind_of_ok counted, run_bind_of_ok first, run_bind_of_ok second]
  rfl

section Operands

variable {a b : Value}

/-- Of two values in an order, the operator that tells it is true and the others are not. -/
theorem apply_of_compare? (definedLeft : a.isUndefined = false)
    (definedRight : b.isUndefined = false) {order : Ordering}
    (ordered : a.compare? b = some order) :
    ∀ op ∈ orderings, op.apply a b = .bool (op == operatorOf order) := by
  intro op mem
  have equal := Value.looseEq_eq a b
  simp only [orderings, List.mem_cons, List.not_mem_nil, or_false] at mem
  rcases mem with rfl | rfl | rfl <;> cases order <;>
    simp [CompareOp.apply, definedLeft, definedRight, ordered, equal, operatorOf]

/-- No loose comparison tells anything of an undefined value. -/
theorem apply_of_isUndefined (undefined : (a.isUndefined || b.isUndefined) = true) {op : CompareOp}
    (loose : op ≠ .strictEq ∧ op ≠ .strictNe) : op.apply a b = .undefined := by
  cases op
  case strictEq => exact absurd rfl loose.1
  case strictNe => exact absurd rfl loose.2
  all_goals exact if_pos undefined

/-- At most is less or equal, whatever the operands are. -/
theorem apply_le (a b : Value) :
    CompareOp.le.apply a b =
      LogicOp.or.apply (CompareOp.lt.apply a b) (CompareOp.eq.apply a b) := by
  cases undefined : a.isUndefined || b.isUndefined with
  | true =>
      rw [apply_of_isUndefined undefined (by decide), apply_of_isUndefined undefined (by decide),
        apply_of_isUndefined undefined (by decide)]
      rfl
  | false =>
      simp only [CompareOp.apply, undefined, Value.looseEq_eq, LogicOp.apply]
      rfl

/-- Different is not equal, whatever the operands are. -/
theorem apply_ne (a b : Value) :
    UnaryOp.not.apply (CompareOp.eq.apply a b) = .ok (CompareOp.ne.apply a b) := by
  cases undefined : a.isUndefined || b.isUndefined with
  | true =>
      rw [apply_of_isUndefined undefined (by decide), apply_of_isUndefined undefined (by decide)]
      rfl
  | false =>
      simp only [CompareOp.apply, undefined]
      rfl

end Operands

/-- Loose comparison is coherent. -/
theorem comparison_coherent (a b : Value) :
    (a.looseEq b = true ↔ a.compare? b = some .eq) ∧
    b.compare? a = (a.compare? b).map Ordering.swap ∧
    (a.compare? b = none → a.hasNaN = true ∨ b.hasNaN = true) ∧
    (a.strictEq b = true → a.looseEq b = true) ∧
    (a.hasNaN = false → a.looseEq a = true) ∧
    (a.hasNaN = false → b.hasNaN = false → a.isUndefined = false → b.isUndefined = false →
      ∃ one ∈ orderings, ∀ op ∈ orderings, op.apply a b = .bool (op == one)) ∧
    ((a.isUndefined || b.isUndefined) = true → ∀ op ∈ orderings, op.apply a b = .undefined) ∧
    CompareOp.le.apply a b = LogicOp.or.apply (CompareOp.lt.apply a b) (CompareOp.eq.apply a b) ∧
    UnaryOp.not.apply (CompareOp.eq.apply a b) = .ok (CompareOp.ne.apply a b) ∧
    ∀ {host : Host} {s t u w : State} {span : Span} {op : CompareOp} {left right : Rule},
      count.run.run s = (.ok (), t) → (eval host left).run.run t = (.ok a, u) →
        (eval host right).run.run u = (.ok b, w) →
          (eval host (.compare span op left right)).run.run s = (.ok (op.apply a b), w) := by
  have equal : ∀ a b : Value, a.looseEq b = true ↔ a.compare? b = some .eq := by
    intro a b
    rw [Value.looseEq_eq, beq_iff_eq]
  refine ⟨equal a b, Value.compare?_swap a b, Value.hasNaN_of_compare? a b, ?_, ?_, ?_, ?_,
    apply_le a b, apply_ne a b, run_compare⟩
  · intro same
    exact (equal a b).mpr (Value.compare?_of_strictEq a b same)
  · intro notNaN
    exact (equal a a).mpr (Value.compare?_self a notNaN)
  · intro notNaN notNaNOther definedLeft definedRight
    cases ordered : a.compare? b with
    | none =>
        rcases Value.hasNaN_of_compare? a b ordered with hasNaN | hasNaN
        · rw [notNaN] at hasNaN
          contradiction
        · rw [notNaNOther] at hasNaN
          contradiction
    | some order =>
        exact ⟨operatorOf order, by cases order <;> decide,
          apply_of_compare? definedLeft definedRight ordered⟩
  · intro undefined op mem
    exact apply_of_isUndefined undefined (loose_of_mem_orderings op mem)

/-- A list is in order with one that is equal to it item by item. -/
theorem comparison_coherent_lists :
    ∃ one ∈ orderings, ∀ op ∈ orderings,
      op.apply (.list [.text "1.0", .null]) (.list [.int 1, .text ""]) = .bool (op == one) :=
  (comparison_coherent (.list [.text "1.0", .null]) (.list [.int 1, .text ""])).2.2.2.2.2.1
    rfl rfl rfl rfl

/-! ## Undefined operands -/

/-- A variable that the action may provide and does not have is undefined. -/
theorem readVariable_missing {host : Host} {span : Span} {name : String} {s : State}
    (notLocal : s.locals.find? name = none) (available : Variable.isWithdrawn name = false)
    (builtin : Variable.isBuiltin name = true)
    (missing : s.memory.vars.find? (Variable.ReadMode.current.target name) = none) :
    (readVariable host span name).run.run s = (.ok .undefined, s) := by
  rw [run_readVariable, notLocal]
  simp only [available, builtin, Bool.false_eq_true, if_false, Bool.not_true, Bool.false_and]
  rw [run_reading, Variable.read, run_get_bind, Variable.run_readKept, missing]
  rfl

/-- The comparison of a variable with itself that the action does not have: no operator that
tells an order is true, although no NaN is in the operands. -/
theorem undefined_in_no_order :
    Value.undefined.hasNaN = false ∧ ∀ op ∈ orderings,
      ((evaluate .none (.compare default op (.var default "user_name")
        (.var default "user_name"))).run.run default).1 = .ok .undefined := by
  refine ⟨rfl, fun op mem => ?_⟩
  have counted : ∃ budget, count.run.run { (default : State) with locals := .empty } =
      (.ok (), { (default : State) with locals := .empty, budget }) := ⟨_, rfl⟩
  obtain ⟨budget, counted⟩ := counted
  have operand : (eval .none (.var default "user_name")).run.run
      { (default : State) with locals := .empty, budget } =
        (.ok .undefined, { (default : State) with locals := .empty, budget }) :=
    readVariable_missing rfl (by decide +kernel) (by decide +kernel) rfl
  rw [evaluate, run_modify_bind, run_compare counted operand operand,
    apply_of_isUndefined rfl (loose_of_mem_orderings op mem)]

end EditGuard.Rule
