import EditGuard.Proofs.Rule.Checking
import EditGuard.Proofs.Rule.Outcomes

/-!
# Assignments to items

An assignment to an item looks for the list before it evaluates the index and the new item,
and writes that list back.  What these have done to the list themselves is lost.  If they
assign nothing to the variable then nothing is lost.
-/

namespace EditGuard.Rule

open Variable (Host)
open Eval

/-! ## Which local variables an evaluation changes -/

/-- An expression or a part of it gives a local variable a value. -/
inductive Rebinds : Rule → String → Prop
  | assign {span x e} : Rebinds (.assign span x e) x
  | item {span x position e} : Rebinds (.indexAssign span x position e) x
  | setter {span f target value text} (found : Function.find f 2 = .ok .setter)
      (literal : target.literalText? = some text) :
      Rebinds (.call span f [target, value]) (Variable.fold text)
  | operand {e d x} (member : d ∈ e.operands) (inside : Rebinds d x) : Rebinds e x

/-- A computation changes at most the described local variables. -/
def Changes {α : Type} (names : String → Prop) (x : Eval α) : Prop :=
  ∀ s y, ¬names y → (x.run.run s).2.locals.find? y = s.locals.find? y

section Steps

variable {α β : Type} {names : String → Prop}

theorem changes_of_locals {x : Eval α} (same : ∀ s, (x.run.run s).2.locals = s.locals) :
    Changes names x := by
  intro s y _
  rw [same]

theorem changes_pure (a : α) : Changes names (pure a : Eval α) :=
  changes_of_locals fun _ => rfl

theorem changes_refuse (span : Span) (p : Problem) : Changes names (refuse span p : Eval α) :=
  changes_of_locals fun _ => rfl

theorem changes_require (span : Span) (outcome : Except Problem α) :
    Changes names (require span outcome) := by
  cases outcome with
  | ok a => exact changes_pure a
  | error p => exact changes_refuse span p

theorem changes_count : Changes names count := by
  refine changes_of_locals fun s => ?_
  rw [run_count]
  rcases s.budget.raise 1 with ⟨outcome, budget⟩
  cases outcome <;> rfl

theorem changes_readVariable (host : Host) (span : Span) (name : String) :
    Changes names (readVariable host span name) := by
  refine changes_of_locals fun s => ?_
  rw [run_readVariable, run_reading]
  split
  · rfl
  · split
    · rfl
    · split
      · rfl
      · rcases (Variable.read host name .current).run.run s.memory with ⟨outcome, memory⟩
        cases outcome <;> rfl

theorem changes_apply (span : Span) (args : List Rule) (body : Function.Body)
    (values : List Value) : Changes names (apply span args body values) := by
  refine changes_of_locals fun s => ?_
  rw [run_apply]
  split
  · rfl
  · cases body.apply values s.patterns <;> rfl

theorem changes_applyKeyword (span : Span) (op : KeywordOp) (left right : Value) :
    Changes names (applyKeyword span op left right) := by
  refine changes_of_locals fun s => ?_
  rw [run_applyKeyword]
  split
  · rfl
  · cases Function.applyKeyword op left right s.patterns <;> rfl

theorem changes_findLocal (name : String) : Changes names (findLocal name) :=
  changes_of_locals fun _ => rfl

/-- Binding a local variable changes no other one. -/
theorem changes_bindLocal {name : String} (named : names name) (v : Value) :
    Changes names (Eval.bind name v) := by
  intro s y notNamed
  have different : y ≠ name := by
    rintro rfl
    exact notNamed named
  rw [run_bindLocal, Dictionary.find?_insert, if_neg different]

theorem Changes.bind {x : Eval α} {f : α → Eval β} (first : Changes names x)
    (second : ∀ a, Changes names (f a)) : Changes names (x >>= f) := by
  intro s y notNamed
  have kept := first s y notNamed
  rw [run_bind]
  rcases ran : x.run.run s with ⟨failure | a, t⟩
  · rw [ran] at kept
    exact kept
  · rw [ran] at kept
    exact (second a t y notNamed).trans kept

theorem Changes.operand {e d : Rule} {x : Eval α} (changes : Changes (Rebinds d) x)
    (member : d ∈ e.operands := by simp [Expr.operands]) : Changes (Rebinds e) x :=
  fun s y notRebound => changes s y fun rebound => notRebound (.operand member rebound)

theorem changes_requireLocal (span : Span) (name : String) :
    Changes names (requireLocal span name) := by
  unfold requireLocal
  split
  · exact changes_refuse span _
  · exact changes_pure ()

theorem changes_place (items : List Value) (v : Value) (index : Option (Span × Value)) :
    Changes names (place items v index) := by
  cases index with
  | none => exact changes_pure _
  | some index => exact (changes_require _ _).bind fun _ => changes_pure _

theorem changes_assignItem {name : String} (named : names name) (span : Span) (current : Value)
    (index : Option (Span × Value)) (v : Value) :
    Changes names (assignItem span name current index v) := by
  unfold assignItem
  split
  · split
    · exact (changes_bindLocal named _).bind fun _ => changes_pure _
    · exact (changes_place _ _ _).bind fun _ =>
        (changes_bindLocal named _).bind fun _ => changes_pure _
  · exact changes_pure _
  · exact changes_refuse _ _

end Steps

mutual

/-- Evaluating an expression changes at most the local variables that it gives values. -/
theorem changes_eval (host : Host) : ∀ e : Rule, Changes (Rebinds e) (eval host e)
  | .literal _ _ => changes_pure _
  | .var span name => changes_readVariable host span name
  | .list _ items => .bind (changes_evalAll host items fun _ member => member) fun _ =>
      changes_pure _
  | .unary _ _ operand => (changes_eval host operand).operand.bind fun _ => changes_require _ _
  | .arith _ _ left right => (changes_eval host left).operand.bind fun _ =>
      (changes_eval host right).operand.bind fun _ => changes_require _ _
  | .compare _ _ left right => changes_count.bind fun _ =>
      (changes_eval host left).operand.bind fun _ =>
        (changes_eval host right).operand.bind fun _ => changes_pure _
  | .logic _ op left right => by
      refine changes_count.bind fun _ => (changes_eval host left).operand.bind fun a => ?_
      cases op.decided? a with
      | some b => exact changes_pure _
      | none => exact (changes_eval host right).operand.bind fun _ => changes_pure _
  | .keyword _ _ left right => changes_count.bind fun _ =>
      (changes_eval host left).operand.bind fun _ =>
        (changes_eval host right).operand.bind fun _ => changes_applyKeyword _ _ _ _
  | .conditional _ condition yes no => by
      refine changes_count.bind fun _ => (changes_eval host condition).operand.bind fun c => ?_
      split
      · exact changes_pure _
      · split
        · exact (changes_eval host yes).operand
        · refine changes_evalBranch host no fun e member => ?_
          simp [Expr.operands, Option.mem_def.mp member]
  | .call span f args => by
      cases found : Function.find f args.length with
      | error p =>
          rw [eval, found]
          exact changes_count.bind fun _ => changes_refuse span p
      | ok body =>
          by_cases setter : body = .setter
          · subst setter
            rw [eval, found]
            exact changes_count.bind fun _ => changes_evalSetter host args found
          · rw [eval_call found setter]
            exact changes_count.bind fun _ =>
              .bind (changes_evalAll host args fun _ member => member) fun _ =>
                changes_apply _ _ _ _
  | .index _ base position => by
      refine (changes_eval host base).operand.bind fun v =>
        (changes_eval host position).operand.bind fun i => ?_
      split
      · exact changes_pure _
      · split
        · exact changes_require _ _
        · exact changes_refuse _ _
  | .assign _ _ value => (changes_requireLocal _ _).bind fun _ =>
      (changes_eval host value).operand.bind fun _ =>
        (changes_bindLocal .assign _).bind fun _ => changes_pure _
  | .indexAssign span name position value => by
      rw [eval_indexAssign]
      refine (changes_requireLocal _ _).bind fun _ => (changes_findLocal _).bind fun current => ?_
      cases current with
      | none => exact changes_refuse _ _
      | some current =>
          refine (changes_evalIndex host position fun e member => ?_).bind fun _ =>
            (changes_eval host value).operand.bind fun _ => changes_assignItem .item _ _ _ _
          simp [Expr.operands, Option.mem_def.mp member]
  | .sequence _ statements => changes_evalSequence host .null statements fun _ member => member
termination_by structural e => e

theorem changes_evalAll (host : Host) {e : Rule} : ∀ es : List Rule, (∀ d ∈ es, d ∈ e.operands) →
    Changes (Rebinds e) (evalAll host es)
  | [], _ => changes_pure _
  | d :: ds, operands =>
      ((changes_eval host d).operand (operands d List.mem_cons_self)).bind fun _ =>
        (changes_evalAll host ds fun _ member => operands _ (List.mem_cons_of_mem _ member)).bind
          fun _ => changes_pure _
termination_by structural es => es

theorem changes_evalSequence (host : Host) {e : Rule} : ∀ (last : Value) (es : List Rule),
    (∀ d ∈ es, d ∈ e.operands) → Changes (Rebinds e) (evalSequence host last es)
  | _, [], _ => changes_pure _
  | _, d :: ds, operands =>
      ((changes_eval host d).operand (operands d List.mem_cons_self)).bind fun v =>
        changes_evalSequence host v ds fun _ member => operands _ (List.mem_cons_of_mem _ member)
termination_by structural _ es => es

theorem changes_evalBranch (host : Host) {e : Rule} : ∀ d : Option Rule,
    (∀ c ∈ d, c ∈ e.operands) → Changes (Rebinds e) (evalBranch host d)
  | none, _ => changes_pure _
  | some d, operand => (changes_eval host d).operand (operand d rfl)
termination_by structural d => d

theorem changes_evalIndex (host : Host) {e : Rule} : ∀ d : Option Rule,
    (∀ c ∈ d, c ∈ e.operands) → Changes (Rebinds e) (evalIndex host d)
  | none, _ => changes_pure _
  | some d, operand => ((changes_eval host d).operand (operand d rfl)).bind fun _ =>
      changes_pure _
termination_by structural d => d

theorem changes_evalSetter (host : Host) {span : Span} {f : String} : ∀ args : List Rule,
    Function.find f args.length = .ok .setter →
      Changes (Rebinds (.call span f args)) (evalSetter host args)
  | [target, value], found => by
      rw [evalSetter]
      cases literal : target.literalText? with
      | none =>
          have refused : setterTarget target = refuse target.mark .nameNotLiteral := by
            rw [setterTarget, literal]
          rw [refused]
          exact changes_refuse _ _
      | some text =>
          cases isLocal : Variable.isBuiltin (Variable.fold text) with
          | false =>
              rw [setterTarget_of_literal literal isLocal, pure_bind]
              exact (changes_eval host value).operand.bind fun _ =>
                (changes_bindLocal (.setter found literal) _).bind fun _ => changes_pure _
          | true =>
              have refused : setterTarget target =
                  refuse target.mark (.overridesBuiltin (Variable.fold text)) := by
                rw [setterTarget, literal]
                simp only [requireLocal, isLocal, if_true]
                rfl
              rw [refused]
              exact changes_refuse _ _
  | _ :: _ :: _ :: _, found => absurd (Function.eq_two_of_setter found) (by simp)
  | [_], found => absurd (Function.eq_two_of_setter found) (by simp)
  | [], found => absurd (Function.eq_two_of_setter found) (by simp)
termination_by structural args => args

end

theorem find?_of_evalIndex (host : Host) {name : String} (position : Option Rule)
    (keeps : ∀ e ∈ position, ¬Rebinds e name) (s : State) :
    ((evalIndex host position).run.run s).2.locals.find? name = s.locals.find? name := by
  cases position with
  | none => rfl
  | some e =>
      exact Changes.bind (changes_eval host e) (fun v => changes_pure (some (e.mark, v))) s name
        (keeps e rfl)

/-! ## What an assignment to an item writes -/

/-- The list with its item at a place replaced, or with one more item where no place is
given; none if it has no such place. -/
def updated? (items : List Value) (w : Value) : Option Value → Option (List Value)
  | none => some (items ++ [w])
  | some i =>
      match placeOf i items.length with
      | .ok place => some (items.set place w)
      | .error _ => none

/-- There is an index, and it is undefined. -/
def UndefinedIndex (index : Option (Span × Value)) : Prop :=
  (index.map fun i => i.2.isUndefined).getD false = true

section Writing

variable {host : Host} {span : Span} {name : String} {s t : State} {v w current : Value}
  {index : Option (Span × Value)} {position : Option Rule} {value : Rule}

theorem updated?_of_place {items new : List Value}
    (ran : (place items w index).run.run s = (.ok new, t)) :
    t = s ∧ updated? items w (index.map Prod.snd) = some new := by
  cases index with
  | none =>
      cases ran
      exact ⟨rfl, rfl⟩
  | some index =>
      rw [place] at ran
      obtain ⟨i, u, required, ran⟩ := exists_of_run_bind_eq_ok ran
      cases ran
      cases placed : placeOf index.2 items.length with
      | error p =>
          rw [placed] at required
          cases required
      | ok j =>
          rw [placed] at required
          cases required
          refine ⟨rfl, ?_⟩
          rw [Option.map_some, updated?, placed]

/-- An assignment to an item of what a variable has held: nothing happens to an undefined
value, an undefined index makes the variable undefined, and otherwise it holds the list with
its new item. -/
theorem cases_of_assignItem (ran : (assignItem span name current index w).run.run s = (.ok v, t)) :
    (current = .undefined ∧ v = .undefined ∧ t = s) ∨
      ∃ items, current = .list items ∧
        ((UndefinedIndex index ∧ v = .undefined ∧
            t = { s with locals := s.locals.insert name .undefined }) ∨
          (¬UndefinedIndex index ∧ v = w ∧
            ∃ new, updated? items w (index.map Prod.snd) = some new ∧
              t = { s with locals := s.locals.insert name (.list new) })) := by
  unfold assignItem at ran
  split at ran
  · rename_i items
    refine .inr ⟨items, rfl, ?_⟩
    split at ran
    · rename_i undefined
      cases ran
      exact .inl ⟨undefined, rfl, rfl⟩
    · rename_i defined
      obtain ⟨new, u, placed, rest⟩ := exists_of_run_bind_eq_ok ran
      obtain ⟨rfl, updated⟩ := updated?_of_place placed
      cases rest
      exact .inr ⟨defined, rfl, new, updated, rfl⟩
  · cases ran
    exact .inl ⟨rfl, rfl, rfl⟩
  · cases ran

/-- The value of the variable is found before the index and the new item are evaluated. -/
theorem exists_of_indexAssign
    (ran : (eval host (.indexAssign span name position value)).run.run s = (.ok v, t)) :
    ∃ current index middle w after, s.locals.find? name = some current ∧
      (evalIndex host position).run.run s = (.ok index, middle) ∧
      (eval host value).run.run middle = (.ok w, after) ∧
      (assignItem span name current index w).run.run after = (.ok v, t) := by
  rw [eval_indexAssign] at ran
  obtain ⟨_, u, allowed, rest⟩ := exists_of_run_bind_eq_ok ran
  have same : u = s := by
    unfold requireLocal at allowed
    split at allowed
    · cases allowed
    · cases allowed
      rfl
  subst same
  obtain ⟨found, u, looked, rest⟩ := exists_of_run_bind_eq_ok rest
  rw [run_findLocal] at looked
  cases looked
  split at rest
  · cases rest
  · rename_i current found
    obtain ⟨index, middle, indexRan, rest⟩ := exists_of_run_bind_eq_ok rest
    obtain ⟨w, after, valueRan, rest⟩ := exists_of_run_bind_eq_ok rest
    exact ⟨current, index, middle, w, after, found, indexRan, valueRan, rest⟩

end Writing

/-- If a variable holds a list in one state, then it holds the updated list in another one. -/
def Updates (name : String) (index : Option Value) (w : Value) (after t : State) : Prop :=
  ∀ items, after.locals.find? name = some (.list items) →
    ∃ new, updated? items w index = some new ∧ t.locals.find? name = some (.list new)

/-- An assignment to an item with an index that is not undefined.  The list that the variable
has held before the index and the new item were evaluated is written back with the new item,
and every other local variable is as these have left it.  This is an update of the list that
the variable holds after them if they have left it as it was, and so they do if they give it
no value themselves. -/
theorem indexAssign_writes_back {host : Host} {span : Span} {name : String}
    {position : Option Rule} {value : Rule} {s t : State} {v : Value}
    (ran : (eval host (.indexAssign span name position value)).run.run s = (.ok v, t)) :
    ∃ current index middle w after, s.locals.find? name = some current ∧
      (evalIndex host position).run.run s = (.ok index, middle) ∧
      (eval host value).run.run middle = (.ok w, after) ∧
      (∀ other ≠ name, t.locals.find? other = after.locals.find? other) ∧
      (¬UndefinedIndex index →
        (current = .undefined ∧ v = .undefined ∧ t = after) ∨
          ∃ items new, current = .list items ∧ v = w ∧
            updated? items w (index.map Prod.snd) = some new ∧
              t.locals.find? name = some (.list new)) ∧
      (¬UndefinedIndex index → after.locals.find? name = s.locals.find? name →
        Updates name (index.map Prod.snd) w after t) ∧
      ((∀ e ∈ position, ¬Rebinds e name) → ¬Rebinds value name →
        after.locals.find? name = s.locals.find? name) := by
  obtain ⟨current, index, middle, w, after, found, indexRan, valueRan, assigned⟩ :=
    exists_of_indexAssign ran
  have inserted : ∀ (u : Value) other, (after.locals.insert name u).find? other =
      if other = name then some u else after.locals.find? other :=
    fun u other => Dictionary.find?_insert after.locals name other u
  have outcomes := cases_of_assignItem assigned
  refine ⟨current, index, middle, w, after, found, indexRan, valueRan, ?_, ?_, ?_, ?_⟩
  · intro other different
    rcases outcomes with ⟨-, -, rfl⟩ | ⟨items, -, ⟨-, -, rfl⟩ | ⟨-, -, new, -, rfl⟩⟩
    · rfl
    · rw [inserted, if_neg different]
    · rw [inserted, if_neg different]
  · intro defined
    rcases outcomes with undefined | ⟨items, same, ⟨undefined, -⟩ | ⟨-, value, new, updated, rfl⟩⟩
    · exact .inl undefined
    · exact absurd undefined defined
    · refine .inr ⟨items, new, same, value, updated, ?_⟩
      rw [inserted, if_pos rfl]
  · intro defined unchanged items held
    -- The list that was found is still the present one.
    cases held.symm.trans (unchanged.trans found)
    rcases outcomes with ⟨contra, -⟩ | ⟨_, same, ⟨undefined, -⟩ | ⟨-, -, new, updated, rfl⟩⟩
    · cases contra
    · exact absurd undefined defined
    · cases same
      refine ⟨new, updated, ?_⟩
      rw [inserted, if_pos rfl]
  · intro positionKeeps valueKeeps
    have first := find?_of_evalIndex host position positionKeeps s
    have second := changes_eval host value middle name valueKeeps
    rw [indexRan] at first
    rw [valueRan] at second
    exact second.trans first

/-- One local variable, which holds a list of one number. -/
def oneList : State :=
  { (default : State) with locals := Dictionary.empty.insert "x" (.list [.int 1]) }

/-- A number is written over the other one. -/
theorem indexAssign_writes_back_first :
    ∃ t, (eval .none (.indexAssign default "x" (some (.literal default (.int 0)))
        (.literal default (.int 5)))).run.run oneList = (.ok (.int 5), t) ∧
      t.locals.find? "x" = some (.list [.int 5]) := by
  obtain ⟨t, ran⟩ : ∃ t, (eval .none (.indexAssign default "x"
      (some (.literal default (.int 0))) (.literal default (.int 5)))).run.run oneList =
        (.ok (.int 5), t) := ⟨_, rfl⟩
  refine ⟨t, ran, ?_⟩
  obtain ⟨current, index, middle, w, after, found, indexRan, valueRan, -, written, -, -⟩ :=
    indexAssign_writes_back ran
  cases indexRan
  cases valueRan
  cases found
  rcases written (by simp [UndefinedIndex, Value.isUndefined]) with
    ⟨contra, -⟩ | ⟨items, new, same, -, updated, held⟩
  · cases contra
  · cases same
    cases updated
    exact held

/-- What the new item does to the list itself is lost: the outer assignment appends to the list
with one number, although the variable holds two numbers by then. -/
theorem indexAssign_loses_update :
    let inner : Rule := .indexAssign default "x" none (.literal default (.int 2))
    (eval .none (.assign default "x" (.list default [.literal default (.int 1)]))).run.run default =
        (.ok (.list [.int 1]), oneList) ∧
      ∃ after t, (eval .none inner).run.run oneList = (.ok (.int 2), after) ∧
        (eval .none (.indexAssign default "x" none inner)).run.run oneList = (.ok (.int 2), t) ∧
        after.locals.find? "x" = some (.list [.int 1, .int 2]) ∧
        t.locals.find? "x" = some (.list [.int 1, .int 2]) ∧
        ¬Updates "x" none (.int 2) after t := by
  refine ⟨rfl, _, _, rfl, rfl, rfl, rfl, fun updates => ?_⟩
  obtain ⟨new, updated, held⟩ := updates _ rfl
  cases updated
  cases held

end EditGuard.Rule
