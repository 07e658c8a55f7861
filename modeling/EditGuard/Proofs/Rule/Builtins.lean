import EditGuard.Proofs.Rule.Definedness
import EditGuard.Proofs.Variable.Naming
import EditGuard.Proofs.Variable.Progress

/-!
# Builtin variables

No form of assignment gives a value to a variable that a host may provide, under this name or
a newer one.  So in every state that an evaluation comes to, such a variable is read from the
variables of the action; and of these nothing changes but that pending ones which were read,
by the rule or on the way, have got values.
-/

namespace EditGuard

/-! ## Names of builtins -/

namespace Variable

/-- Builtins have folded names, and none of them is withdrawn. -/
theorem of_isBuiltin {name : String} (builtin : isBuiltin name = true) :
    fold name = name ∧ isWithdrawn name = false := by
  have providedFolded : ∀ x ∈ provided, fold x = x := by
    simp only [provided, List.forall_mem_cons, List.not_mem_nil, false_implies, implies_true,
      and_true]
    and_intros <;> exact fold_ofList rfl
  have providedAvailable : ∀ x ∈ provided, isWithdrawn x = false := by decide
  have renamedFolded : ∀ pair ∈ renamed, fold pair.1 = pair.1 := by
    simp only [renamed, List.forall_mem_cons, List.not_mem_nil, false_implies, implies_true,
      and_true]
    and_intros <;> exact fold_ofList rfl
  have renamedAvailable : ∀ pair ∈ renamed, isWithdrawn pair.1 = false := by decide
  rw [isBuiltin, Bool.or_eq_true] at builtin
  rcases builtin with isProvided | isRenamed
  · have inside := List.contains_iff_mem.mp isProvided
    exact ⟨providedFolded name inside, providedAvailable name inside⟩
  · obtain ⟨current, replaced⟩ := Option.isSome_iff_exists.mp isRenamed
    have inside := replacement?_eq_some_iff.mp replaced
    exact ⟨renamedFolded _ inside, renamedAvailable _ inside⟩

end Variable

namespace Rule

open Variable (Host Gets)
open Eval

/-! ## What an evaluation comes to -/

/-- The evaluation of an expression comes to evaluate another one, with the states in which the
two start. -/
inductive Visits (host : Host) : Rule → State → Rule → State → Prop
  | here {e s} : Visits host e s e s
  | inside {e s d t p u} (operand : Operand host e s d t) (more : Visits host d t p u) :
      Visits host e s p u

/-- A variable is read from the variables of the action. -/
structure ReadsAction (name : String) (s : State) : Prop where
  notLocal : s.locals.find? name = none
  available : Variable.isWithdrawn name = false
  known : Variable.isBuiltin name = true ∨ s.memory.vars.has name = true

/-- The evaluation of an expression computes a variable of the action: it is read, or another one
is read for which it is needed. -/
def Computes (host : Host) (e : Rule) (s : State) (name : String) (v : Value) : Prop :=
  ∃ span x t, Visits host e s (.var span x) t ∧ ReadsAction x t ∧
    ∃ outcome after trace, Gets host ⟨t.memory, ∅⟩ x .current outcome after trace ∧
      ∃ a ∈ trace, a.name = name ∧ a.Gives v

/-! ## What is kept -/

/-- No local variable has the name of a variable that a host may provide, be it an old name. -/
def NoBuiltins (locals : Dictionary String Value) : Prop :=
  ∀ name, Variable.isBuiltin name = true → locals.find? name = none

/-- From one state to another no local variable with the name of a builtin has come up, and of
the variables of the action the computed ones alone have changed, which were pending. -/
structure Keeps (computed : String → Value → Prop) (s t : State) : Prop where
  locals : NoBuiltins s.locals → NoBuiltins t.locals
  vars : ∀ name, t.memory.vars.find? name = s.memory.vars.find? name ∨
    ∃ c v, s.memory.vars.find? name = some (.pending c) ∧
      t.memory.vars.find? name = some (.value v) ∧ computed name v

namespace Keeps

variable {computed : String → Value → Prop} {s t u : State}

theorem of_same (locals : t.locals = s.locals) (vars : t.memory.vars = s.memory.vars) :
    Keeps computed s t where
  locals none := by
    rw [locals]
    exact none
  vars name := by
    rw [vars]
    exact .inl rfl

theorem refl : Keeps computed s s :=
  of_same rfl rfl

theorem settles (keeps : Keeps computed s t) : Variable.Settles s.memory.vars t.memory.vars := by
  intro name
  rcases keeps.vars name with same | ⟨c, v, pending, value, -⟩
  · exact .inl same
  · exact .inr ⟨c, v, pending, value⟩

theorem trans (first : Keeps computed s t) (second : Keeps computed t u) : Keeps computed s u where
  locals none := second.locals (first.locals none)
  vars name := by
    rcases second.vars name with same | ⟨c, v, pending, value, isComputed⟩
    · rw [same]
      exact first.vars name
    · exact .inr ⟨c, v, first.settles.pending pending, value, isComputed⟩

end Keeps

/-- A computation from a state keeps builtins, however it ends. -/
def Kept {α : Type} (computed : String → Value → Prop) (x : Eval α) (s : State) : Prop :=
  Keeps computed s (x.run.run s).2

section Steps

variable {α β : Type} {computed : String → Value → Prop} {s : State}

/-- One computation after the other: the second starts where the first has ended. -/
theorem Kept.bind {x : Eval α} {f : α → Eval β} (first : Kept computed x s)
    (second : ∀ a t, x.run.run s = (.ok a, t) → Kept computed (f a) t) :
    Kept computed (x >>= f) s := by
  unfold Kept at first ⊢
  rw [run_bind]
  rcases ran : x.run.run s with ⟨failure | a, t⟩
  · rw [ran] at first
    exact first
  · rw [ran] at first
    exact first.trans (second a t ran)

theorem kept_pure (a : α) : Kept computed (pure a : Eval α) s :=
  .refl

theorem kept_refuse (span : Span) (p : Problem) : Kept computed (refuse span p : Eval α) s :=
  .refl

theorem kept_require (span : Span) (outcome : Except Problem α) :
    Kept computed (require span outcome) s := by
  cases outcome with
  | ok a => exact kept_pure a
  | error p => exact kept_refuse span p

theorem kept_count : Kept computed count s := by
  rw [Kept, run_count]
  rcases s.budget.raise 1 with ⟨outcome, budget⟩
  cases outcome <;> exact .of_same rfl rfl

theorem kept_apply (span : Span) (args : List Rule) (body : Function.Body) (values : List Value) :
    Kept computed (apply span args body values) s := by
  rw [Kept, run_apply]
  split
  · exact .refl
  · cases body.apply values s.patterns <;> exact .of_same rfl rfl

theorem kept_applyKeyword (span : Span) (op : KeywordOp) (left right : Value) :
    Kept computed (applyKeyword span op left right) s := by
  rw [Kept, run_applyKeyword]
  split
  · exact .refl
  · cases Function.applyKeyword op left right s.patterns <;> exact .of_same rfl rfl

theorem kept_bindLocal {name : String} (isLocal : Variable.isBuiltin name = false) (v : Value) :
    Kept computed (Eval.bind name v) s where
  locals none builtin isBuiltin := by
    have different : builtin ≠ name := by
      rintro rfl
      rw [isLocal] at isBuiltin
      cases isBuiltin
    rw [run_bindLocal, Dictionary.find?_insert, if_neg different]
    exact none builtin isBuiltin
  vars _ := .inl rfl

/-- What comes after the check that a name is no builtin may rely on it. -/
theorem kept_requireLocal {span : Span} {name : String} {x : Eval α}
    (kept : Variable.isBuiltin name = false → Kept computed x s) :
    Kept computed (requireLocal span name >>= fun _ => x) s := by
  cases builtin : Variable.isBuiltin name with
  | true =>
      rw [requireLocal, if_pos builtin]
      exact .refl
  | false =>
      rw [requireLocal_of_isLocal builtin]
      exact kept builtin

theorem kept_assignItem {name : String} (isLocal : Variable.isBuiltin name = false) (span : Span)
    (current : Value) (index : Option (Span × Value)) (v : Value) :
    Kept computed (assignItem span name current index v) s := by
  unfold assignItem
  split
  · split
    · exact (kept_bindLocal isLocal _).bind fun _ _ _ => kept_pure _
    · have kept_place (items : List Value) : Kept computed (place items v index) s := by
        cases index with
        | none => exact kept_pure _
        | some index => exact (kept_require _ _).bind fun _ _ _ => kept_pure _
      exact (kept_place _).bind fun _ _ _ =>
        (kept_bindLocal isLocal _).bind fun _ _ _ => kept_pure _
  · exact kept_pure _
  · exact kept_refuse _ _

/-- A read of a variable of the action computes what its trace tells. -/
theorem kept_readVariable {host : Host} (span : Span) {name : String}
    (reads : ReadsAction name s → ∀ outcome after trace,
      Gets host ⟨s.memory, ∅⟩ name .current outcome after trace →
        ∀ a ∈ trace, ∀ v, a.Gives v → computed a.name v) :
    Kept computed (readVariable host span name) s := by
  rw [Kept, run_readVariable]
  cases notLocal : s.locals.find? name with
  | some v => exact .refl
  | none =>
      by_cases withdrawn : Variable.isWithdrawn name
      · rw [if_pos withdrawn]
        exact .refl
      rw [if_neg withdrawn]
      by_cases unknown : !Variable.isBuiltin name && !s.memory.vars.has name
      · rw [if_pos unknown]
        exact .refl
      rw [if_neg unknown]
      have known := not_unknown_iff.mp unknown
      obtain ⟨outcome, after, trace, gets⟩ :=
        Variable.exists_gets host ⟨s.memory, ∅⟩ name .current
      have computes :=
        reads ⟨notLocal, Bool.eq_false_iff.mpr withdrawn, known⟩ outcome after trace gets
      have account := gets.account
      have keeps : Keeps computed s { s with memory := after.memory } := by
        refine ⟨fun none => none, fun other => ?_⟩
        by_cases given : ∃ a ∈ trace, ∃ v, a.Gives v ∧ a.name = other
        · obtain ⟨a, mem, v, gives, rfl⟩ := given
          obtain ⟨⟨c, pending⟩, -, value⟩ := account.given a mem v gives
          exact .inr ⟨c, v, pending, value, computes a mem v gives⟩
        · exact .inl (account.kept other fun a mem v gives same => given ⟨a, mem, v, gives, same⟩)
      rw [run_reading, gets.run_read rfl]
      cases outcome <;> exact keeps

end Steps

/-! ## Evaluations -/

variable {host : Host} {computed : String → Value → Prop} {e d : Rule} {s t : State}

/-- What the evaluation of an expression computes is accounted for. -/
def Covers (host : Host) (computed : String → Value → Prop) (e : Rule) (s : State) : Prop :=
  ∀ name v, Computes host e s name v → computed name v

theorem Covers.operand (covers : Covers host computed e s) (operand : Operand host e s d t) :
    Covers host computed d t := by
  rintro name v ⟨span, x, u, visits, reads⟩
  exact covers name v ⟨span, x, u, .inside operand visits, reads⟩

/-- What the evaluations of several expressions, one after the other, compute is accounted
for. -/
def CoversAll (host : Host) (computed : String → Value → Prop) (es : List Rule) (s : State) :
    Prop :=
  ∀ d t, Turn host es s d t → Covers host computed d t

theorem CoversAll.rest {es : List Rule} (covers : CoversAll host computed (e :: es) s) {v : Value}
    (ran : (eval host e).run.run s = (.ok v, t)) : CoversAll host computed es t :=
  fun d u turn => covers d u (.later ran turn)

/-- The evaluation of an expression keeps builtins, from any state. -/
def KeepsBuiltins (host : Host) (e : Rule) : Prop :=
  ∀ {computed : String → Value → Prop} {s : State}, Covers host computed e s →
    Kept computed (eval host e) s

/-- Two expressions that are evaluated one after the other. -/
theorem kept_both {left right : Rule} (first : KeepsBuiltins host left)
    (second : KeepsBuiltins host right) {α : Type} {f : Value → Value → Eval α}
    (covers : CoversAll host computed [left, right] s)
    (rest : ∀ a b t, Kept computed (f a b) t) :
    Kept computed (do let a ← eval host left; let b ← eval host right; f a b) s :=
  (first (covers _ _ .first)).bind fun _ _ ran =>
    (second (covers _ _ (.later ran .first))).bind fun _ _ _ => rest _ _ _

theorem kept_conditional {condition yes : Rule} {no : Option Rule}
    (conditionKeeps : KeepsBuiltins host condition) (yesKeeps : KeepsBuiltins host yes)
    (noKeeps : ∀ b ∈ no, KeepsBuiltins host b) (span : Span) :
    KeepsBuiltins host (.conditional span condition yes no) := by
  intro computed s covers
  apply kept_count.bind
  intro _ t counted
  apply (conditionKeeps (covers.operand (.condition counted))).bind
  intro c u ran
  by_cases undefined : c.isUndefined
  · rw [if_pos undefined]
    exact kept_pure _
  rw [if_neg undefined]
  by_cases holds : c.toBool
  · rw [if_pos holds]
    exact yesKeeps (covers.operand (.yes counted ran holds))
  rw [if_neg holds]
  cases no with
  | none => exact kept_pure _
  | some b =>
      exact noKeeps b rfl (covers.operand
        (.no counted ran (Bool.eq_false_iff.mpr undefined) (Bool.eq_false_iff.mpr holds)))

theorem kept_indexAssign {position : Option Rule} {value : Rule}
    (positionKeeps : ∀ p ∈ position, KeepsBuiltins host p) (valueKeeps : KeepsBuiltins host value)
    (span : Span) (name : String) : KeepsBuiltins host (.indexAssign span name position value) := by
  intro computed s covers
  rw [eval_indexAssign]
  apply kept_requireLocal
  intro isLocal
  unfold Kept
  rw [run_bind, run_findLocal]
  cases bound : s.locals.find? name with
  | none => exact kept_refuse span _
  | some current =>
      cases position with
      | none =>
          exact (valueKeeps (covers.operand (.indexAssign isLocal bound .first))).bind
            fun _ _ _ => kept_assignItem isLocal _ _ _ _
      | some p =>
          have positionKept := positionKeeps p rfl
            (covers.operand (.indexAssign isLocal bound .first))
          apply Kept.bind (positionKept.bind fun _ _ _ => kept_pure _)
          intro index t ran
          obtain ⟨i, u, first, rest⟩ := exists_of_run_bind_eq_ok ran
          cases rest
          have valueKept :=
            valueKeeps (covers.operand (.indexAssign isLocal bound (.later first .first)))
          exact valueKept.bind fun _ _ _ => kept_assignItem isLocal _ _ _ _

mutual

/-- The evaluation of every expression keeps builtins. -/
theorem kept_eval (host : Host) : ∀ e : Rule, KeepsBuiltins host e
  | .literal _ _ => fun _ => kept_pure _
  | .var span name => fun covers =>
      kept_readVariable span fun reads outcome after trace gets a mem v gives =>
        covers a.name v
          ⟨span, name, _, .here, reads, outcome, after, trace, gets, a, mem, rfl, gives⟩
  | .list _ items => fun covers =>
      (kept_evalAll host items fun _ _ turn => covers.operand (.list turn)).bind
        fun _ _ _ => kept_pure _
  | .unary _ _ operand => fun covers =>
      (kept_eval host operand (covers.operand .unary)).bind fun _ _ _ => kept_require _ _
  | .arith _ _ left right => fun covers =>
      kept_both (kept_eval host left) (kept_eval host right)
        (fun _ _ turn => covers.operand (.arith turn)) fun _ _ _ => kept_require _ _
  | .compare _ _ left right => fun covers =>
      kept_count.bind fun _ _ counted =>
        kept_both (kept_eval host left) (kept_eval host right)
          (fun _ _ turn => covers.operand (.compare counted turn)) fun _ _ _ => kept_pure _
  | .logic _ op left right => by
      intro covers
      apply kept_count.bind
      intro _ t counted
      apply (kept_eval host left (covers.operand (.left counted))).bind
      intro a u ran
      cases decided : op.decided? a with
      | some b => exact kept_pure _
      | none =>
          exact (kept_eval host right (covers.operand (.right counted ran decided))).bind
            fun _ _ _ => kept_pure _
  | .keyword _ _ left right => fun covers =>
      kept_count.bind fun _ _ counted =>
        kept_both (kept_eval host left) (kept_eval host right)
          (fun _ _ turn => covers.operand (.keyword counted turn))
          fun _ _ _ => kept_applyKeyword _ _ _ _
  | .conditional span condition yes no =>
      kept_conditional (kept_eval host condition) (kept_eval host yes)
        (fun b member => kept_branch host no b member) span
  | .call span f args => by
      intro covers
      cases found : Function.find f args.length with
      | error p =>
          rw [eval, found]
          exact kept_count.bind fun _ _ _ => kept_refuse span p
      | ok body =>
          by_cases setter : body = .setter
          · subst setter
            rw [eval, found]
            exact kept_count.bind fun _ _ counted => kept_evalSetter host args found covers counted
          · rw [eval_call found setter]
            apply kept_count.bind
            intro _ t counted
            exact (kept_evalAll host args fun _ _ turn =>
              covers.operand (.argument counted found setter turn)).bind
                fun _ _ _ => kept_apply _ _ _ _
  | .index _ base position => by
      intro covers
      refine kept_both (kept_eval host base) (kept_eval host position)
        (fun _ _ turn => covers.operand (.index turn)) ?_
      intro v i u
      split
      · exact kept_pure _
      · split
        · exact kept_require _ _
        · exact kept_refuse _ _
  | .assign _ _ value => fun covers =>
      kept_requireLocal fun isLocal =>
        (kept_eval host value (covers.operand (.assign isLocal))).bind fun _ _ _ =>
          (kept_bindLocal isLocal _).bind fun _ _ _ => kept_pure _
  | .indexAssign span name position value =>
      kept_indexAssign (fun p member => kept_branch host position p member)
        (kept_eval host value) span name
  | .sequence _ statements => fun covers =>
      kept_evalSequence host .null statements fun _ _ turn => covers.operand (.sequence turn)
termination_by structural e => e

theorem kept_evalAll (host : Host) : ∀ (es : List Rule) {computed : String → Value → Prop}
    {s : State}, CoversAll host computed es s → Kept computed (evalAll host es) s
  | [], _, _, _ => kept_pure _
  | e :: es, _, _, covers =>
      (kept_eval host e (covers _ _ .first)).bind fun _ _ ran =>
        (kept_evalAll host es (covers.rest ran)).bind fun _ _ _ => kept_pure _
termination_by structural es => es

theorem kept_evalSequence (host : Host) : ∀ (last : Value) (es : List Rule)
    {computed : String → Value → Prop} {s : State}, CoversAll host computed es s →
      Kept computed (evalSequence host last es) s
  | _, [], _, _, _ => kept_pure _
  | _, e :: es, _, _, covers =>
      (kept_eval host e (covers _ _ .first)).bind fun v _ ran =>
        kept_evalSequence host v es (covers.rest ran)
termination_by structural _ es => es

theorem kept_branch (host : Host) : ∀ e : Option Rule, ∀ d ∈ e, KeepsBuiltins host d
  | none, _, member => by cases member
  | some e, _, member => by
      cases member
      exact kept_eval host e
termination_by structural e => e

theorem kept_evalSetter (host : Host) {span : Span} {f : String} : ∀ (args : List Rule)
    {computed : String → Value → Prop} {s t : State},
      Function.find f args.length = .ok .setter → Covers host computed (.call span f args) s →
        count.run.run s = (.ok (), t) → Kept computed (evalSetter host args) t
  | [target, value], computed, s, t, found, covers, counted => by
      rw [evalSetter]
      cases literal : target.literalText? with
      | none =>
          have refused : setterTarget target = refuse target.mark .nameNotLiteral := by
            rw [setterTarget, literal]
          rw [refused]
          exact kept_refuse _ _
      | some text =>
          have checked : setterTarget target =
              (requireLocal target.mark (Variable.fold text) >>= fun _ =>
                pure (Variable.fold text)) := by
            rw [setterTarget, literal]
          rw [checked, bind_assoc]
          apply kept_requireLocal
          intro isLocal
          exact (kept_eval host value (covers.operand (.setter counted found literal isLocal))).bind
            fun _ _ _ => (kept_bindLocal isLocal _).bind fun _ _ _ => kept_pure _
  | _ :: _ :: _ :: _, _, _, _, found, _, _ => absurd (Function.eq_two_of_setter found) (by simp)
  | [_], _, _, _, found, _, _ => absurd (Function.eq_two_of_setter found) (by simp)
  | [], _, _, _, found, _, _ => absurd (Function.eq_two_of_setter found) (by simp)
termination_by structural args => args

end

/-! ## Everything that an evaluation comes to -/

theorem Kept.of_run {α : Type} {x : Eval α} (kept : Kept computed x s) {outcome : Except Failure α}
    (ran : x.run.run s = (outcome, t)) : Keeps computed s t := by
  rw [Kept, ran] at kept
  exact kept

theorem keeps_turn {es : List Rule} (turn : Turn host es s d t)
    (covers : CoversAll host computed es s) : Keeps computed s t := by
  induction turn with
  | first => exact .refl
  | later ran turn ih =>
      exact ((kept_eval host _ (covers _ _ .first)).of_run ran).trans (ih (covers.rest ran))

/-- Builtins are kept until the evaluation of a part starts. -/
theorem keeps_operand (operand : Operand host e s d t) (covers : Covers host computed e s) :
    Keeps computed s t := by
  have all {es : List Rule} {u : State} (turns : ∀ d t, Turn host es u d t → Operand host e s d t) :
      CoversAll host computed es u := fun d t turn => covers.operand (turns d t turn)
  cases operand with
  | list turn => exact keeps_turn turn (all fun _ _ turn => .list turn)
  | unary => exact .refl
  | arith turn => exact keeps_turn turn (all fun _ _ turn => .arith turn)
  | compare counted turn =>
      exact (kept_count.of_run counted).trans
        (keeps_turn turn (all fun _ _ turn => .compare counted turn))
  | left counted => exact kept_count.of_run counted
  | right counted ran undecided =>
      exact (kept_count.of_run counted).trans
        ((kept_eval host _ (covers.operand (.left counted))).of_run ran)
  | keyword counted turn =>
      exact (kept_count.of_run counted).trans
        (keeps_turn turn (all fun _ _ turn => .keyword counted turn))
  | condition counted => exact kept_count.of_run counted
  | yes counted ran holds =>
      exact (kept_count.of_run counted).trans
        ((kept_eval host _ (covers.operand (.condition counted))).of_run ran)
  | no counted ran defined fails =>
      exact (kept_count.of_run counted).trans
        ((kept_eval host _ (covers.operand (.condition counted))).of_run ran)
  | argument counted found ordinary turn =>
      exact (kept_count.of_run counted).trans
        (keeps_turn turn (all fun _ _ turn => .argument counted found ordinary turn))
  | setter counted found literal isLocal => exact kept_count.of_run counted
  | index turn => exact keeps_turn turn (all fun _ _ turn => .index turn)
  | assign isLocal => exact .refl
  | indexAssign isLocal bound turn =>
      exact keeps_turn turn (all fun _ _ turn => .indexAssign isLocal bound turn)
  | sequence turn => exact keeps_turn turn (all fun _ _ turn => .sequence turn)

/-- Builtins are kept until the evaluation of any part at any depth starts, and what that part
computes is accounted for as well. -/
theorem keeps_visits (visits : Visits host e s d t) (covers : Covers host computed e s) :
    Keeps computed s t ∧ Covers host computed d t := by
  induction visits with
  | here => exact ⟨.refl, covers⟩
  | inside operand more ih =>
      obtain ⟨keeps, covered⟩ := ih (covers.operand operand)
      exact ⟨(keeps_operand operand covers).trans keeps, covered⟩

/-- Where no local variable has the name of a builtin, a builtin is looked up under its current
name among the variables of the action. -/
theorem eval_builtin {span : Span} {name : String} (none : NoBuiltins s.locals)
    (builtin : Variable.isBuiltin name = true) :
    (eval host (.var span name)).run.run s =
      (reading (Variable.readKept host s.memory.vars.pendingNames (Variable.currentName name)
        .current)).run.run s := by
  obtain ⟨folded, available⟩ := Variable.of_isBuiltin builtin
  have target : Variable.ReadMode.current.target name = Variable.currentName name := by
    change Variable.currentName (Variable.fold name) = _
    rw [folded]
  have read : (Variable.read host name .current).run.run s.memory =
      (Variable.readKept host s.memory.vars.pendingNames (Variable.currentName name)
        .current).run.run s.memory := by
    rw [Variable.read, run_get_bind, target]
  rw [eval, run_readVariable, none name builtin]
  simp only [available, builtin, Bool.not_true, Bool.false_and, Bool.false_eq_true, if_false]
  rw [run_reading, run_reading, read]

/-- From one state of an evaluation to another the variables of the action are the same ones:
those that had values have kept them, and any other change is that a pending variable has got
the value that was computed for it. -/
structure OnlyComputes (host : Host) (rule : Rule) (start s : State) : Prop where
  names : s.memory.vars.keys = start.memory.vars.keys
  values : ∀ name v, start.memory.vars.find? name = some (.value v) →
    s.memory.vars.find? name = some (.value v)
  changes : ∀ name, s.memory.vars.find? name ≠ start.memory.vars.find? name →
    ∃ c v, start.memory.vars.find? name = some (.pending c) ∧
      s.memory.vars.find? name = some (.value v) ∧ Computes host rule start name v

theorem Keeps.onlyComputes {rule : Rule} {start : State}
    (keeps : Keeps (Computes host rule start) start s) : OnlyComputes host rule start s where
  names := keeps.settles.keys_eq
  values _ _ := keeps.settles.value
  changes name changed := (keeps.vars name).resolve_left changed

/-- Builtins cannot be given values by a rule.  In every state that the evaluation of a rule comes
to, at the start and at the end of the evaluation of any part, no local variable has the name of
a builtin, and the variables of the action have changed by what was computed alone; so every
read of a builtin is the lookup under its current name, with its value or its fault. -/
theorem evaluate_keeps_builtins (host : Host) (rule : Rule) (s : State) :
    let start := { s with locals := .empty }
    (evaluate host rule).run.run s = (eval host rule).run.run start ∧
    ∀ d t, Visits host rule start d t →
      let after := ((eval host d).run.run t).2
      (NoBuiltins t.locals ∧ NoBuiltins after.locals) ∧
      (OnlyComputes host rule start t ∧ OnlyComputes host rule start after) ∧
      ∀ span name, d = .var span name → Variable.isBuiltin name = true →
        (eval host d).run.run t =
          (reading (Variable.readKept host t.memory.vars.pendingNames (Variable.currentName name)
            .current)).run.run t := by
  intro start
  refine ⟨rfl, fun d t visits => ?_⟩
  obtain ⟨before, covers⟩ := keeps_visits visits fun _ _ computes => computes
  have after := before.trans (kept_eval host d covers)
  have none : NoBuiltins start.locals := fun _ _ => rfl
  refine ⟨⟨before.locals none, after.locals none⟩, ⟨before.onlyComputes, after.onlyComputes⟩, ?_⟩
  rintro span name rfl builtin
  exact eval_builtin (before.locals none) builtin

/-- The age of the user is computed and given to a local variable. -/
theorem evaluate_keeps_builtins_age :
    let host : Host := fun _ _ => .done (.int 42)
    let rule : Rule := .assign default "age" (.var default "user_age")
    let age : Variables :=
      ⟨[("user_age", .pending ⟨.host .userAge, []⟩)], List.pairwise_singleton _ _⟩
    let s : State := { (default : State) with memory := ⟨age, []⟩ }
    let after := ((evaluate host rule).run.run s).2
    NoBuiltins after.locals ∧ OnlyComputes host rule { s with locals := .empty } after ∧
      (eval host (.var default "user_age")).run.run { s with locals := .empty } =
        (reading (Variable.readKept host ["user_age"] "user_age" .current)).run.run
          { s with locals := .empty } := by
  intro host rule age s after
  obtain ⟨-, all⟩ := evaluate_keeps_builtins host rule s
  obtain ⟨⟨-, none⟩, ⟨-, computes⟩, -⟩ := all rule _ .here
  obtain ⟨-, -, reads⟩ := all (.var default "user_age") _ (.inside (.assign (by decide)) .here)
  exact ⟨none, computes, reads default "user_age" rfl (by decide)⟩

end Rule

end EditGuard
