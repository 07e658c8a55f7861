import EditGuard.Proofs.Rule.Comparison
import EditGuard.Proofs.Rule.Spelling

/-!
# Missing variables

A variable that the action does not have is undefined, and so is what an operator makes of it.
Where this is kept up, a rule that has a defined value has read defined variables only, and has
the same value for all actions that agree on these.
-/

namespace EditGuard.Rule

open Variable (Host)
open Eval

/-! ## Undefined operands -/

def IsDefined (v : Value) : Prop :=
  v.isUndefined = false

theorem eq_undefined_of_not_isDefined {v : Value} (undefined : ¬ IsDefined v) : v = .undefined := by
  cases v with
  | undefined => rfl
  | _ => exact absurd rfl undefined

theorem not_isDefined_undefined : ¬ IsDefined .undefined :=
  Bool.noConfusion

theorem UnaryOp.isDefined_of_apply {op : UnaryOp} {v w : Value} (applied : op.apply v = .ok w)
    (defined : IsDefined w) : IsDefined v := by
  by_contra undefined
  rw [eq_undefined_of_not_isDefined undefined] at applied
  cases applied
  exact not_isDefined_undefined defined

section

variable {a b w : Value}

theorem isDefined_of_or (defined : ¬ (a.isUndefined || b.isUndefined) = true) :
    IsDefined a ∧ IsDefined b := by
  rwa [Bool.not_eq_true, Bool.or_eq_false_iff] at defined

theorem ArithOp.isDefined_of_apply {op : ArithOp} (applied : op.apply a b = .ok w)
    (defined : IsDefined w) : IsDefined a ∧ IsDefined b := by
  apply isDefined_of_or
  intro undefined
  rw [ArithOp.apply, if_pos undefined] at applied
  cases applied
  exact not_isDefined_undefined defined

theorem CompareOp.isDefined_of_apply {op : CompareOp} (loose : op ≠ .strictEq ∧ op ≠ .strictNe)
    (defined : IsDefined (op.apply a b)) : IsDefined a ∧ IsDefined b := by
  apply isDefined_of_or
  intro undefined
  rw [apply_of_isUndefined undefined loose] at defined
  exact not_isDefined_undefined defined

theorem LogicOp.isDefined_of_apply {op : LogicOp} (defined : IsDefined (op.apply a b)) :
    IsDefined a ∧ IsDefined b := by
  apply isDefined_of_or
  intro undefined
  have applied : op.apply a b = .undefined := if_pos undefined
  rw [applied] at defined
  exact not_isDefined_undefined defined

/-- An undefined value decides nothing. -/
theorem LogicOp.isDefined_of_decided {op : LogicOp} {b : Bool} (decided : op.decided? a = some b) :
    IsDefined a := by
  by_contra undefined
  rw [eq_undefined_of_not_isDefined undefined] at decided
  cases op <;> cases decided

end

/-! ## Other variables of the action -/

/-- The state with other variables of the action. -/
def State.withVars (s : State) (vs : Variables) : State :=
  { s with memory := { s.memory with vars := vs } }

variable {vs ws : Variables}

/-- A computation that, with the variables `vs`, succeeds with a result of a kind, does the same
with the variables `ws`: it has the same result and leaves the same state but for these. -/
def Carries (vs ws : Variables) {α : Type} (kind : α → Prop) (x : Eval α) : Prop :=
  ∀ (s : State) a t, x.run.run (s.withVars vs) = (.ok a, t) → kind a →
    ∃ u : State, t = u.withVars vs ∧ x.run.run (s.withVars ws) = (.ok a, u.withVars ws)

/-- A computation has no result of a kind unless a condition holds. -/
def Demands {α : Type} (kind : α → Prop) (x : Eval α) (condition : Prop) : Prop :=
  ∀ s a t, x.run.run s = (.ok a, t) → kind a → condition

section Steps

variable {α β : Type} {kind : α → Prop} {kind' : β → Prop} {condition : Prop}

theorem demands_pure {a : α} (demands : kind a → condition) :
    Demands kind (pure a : Eval α) condition := by
  rintro s _ _ ⟨⟩ isKind
  exact demands isKind

theorem demands_require {span : Span} {outcome : Except Problem α}
    (demands : ∀ a, outcome = .ok a → kind a → condition) :
    Demands kind (require span outcome) condition := by
  intro s a t ran isKind
  cases outcome with
  | ok result =>
      cases ran
      exact demands a rfl isKind
  | error p => cases ran

theorem Demands.bind {x : Eval α} {f : α → Eval β}
    (demands : ∀ a, Demands kind' (f a) condition) : Demands kind' (x >>= f) condition := by
  intro s b t ran isKind
  obtain ⟨a, u, -, rest⟩ := exists_of_run_bind_eq_ok ran
  exact demands a u b t rest isKind

/-- One computation after the other, where the second has no result of the kind in demand unless
the first has one of its own kind. -/
theorem Carries.bind {x : Eval α} {f : α → Eval β} (first : Carries vs ws kind x)
    (demands : ∀ a, Demands kind' (f a) (kind a))
    (second : ∀ a, kind a → Carries vs ws kind' (f a)) : Carries vs ws kind' (x >>= f) := by
  intro s b t ran isKind
  obtain ⟨a, m, firstRan, rest⟩ := exists_of_run_bind_eq_ok ran
  have isFirst := demands a m b t rest isKind
  obtain ⟨u, rfl, same⟩ := first s a m firstRan isFirst
  obtain ⟨v, rfl, sameRest⟩ := second a isFirst u b t rest isKind
  exact ⟨v, rfl, by rw [run_bind_of_ok same, sameRest]⟩

/-- A computation that does not look at the variables of the action. -/
theorem carries_of_blind {x : Eval α} (blind : ∀ s : State, ∃ outcome, ∃ u : State,
    ∀ us, x.run.run (s.withVars us) = (outcome, u.withVars us)) : Carries vs ws kind x := by
  intro s a t ran _
  obtain ⟨outcome, u, all⟩ := blind s
  rw [all] at ran
  cases ran
  exact ⟨u, rfl, all ws⟩

theorem carries_pure (a : α) : Carries vs ws kind (pure a) :=
  carries_of_blind fun s => ⟨.ok a, s, fun _ => rfl⟩

theorem carries_refuse (span : Span) (p : Problem) :
    Carries vs ws kind (refuse span p : Eval α) :=
  carries_of_blind fun s => ⟨.error (.finding ⟨p, span⟩), s, fun _ => rfl⟩

theorem carries_require (span : Span) (outcome : Except Problem α) :
    Carries vs ws kind (require span outcome) := by
  cases outcome with
  | ok a => exact carries_pure a
  | error p => exact carries_refuse span p

theorem carries_count {kind : Unit → Prop} : Carries vs ws kind count := by
  refine carries_of_blind fun s => ?_
  rcases raised : s.budget.raise 1 with ⟨outcome, budget⟩
  have raises (us : Variables) : (s.withVars us).budget.raise 1 = (outcome, budget) := raised
  simp only [run_count, raises]
  cases outcome with
  | ok => exact ⟨.ok (), { s with budget }, fun _ => rfl⟩
  | error o => exact ⟨.error (.fault (.overrun o)), { s with budget }, fun _ => rfl⟩

/-- What comes after a condition is counted. -/
theorem carries_counted {x : Eval β} (rest : Carries vs ws kind' x) :
    Carries vs ws kind' (count >>= fun _ => x) := by
  have counted : Carries vs ws (fun _ => True) count := carries_count
  exact counted.bind (fun _ _ _ _ _ _ => trivial) fun _ _ => rest

theorem carries_apply {kind : Value → Prop} (span : Span) (args : List Rule) (body : Function.Body)
    (values : List Value) : Carries vs ws kind (apply span args body values) := by
  refine carries_of_blind fun s => ?_
  have samePatterns (us : Variables) : (s.withVars us).patterns = s.patterns := rfl
  simp only [run_apply, samePatterns]
  by_cases undefined : values.any Value.isUndefined
  · simp only [if_pos undefined]
    exact ⟨.ok .undefined, s, fun _ => rfl⟩
  · simp only [if_neg undefined]
    cases body.apply values s.patterns with
    | ok result => exact ⟨.ok result.1, { s with patterns := result.2 }, fun _ => rfl⟩
    | error refusal => exact ⟨_, s, fun _ => rfl⟩

theorem demands_apply (span : Span) (args : List Rule) (body : Function.Body)
    (values : List Value) :
    Demands IsDefined (apply span args body values) (values.any Value.isUndefined = false) := by
  intro s a t ran defined
  rw [← Bool.not_eq_true]
  intro undefined
  rw [run_apply, if_pos undefined] at ran
  cases ran
  exact not_isDefined_undefined defined

theorem carries_applyKeyword {kind : Value → Prop} (span : Span) (op : KeywordOp) (a b : Value) :
    Carries vs ws kind (applyKeyword span op a b) := by
  refine carries_of_blind fun s => ?_
  have samePatterns (us : Variables) : (s.withVars us).patterns = s.patterns := rfl
  simp only [run_applyKeyword, samePatterns]
  by_cases undefined : a.isUndefined || b.isUndefined
  · simp only [if_pos undefined]
    exact ⟨.ok .undefined, s, fun _ => rfl⟩
  · simp only [if_neg undefined]
    cases Function.applyKeyword op a b s.patterns with
    | ok result => exact ⟨.ok (.bool result.1), { s with patterns := result.2 }, fun _ => rfl⟩
    | error p => exact ⟨_, s, fun _ => rfl⟩

theorem demands_applyKeyword (span : Span) (op : KeywordOp) (a b : Value) :
    Demands IsDefined (applyKeyword span op a b) (IsDefined a ∧ IsDefined b) := by
  intro s v t ran defined
  apply isDefined_of_or
  intro undefined
  rw [run_applyKeyword, if_pos undefined] at ran
  cases ran
  exact not_isDefined_undefined defined

end Steps

/-! ## Reads -/

/-- No variable is pending among the variables `vs`, and `ws` agree with them where they are
defined. -/
structure Agreement (vs ws : Variables) : Prop where
  known : ∀ name c, vs.find? name ≠ some (.pending c)
  agree : ∀ name v, vs.find? name = some (.value v) → IsDefined v →
    ws.find? name = some (.value v)

/-- A name that a rule may read under `vs` may be read under `ws`: it is written as it is kept,
or `ws` has it if `vs` has. -/
def Recognises (vs ws : Variables) (name : String) : Prop :=
  Variable.fold name = name ∨ (vs.has name = true → ws.has name = true)

section Reads

variable {host : Host} {name : String} {v : Value} {s t : State}

/-- A read of known variables that gives a defined value finds it, and changes nothing. -/
theorem of_run_reading (agreement : Agreement vs ws)
    (ran : (reading (Variable.read host name .current)).run.run (s.withVars vs) = (.ok v, t))
    (defined : IsDefined v) :
    vs.find? (Variable.ReadMode.current.target name) = some (.value v) ∧ t = s.withVars vs := by
  have sameVars : (s.withVars vs).memory.vars = vs := rfl
  rw [run_reading, Variable.read, run_get_bind, Variable.run_readKept, sameVars] at ran
  cases found : vs.find? (Variable.ReadMode.current.target name) with
  | none =>
      rw [found] at ran
      cases ran
      exact absurd defined not_isDefined_undefined
  | some entry =>
      cases entry with
      | value w =>
          rw [found] at ran
          cases ran
          exact ⟨rfl, rfl⟩
      | pending c => exact absurd found (agreement.known _ c)

/-- A read of a variable that has a value finds it, and changes nothing. -/
theorem run_reading_of_value
    (found : ws.find? (Variable.ReadMode.current.target name) = some (.value v)) :
    (reading (Variable.read host name .current)).run.run (s.withVars ws) =
      (.ok v, s.withVars ws) := by
  have sameVars : (s.withVars ws).memory.vars = ws := rfl
  rw [run_reading, Variable.read, run_get_bind, Variable.run_readKept, sameVars, found]

/-- What is read with a defined value is recognised where variables agree. -/
theorem Recognises.has (recognises : Recognises vs ws name)
    (known : Variable.isBuiltin name = true ∨ vs.has name = true)
    (found : ws.find? (Variable.ReadMode.current.target name) = some (.value v)) :
    Variable.isBuiltin name = true ∨ ws.has name = true := by
  rcases known with builtin | has
  · exact .inl builtin
  rcases recognises with folded | keeps
  · cases renamed : Variable.replacement? name with
    | some current =>
        left
        rw [Variable.isBuiltin, renamed, Option.isSome_some, Bool.or_true]
    | none =>
        have target : Variable.ReadMode.current.target name = name := by
          change Variable.currentName (Variable.fold name) = name
          rw [folded, Variable.currentName, renamed, Option.getD_none]
        right
        rw [Variables.has, Variables.entry?, folded, ← target, found]
        rfl
  · exact .inr (keeps has)

theorem carries_readVariable (agreement : Agreement vs ws)
    (recognises : Recognises vs ws name) (span : Span) :
    Carries vs ws IsDefined (readVariable host span name) := by
  intro s v t ran defined
  have sameLocals (us : Variables) : (s.withVars us).locals = s.locals := rfl
  have sameVars (us : Variables) : (s.withVars us).memory.vars = us := rfl
  rw [run_readVariable, sameLocals, sameVars] at ran ⊢
  cases unbound : s.locals.find? name with
  | some w =>
      rw [unbound] at ran
      cases ran
      exact ⟨s, rfl, rfl⟩
  | none =>
      rw [unbound] at ran
      dsimp only at ran ⊢
      by_cases withdrawn : Variable.isWithdrawn name
      · rw [if_pos withdrawn] at ran
        cases ran
      rw [if_neg withdrawn] at ran ⊢
      by_cases unknown : (!Variable.isBuiltin name && !vs.has name) = true
      · rw [if_pos unknown] at ran
        cases ran
      rw [if_neg unknown] at ran
      obtain ⟨found, rfl⟩ := of_run_reading agreement ran defined
      have sameFound := agreement.agree _ v found defined
      have stillKnown := recognises.has (not_unknown_iff.mp unknown) sameFound
      rw [if_neg (not_unknown_iff.mpr stillKnown)]
      exact ⟨s, rfl, run_reading_of_value sameFound⟩

end Reads

/-! ## Evaluations -/

/-- An expression without assignments, lists, rows of statements and strict comparisons: it has
no defined value if a part of it that is evaluated has none. -/
inductive Propagates : Rule → Prop
  | literal {span v} : Propagates (.literal span v)
  | var {span x} : Propagates (.var span x)
  | unary {span op e} (operand : Propagates e) : Propagates (.unary span op e)
  | arith {span op l r} (left : Propagates l) (right : Propagates r) :
      Propagates (.arith span op l r)
  | compare {span op l r} (loose : op ≠ .strictEq ∧ op ≠ .strictNe) (left : Propagates l)
      (right : Propagates r) : Propagates (.compare span op l r)
  | logic {span op l r} (left : Propagates l) (right : Propagates r) :
      Propagates (.logic span op l r)
  | keyword {span op l r} (left : Propagates l) (right : Propagates r) :
      Propagates (.keyword span op l r)
  | conditional {span c y n} (condition : Propagates c) (yes : Propagates y)
      (no : ∀ e ∈ n, Propagates e) : Propagates (.conditional span c y n)
  | call {span f args} (ordinary : Function.find f args.length ≠ .ok .setter)
      (each : ∀ e ∈ args, Propagates e) : Propagates (.call span f args)
  | index {span b i} (base : Propagates b) (position : Propagates i) :
      Propagates (.index span b i)

/-- All names that an expression reads under `vs` may be read under `ws`. -/
def Recognised (vs ws : Variables) (e : Rule) : Prop :=
  ∀ span x, Within e (.var span x) → Recognises vs ws x

theorem Recognised.operand {e d : Rule} (recognised : Recognised vs ws e)
    (member : d ∈ e.operands := by simp [Expr.operands]) : Recognised vs ws d :=
  fun span x inside => recognised span x (.part member inside)

/-- The evaluation of an expression gives the same defined value with other variables. -/
def Holds (vs ws : Variables) (host : Host) (e : Rule) : Prop :=
  Carries vs ws IsDefined (eval host e)

section Evaluation

variable {host : Host}

/-- Two expressions evaluated one after the other, where nothing defined comes of undefined
values. -/
theorem carries_both {l r : Rule} (left : Holds vs ws host l) (right : Holds vs ws host r)
    {f : Value → Value → Eval Value}
    (demands : ∀ a b, Demands IsDefined (f a b) (IsDefined a ∧ IsDefined b))
    (rest : ∀ a b, Carries vs ws IsDefined (f a b)) :
    Carries vs ws IsDefined (do let a ← eval host l; let b ← eval host r; f a b) := by
  apply left.bind
  · exact fun a => .bind fun b s v t ran defined => (demands a b s v t ran defined).1
  · intro a _
    apply right.bind
    · exact fun b s v t ran defined => (demands a b s v t ran defined).2
    · exact fun b _ => rest a b

theorem carries_logic {l r : Rule} (left : Holds vs ws host l) (right : Holds vs ws host r)
    (span : Span) (op : LogicOp) : Holds vs ws host (.logic span op l r) := by
  apply carries_counted
  apply left.bind
  · intro a
    cases decided : op.decided? a with
    | some b => exact demands_pure fun _ => LogicOp.isDefined_of_decided decided
    | none =>
        exact .bind fun b => demands_pure fun defined => (LogicOp.isDefined_of_apply defined).1
  · intro a _
    cases op.decided? a with
    | some b => exact carries_pure _
    | none =>
        apply right.bind
        · exact fun b => demands_pure fun defined => (LogicOp.isDefined_of_apply defined).2
        · exact fun b _ => carries_pure _

theorem carries_conditional {c y : Rule} {n : Option Rule} (condition : Holds vs ws host c)
    (yes : Holds vs ws host y) (no : ∀ b ∈ n, Holds vs ws host b) (span : Span) :
    Holds vs ws host (.conditional span c y n) := by
  apply carries_counted
  apply condition.bind
  · intro v s w t ran defined
    by_contra undefined
    rw [eq_undefined_of_not_isDefined undefined] at ran
    cases ran
    exact not_isDefined_undefined defined
  · intro v _
    by_cases undefined : v.isUndefined
    · rw [if_pos undefined]
      exact carries_pure _
    rw [if_neg undefined]
    by_cases holds : v.toBool
    · rw [if_pos holds]
      exact yes
    rw [if_neg holds]
    cases n with
    | none => exact carries_pure _
    | some b => exact no b rfl

theorem carries_index {b i : Rule} (base : Holds vs ws host b) (position : Holds vs ws host i)
    (span : Span) : Holds vs ws host (.index span b i) := by
  refine carries_both base position ?_ ?_
  · intro v w s x t ran defined
    apply isDefined_of_or
    intro undefined
    rw [if_pos undefined] at ran
    cases ran
    exact not_isDefined_undefined defined
  · intro v w
    by_cases undefined : v.isUndefined || w.isUndefined
    · rw [if_pos undefined]
      exact carries_pure _
    rw [if_neg undefined]
    split
    · exact carries_require _ _
    · exact carries_refuse _ _

mutual

/-- What has a defined value has it with all variables that agree. -/
theorem carries_eval (agreement : Agreement vs ws) (host : Host) : ∀ e : Rule, Propagates e →
    Recognised vs ws e → Holds vs ws host e
  | .literal _ _, _, _ => carries_pure _
  | .var span name, _, recognised =>
      carries_readVariable agreement (recognised span name .root) span
  | .unary _ op e, propagates, recognised => by
      cases propagates with
      | unary operand =>
          apply (carries_eval agreement host e operand recognised.operand).bind
          · exact fun v => demands_require fun w applied => UnaryOp.isDefined_of_apply applied
          · exact fun v _ => carries_require _ _
  | .arith _ op l r, propagates, recognised => by
      cases propagates with
      | arith left right =>
          apply carries_both (carries_eval agreement host l left recognised.operand)
            (carries_eval agreement host r right recognised.operand)
          · exact fun a b => demands_require fun w applied => ArithOp.isDefined_of_apply applied
          · exact fun a b => carries_require _ _
  | .compare _ op l r, propagates, recognised => by
      cases propagates with
      | compare loose left right =>
          apply carries_counted
          apply carries_both (carries_eval agreement host l left recognised.operand)
            (carries_eval agreement host r right recognised.operand)
          · exact fun a b => demands_pure (CompareOp.isDefined_of_apply loose)
          · exact fun a b => carries_pure _
  | .logic span op l r, propagates, recognised => by
      cases propagates with
      | logic left right =>
          exact carries_logic (carries_eval agreement host l left recognised.operand)
            (carries_eval agreement host r right recognised.operand) span op
  | .keyword _ op l r, propagates, recognised => by
      cases propagates with
      | keyword left right =>
          apply carries_counted
          apply carries_both (carries_eval agreement host l left recognised.operand)
            (carries_eval agreement host r right recognised.operand)
          · exact fun a b => demands_applyKeyword _ op a b
          · exact fun a b => carries_applyKeyword _ op a b
  | .conditional span c y n, propagates, recognised => by
      cases propagates with
      | conditional condition yes no =>
          refine carries_conditional (carries_eval agreement host c condition recognised.operand)
            (carries_eval agreement host y yes recognised.operand) ?_ span
          exact carries_branch agreement host n no fun b member =>
            recognised.operand (by simp [Expr.operands, Option.mem_def.mp member])
  | .call span f args, propagates, recognised => by
      cases propagates with
      | call ordinary each =>
          cases found : Function.find f args.length with
          | error p =>
              rw [Holds, eval, found]
              apply carries_counted
              exact carries_refuse span p
          | ok body =>
              have notSetter : body ≠ .setter := by
                rintro rfl
                exact ordinary found
              rw [Holds, eval_call found notSetter]
              apply carries_counted
              apply (carries_evalAll agreement host args each fun e member =>
                recognised.operand member).bind
              · exact fun values => demands_apply span args body values
              · exact fun values _ => carries_apply span args body values
  | .index span b i, propagates, recognised => by
      cases propagates with
      | index base position =>
          exact carries_index (carries_eval agreement host b base recognised.operand)
            (carries_eval agreement host i position recognised.operand) span
  | .list _ _, propagates, _ => by cases propagates
  | .assign _ _ _, propagates, _ => by cases propagates
  | .indexAssign _ _ _ _, propagates, _ => by cases propagates
  | .sequence _ _, propagates, _ => by cases propagates
termination_by structural e => e

theorem carries_evalAll (agreement : Agreement vs ws) (host : Host) : ∀ es : List Rule,
    (∀ e ∈ es, Propagates e) → (∀ e ∈ es, Recognised vs ws e) →
      Carries vs ws (fun values => values.any Value.isUndefined = false) (evalAll host es)
  | [], _, _ => carries_pure _
  | e :: es, propagate, recognised => by
      rw [List.forall_mem_cons] at propagate recognised
      have demands (v : Value) (vs : List Value) :
          Demands (fun values => values.any Value.isUndefined = false)
            (pure (v :: vs) : Eval (List Value))
            (IsDefined v ∧ vs.any Value.isUndefined = false) :=
        demands_pure fun defined => by rwa [List.any_cons, Bool.or_eq_false_iff] at defined
      apply (carries_eval agreement host e propagate.1 recognised.1).bind
      · exact fun v => .bind fun vs s a t ran defined => (demands v vs s a t ran defined).1
      · intro v _
        apply (carries_evalAll agreement host es propagate.2 recognised.2).bind
        · exact fun vs s a t ran defined => (demands v vs s a t ran defined).2
        · exact fun vs _ => carries_pure _
termination_by structural es => es

theorem carries_branch (agreement : Agreement vs ws) (host : Host) : ∀ n : Option Rule,
    (∀ e ∈ n, Propagates e) → (∀ e ∈ n, Recognised vs ws e) → ∀ b ∈ n, Holds vs ws host b
  | none, _, _, _, member => by cases member
  | some e, propagates, recognised, _, member => by
      cases member
      exact carries_eval agreement host e (propagates e rfl) (recognised e rfl)
termination_by structural n => n

end

/-- A verdict does not hinge on a missing variable.  If a rule, or a part of it, that propagates
undefined values has a defined value for an action with known variables, then it has this value
for every action that agrees where these are defined, whatever else the action may have, and leaves
the same state, with the same count of conditions.  A name that is not written as it is kept is
no name of a rule that was read; to such a name the other action must not be strange. -/
theorem evaluate_of_defined (agreement : Agreement vs ws) {rule : Rule}
    (propagates : Propagates rule)
    (named : (∃ source whole, Source.parse source = .ok whole ∧ Within whole rule) ∨
      ∀ x, vs.has x = true → ws.has x = true)
    {s t : State} {v : Value}
    (ran : (evaluate host rule).run.run (s.withVars vs) = (.ok v, t)) (defined : IsDefined v) :
    t.memory.vars = vs ∧
      (evaluate host rule).run.run (s.withVars ws) = (.ok v, t.withVars ws) := by
  have recognised : Recognised vs ws rule := by
    intro span x inside
    rcases named with ⟨source, whole, parsed, part⟩ | keeps
    · exact .inl (fold_of_parse parsed (part.trans inside))
    · exact .inr (keeps x)
  have holds := carries_eval agreement host rule propagates recognised
  obtain ⟨u, rfl, same⟩ := holds { s with locals := .empty } v t ran defined
  exact ⟨rfl, same⟩

end Evaluation

/-- A page that has become large, by a user without a name. -/
def nameless : Variables :=
  Variables.set .empty "new_size" (.int 20)

/-- The page, by a user with a name. -/
def withName : Variables :=
  nameless.set "user_name" (.text "Ann")

/-- Whether the page is larger than ten bytes, or it is by a certain user. -/
def largeOrByUser : Rule :=
  .logic default .or (.compare default .gt (.var default "new_size") (.literal default (.int 10)))
    (.compare default .eq (.var default "user_name") (.literal default (.text "Bob")))

/-- The size decides, whether the user has a name or not. -/
theorem evaluate_of_defined_size :
    ∃ t, (evaluate .none largeOrByUser).run.run ((default : State).withVars nameless) =
        (.ok (.bool true), t) ∧
      (evaluate .none largeOrByUser).run.run ((default : State).withVars withName) =
        (.ok (.bool true), t.withVars withName) := by
  have find?_withName (x : String) : withName.find? x =
      if x = Variable.fold "user_name" then some (.value (.text "Ann")) else nameless.find? x :=
    Dictionary.find?_insert _ _ _ _
  have find?_nameless (x : String) : nameless.find? x =
      if x = Variable.fold "new_size" then some (.value (.int 20)) else none :=
    Dictionary.find?_insert _ _ _ _
  have agreement : Agreement nameless withName := by
    constructor
    · intro x c pending
      rw [find?_nameless] at pending
      split at pending <;> cases pending
    · intro x v found _
      rw [find?_withName, found]
      split
      · rename_i isName
        have isSize : ¬ x = Variable.fold "new_size" := by
          rw [isName]
          decide +kernel
        rw [find?_nameless, if_neg isSize] at found
        cases found
      · rfl
  have keeps : ∀ x, nameless.has x = true → withName.has x = true := by
    intro x has
    rw [Variables.has, Variables.entry?, find?_withName]
    split
    · rfl
    · exact has
  have propagates : Propagates largeOrByUser :=
    .logic (.compare (by decide) .var .literal) (.compare (by decide) .var .literal)
  have isTrue : ((evaluate .none largeOrByUser).run.run
      ((default : State).withVars nameless)).1.toOption.any (·.strictEq (.bool true)) = true := by
    decide +kernel
  rcases ran : (evaluate .none largeOrByUser).run.run ((default : State).withVars nameless) with
    ⟨outcome, t⟩
  rw [ran] at isTrue
  rcases outcome with failure | v
  · cases isTrue
  have sameValue : v = .bool true := by
    cases v with
    | bool b =>
        cases b with
        | false => cases isTrue
        | true => rfl
    | _ => cases isTrue
  subst sameValue
  exact ⟨t, rfl, (evaluate_of_defined agreement propagates (.inr keeps) ran rfl).2⟩

end EditGuard.Rule
