import EditGuard.Proofs.Rule.Checking
import EditGuard.Proofs.Rule.Outcomes

/-!
# Findings stand at nodes

A check and an evaluation of a rule report problems at nodes of its tree and nowhere else: what
holds of the marks of all nodes holds of the stretch that a finding has.
-/

namespace EditGuard.Rule

open Variable (Host)

/-! ## Parts of an expression -/

/-- An expression and its parts. -/
inductive Within : Rule → Rule → Prop
  | root {e} : Within e e
  | part {e d c} (member : d ∈ e.operands) (inside : Within d c) : Within e c

theorem Within.trans {e d c : Rule} (outer : Within e d) (inner : Within d c) : Within e c := by
  induction outer with
  | root => exact inner
  | part member _ ih => exact .part member (ih inner)

/-- All nodes of an expression have marks of a kind. -/
def Marked (P : Span → Prop) (e : Rule) : Prop :=
  ∀ d, Within e d → P d.mark

variable {P : Span → Prop} {α β : Type}

theorem Marked.here {e : Rule} (marked : Marked P e) : P e.mark :=
  marked e .root

theorem Marked.operand {e d : Rule} (marked : Marked P e)
    (member : d ∈ e.operands := by simp [Expr.operands]) : Marked P d :=
  fun c inside => marked c (.part member inside)

theorem Marked.option {e : Rule} {part : Option Rule} (marked : Marked P e)
    (operands : ∀ d ∈ part, d ∈ e.operands) : ∀ d ∈ part, Marked P d :=
  fun d member => marked.operand (operands d member)

/-! ## Checks -/

namespace Check

/-- A check refuses only at marks of a kind. -/
def RefusesAt (P : Span → Prop) (x : Check α) : Prop :=
  ∀ c f, x.run c = .error f → P f.span

theorem refusesAt_pure (a : α) : RefusesAt P (pure a : Check α) :=
  nofun

theorem refusesAt_modify (change : CheckState → CheckState) :
    RefusesAt P (modify change : Check PUnit) :=
  nofun

theorem refusesAt_get : RefusesAt P (get : Check CheckState) :=
  nofun

theorem refusesAt_refuse {span : Span} (here : P span) (p : Problem) :
    RefusesAt P (refuse span p : Check α) := by
  rintro c f ⟨⟩
  exact here

theorem RefusesAt.bind {x : Check α} {f : α → Check β} (first : RefusesAt P x)
    (second : ∀ a, RefusesAt P (f a)) : RefusesAt P (x >>= f) := by
  intro c finding failed
  rw [StateT.run_bind] at failed
  rcases ran : x.run c with other | ⟨a, d⟩
  · rw [ran] at failed
    cases failed
    exact first c _ ran
  · rw [ran] at failed
    exact second a d finding failed

theorem refusesAt_readVariable {span : Span} (here : P span) (name : String) :
    RefusesAt P (readVariable span name) := by
  refine .bind refusesAt_get ?_
  intro c
  split
  · exact refusesAt_modify _
  · split
    · exact refusesAt_refuse here _
    · split
      · exact refusesAt_modify _
      · split
        · exact refusesAt_pure _
        · exact refusesAt_refuse here _

theorem refusesAt_assign {span : Span} (here : P span) (name : String) :
    RefusesAt P (assign span name) := by
  unfold assign
  split
  · exact refusesAt_refuse here _
  · exact refusesAt_modify _

theorem refusesAt_assignItem {span : Span} (here : P span) (name : String) :
    RefusesAt P (Check.assignItem span name) := by
  unfold Check.assignItem
  split
  · exact refusesAt_refuse here _
  · refine .bind refusesAt_get ?_
    intro c
    split
    · exact refusesAt_pure _
    · exact refusesAt_refuse here _

theorem refusesAt_literalPattern {e : Rule} (here : P e.mark) (insensitive : Bool) :
    RefusesAt P (literalPattern e insensitive) := by
  unfold literalPattern
  split
  · exact refusesAt_pure _
  · refine .bind refusesAt_get ?_
    intro c
    split
    · exact refusesAt_refuse here _
    · apply RefusesAt.bind
      · exact nofun
      · intro _
        split
        · exact refusesAt_modify _
        · exact refusesAt_pure _

theorem refusesAt_argumentPatterns {args : List Rule} (marked : ∀ e ∈ args, Marked P e)
    (body : Function.Body) : RefusesAt P (argumentPatterns body args) := by
  unfold argumentPatterns
  split
  · next found =>
      obtain ⟨i, -, given⟩ := Option.bind_eq_some_iff.mp found
      exact refusesAt_literalPattern (marked _ (List.mem_of_getElem? given)).here _
  · exact refusesAt_pure _

theorem refusesAt_setterName {target : Rule} (here : P target.mark) :
    RefusesAt P (setterName target) := by
  unfold setterName
  split
  · exact refusesAt_refuse here _
  · exact refusesAt_pure _

end Check

open Check in
mutual

/-- Whatever is wrong with an expression is reported at a node of it. -/
theorem refusesAt_visit : ∀ e : Rule, Marked P e → RefusesAt P (visit e)
  | .literal _ _, _ => refusesAt_pure _
  | .var _ name, marked => refusesAt_readVariable marked.here name
  | .list _ items, marked => refusesAt_visitAll items fun _ member => marked.operand member
  | .unary _ _ operand, marked => refusesAt_visit operand marked.operand
  | .arith _ _ left right, marked | .compare _ _ left right, marked
  | .logic _ _ left right, marked | .index _ left right, marked =>
      (refusesAt_visit left marked.operand).bind fun _ => refusesAt_visit right marked.operand
  | .keyword _ op left right, marked => by
      apply (refusesAt_visit left marked.operand).bind
      intro _
      apply (refusesAt_visit right marked.operand).bind
      intro _
      split
      · exact refusesAt_literalPattern (marked.operand (d := right)).here _
      · exact refusesAt_pure _
  | .conditional _ condition yes no, marked => by
      apply (refusesAt_visit condition marked.operand).bind
      intro _
      apply (refusesAt_visit yes marked.operand).bind
      intro _
      apply refusesAt_visitOption no
      apply marked.option
      intro d member
      simp [Expr.operands, Option.mem_def.mp member]
  | .call _ function args, marked => by
      have given : ∀ e ∈ args, Marked P e := fun _ member => marked.operand member
      rw [visit]
      split
      · exact refusesAt_refuse marked.here _
      · exact refusesAt_visitSetter args given
      · apply (refusesAt_visitAll args given).bind
        intro _
        exact refusesAt_argumentPatterns given _
  | .assign _ name value, marked =>
      (refusesAt_visit value marked.operand).bind fun _ => refusesAt_assign marked.here name
  | .indexAssign _ name position value, marked => by
      apply (refusesAt_assignItem marked.here name).bind
      intro _
      apply RefusesAt.bind
      · apply refusesAt_visitOption position
        apply marked.option
        intro d member
        simp [Expr.operands, Option.mem_def.mp member]
      · intro _
        exact refusesAt_visit value marked.operand
  | .sequence _ statements, marked =>
      refusesAt_visitAll statements fun _ member => marked.operand member

theorem refusesAt_visitAll : ∀ es : List Rule, (∀ e ∈ es, Marked P e) →
    RefusesAt P (visitAll es)
  | [], _ => refusesAt_pure _
  | e :: es, marked =>
      (refusesAt_visit e (marked e List.mem_cons_self)).bind fun _ =>
        refusesAt_visitAll es fun _ member => marked _ (List.mem_cons_of_mem _ member)

theorem refusesAt_visitOption : ∀ e : Option Rule, (∀ d ∈ e, Marked P d) →
    RefusesAt P (visitOption e)
  | none, _ => refusesAt_pure _
  | some e, marked => refusesAt_visit e (marked e rfl)

theorem refusesAt_visitSetter : ∀ args : List Rule, (∀ e ∈ args, Marked P e) →
    RefusesAt P (visitSetter args)
  | target :: value :: _, marked => by
      have here : P target.mark := (marked target List.mem_cons_self).here
      apply (refusesAt_setterName here).bind
      intro name
      apply (refusesAt_visit value
        (marked value (List.mem_cons_of_mem _ List.mem_cons_self))).bind
      intro _
      exact refusesAt_assign here name
  | [_], _ => refusesAt_pure _
  | [], _ => refusesAt_pure _

end

/-- A check of a rule reports what is wrong at a node of it. -/
theorem mark_of_check {rule : Rule} (marked : Marked P rule) {f : Finding}
    (failed : check rule = .error f) : P f.span := by
  unfold check at failed
  rcases ran : (visit rule).run Check.start with other | ⟨⟨⟩, s⟩
  · rw [ran] at failed
    cases failed
    exact refusesAt_visit rule marked Check.start _ ran
  · rw [ran] at failed
    cases failed

/-! ## Evaluations -/

namespace Eval

/-- An evaluation raises findings only at marks of a kind. -/
def RaisesAt (P : Span → Prop) (x : Eval α) : Prop :=
  ∀ s, Ends x s (fun _ _ => True) fun f _ => P f.span

theorem raisesAt_pure (a : α) : RaisesAt P (pure a) :=
  fun _ => trivial

theorem raisesAt_count : RaisesAt P count :=
  fun _ => ends_count.mono (fun _ _ _ _ => trivial) fun _ _ impossible => impossible

theorem raisesAt_bind (name : String) (v : Value) : RaisesAt P (Eval.bind name v) :=
  fun _ => trivial

theorem raisesAt_refuse {span : Span} (here : P span) (p : Problem) :
    RaisesAt P (refuse span p : Eval α) :=
  fun _ => ends_refuse here

theorem raisesAt_require {span : Span} (here : P span) (outcome : Except Problem α) :
    RaisesAt P (require span outcome) :=
  fun _ => ends_require (fun _ _ => trivial) fun _ _ => here

/-- The second of two computations goes on with a result of the first. -/
theorem RaisesAt.bind {x : Eval α} {f : α → Eval β} (first : RaisesAt P x)
    (second : ∀ a s t, x.run.run s = (.ok a, t) → RaisesAt P (f a)) : RaisesAt P (x >>= f) :=
  fun s => (first s).bind fun a t ran _ => second a s t ran t

theorem raisesAt_readVariable {span : Span} (here : P span) (host : Host) (name : String) :
    RaisesAt P (readVariable host span name) :=
  fun _ => ends_readVariable (fun _ _ _ => trivial) (fun _ _ => here) fun _ _ => here

theorem raisesAt_requireLocal {span : Span} (here : P span) (name : String) :
    RaisesAt P (requireLocal span name) := by
  unfold requireLocal
  split
  · exact raisesAt_refuse here _
  · exact raisesAt_pure _

theorem raisesAt_setterTarget {target : Rule} (here : P target.mark) :
    RaisesAt P (setterTarget target) := by
  unfold setterTarget
  split
  · exact raisesAt_refuse here _
  · exact (raisesAt_requireLocal here _).bind fun _ _ _ _ => raisesAt_pure _

theorem raisesAt_applyKeyword {span : Span} (here : P span) (op : KeywordOp) (a b : Value) :
    RaisesAt P (applyKeyword span op a b) :=
  fun _ => ends_applyKeyword (fun _ _ _ => trivial) fun _ _ => here

/-- A function is applied at its arguments, or at its call where there are fewer. -/
theorem raisesAt_apply {span : Span} {args : List Rule} (here : P span)
    (marked : ∀ e ∈ args, Marked P e) (body : Function.Body) (values : List Value) :
    RaisesAt P (apply span args body values) := by
  intro s
  refine ends_apply (fun _ _ _ => trivial) fun refusal _ => ?_
  change P (argumentSpan args span refusal.argument)
  unfold argumentSpan
  cases given : args[refusal.argument]? with
  | none => exact here
  | some e => exact (marked e (List.mem_of_getElem? given)).here

theorem raisesAt_assignItem {span : Span} {index : Option (Span × Value)} (here : P span)
    (place : ∀ i ∈ index, P i.1) (name : String) (current v : Value) :
    RaisesAt P (assignItem span name current index v) := by
  unfold assignItem
  split
  · next items =>
      have placed : RaisesAt P (Eval.place items v index) := by
        cases index with
        | none => exact raisesAt_pure _
        | some index =>
            exact (raisesAt_require (place index rfl) _).bind fun _ _ _ _ => raisesAt_pure _
      split
      · exact (raisesAt_bind _ _).bind fun _ _ _ _ => raisesAt_pure _
      · exact placed.bind fun _ _ _ _ => (raisesAt_bind _ _).bind fun _ _ _ _ =>
          raisesAt_pure _
  · exact raisesAt_pure _
  · exact raisesAt_refuse here _

end Eval

open Eval

/-- An index has the place of the expression that it is the value of. -/
theorem place_of_evalIndex {host : Host} {position : Option Rule}
    (marked : ∀ e ∈ position, Marked P e) {s t : State} {index : Option (Span × Value)}
    (ran : (evalIndex host position).run.run s = (.ok index, t)) : ∀ i ∈ index, P i.1 := by
  cases position with
  | none =>
      cases ran
      nofun
  | some e =>
      obtain ⟨v, _, -, ran⟩ := exists_of_run_bind_eq_ok ran
      cases ran
      rintro _ ⟨⟩
      exact (marked e rfl).here

mutual

/-- Whatever the evaluation of an expression finds wrong is reported at a node of it. -/
theorem raisesAt_eval (host : Host) : ∀ e : Rule, Marked P e → RaisesAt P (eval host e)
  | .literal _ _, _ => raisesAt_pure _
  | .var _ name, marked => raisesAt_readVariable marked.here host name
  | .list _ items, marked =>
      (raisesAt_evalAll host items fun _ member => marked.operand member).bind fun _ _ _ _ =>
        raisesAt_pure _
  | .unary _ _ operand, marked =>
      (raisesAt_eval host operand marked.operand).bind fun _ _ _ _ =>
        raisesAt_require marked.here _
  | .arith _ _ left right, marked =>
      (raisesAt_eval host left marked.operand).bind fun _ _ _ _ =>
        (raisesAt_eval host right marked.operand).bind fun _ _ _ _ =>
          raisesAt_require marked.here _
  | .compare _ _ left right, marked =>
      raisesAt_count.bind fun _ _ _ _ =>
        (raisesAt_eval host left marked.operand).bind fun _ _ _ _ =>
          (raisesAt_eval host right marked.operand).bind fun _ _ _ _ => raisesAt_pure _
  | .logic _ op left right, marked => by
      apply raisesAt_count.bind
      intro _ _ _ _
      apply (raisesAt_eval host left marked.operand).bind
      intro a _ _ _
      cases op.decided? a with
      | some b => exact raisesAt_pure _
      | none =>
          exact (raisesAt_eval host right marked.operand).bind fun _ _ _ _ => raisesAt_pure _
  | .keyword _ _ left right, marked =>
      raisesAt_count.bind fun _ _ _ _ =>
        (raisesAt_eval host left marked.operand).bind fun _ _ _ _ =>
          (raisesAt_eval host right marked.operand).bind fun _ _ _ _ =>
            raisesAt_applyKeyword (marked.operand (d := right)).here _ _ _
  | .conditional _ condition yes no, marked => by
      apply raisesAt_count.bind
      intro _ _ _ _
      apply (raisesAt_eval host condition marked.operand).bind
      intro c _ _ _
      split
      · exact raisesAt_pure _
      · split
        · exact raisesAt_eval host yes marked.operand
        · apply raisesAt_evalBranch host no
          apply marked.option
          intro d member
          simp [Expr.operands, Option.mem_def.mp member]
  | .call _ _ args, marked => by
      have given : ∀ e ∈ args, Marked P e := fun _ member => marked.operand member
      apply raisesAt_count.bind
      intro _ _ _ _
      apply (raisesAt_require marked.here _).bind
      intro body _ _ _
      split
      · exact raisesAt_evalSetter host args given
      · exact (raisesAt_evalAll host args given).bind fun _ _ _ _ =>
          raisesAt_apply marked.here given _ _
  | .index _ base position, marked => by
      apply (raisesAt_eval host base marked.operand).bind
      intro v _ _ _
      apply (raisesAt_eval host position marked.operand).bind
      intro i _ _ _
      split
      · exact raisesAt_pure _
      · split
        · exact raisesAt_require (marked.operand (d := position)).here _
        · exact raisesAt_refuse marked.here _
  | .assign _ name value, marked =>
      (raisesAt_requireLocal marked.here name).bind fun _ _ _ _ =>
        (raisesAt_eval host value marked.operand).bind fun _ _ _ _ =>
          (raisesAt_bind _ _).bind fun _ _ _ _ => raisesAt_pure _
  | .indexAssign _ name position value, marked => by
      have positions : ∀ e ∈ position, Marked P e := by
        apply marked.option
        intro d member
        simp [Expr.operands, Option.mem_def.mp member]
      rw [eval_indexAssign]
      apply (raisesAt_requireLocal marked.here name).bind
      intro _ _ _ _
      apply RaisesAt.bind
      · exact fun _ => trivial
      · intro current _ _ _
        cases current with
        | none => exact raisesAt_refuse marked.here _
        | some current =>
            apply (raisesAt_evalIndex host position positions).bind
            intro index _ _ ran
            apply (raisesAt_eval host value marked.operand).bind
            intro v _ _ _
            exact raisesAt_assignItem marked.here (place_of_evalIndex positions ran) _ _ _
  | .sequence _ statements, marked =>
      raisesAt_evalSequence host .null statements fun _ member => marked.operand member

theorem raisesAt_evalAll (host : Host) : ∀ es : List Rule, (∀ e ∈ es, Marked P e) →
    RaisesAt P (evalAll host es)
  | [], _ => raisesAt_pure _
  | e :: es, marked =>
      (raisesAt_eval host e (marked e List.mem_cons_self)).bind fun _ _ _ _ =>
        (raisesAt_evalAll host es fun _ member =>
          marked _ (List.mem_cons_of_mem _ member)).bind fun _ _ _ _ => raisesAt_pure _

theorem raisesAt_evalSequence (host : Host) : ∀ (last : Value) (es : List Rule),
    (∀ e ∈ es, Marked P e) → RaisesAt P (evalSequence host last es)
  | _, [], _ => raisesAt_pure _
  | _, e :: es, marked =>
      (raisesAt_eval host e (marked e List.mem_cons_self)).bind fun v _ _ _ =>
        raisesAt_evalSequence host v es fun _ member => marked _ (List.mem_cons_of_mem _ member)

theorem raisesAt_evalBranch (host : Host) : ∀ e : Option Rule, (∀ d ∈ e, Marked P d) →
    RaisesAt P (evalBranch host e)
  | none, _ => raisesAt_pure _
  | some e, marked => raisesAt_eval host e (marked e rfl)

theorem raisesAt_evalIndex (host : Host) : ∀ e : Option Rule, (∀ d ∈ e, Marked P d) →
    RaisesAt P (evalIndex host e)
  | none, _ => raisesAt_pure _
  | some e, marked =>
      (raisesAt_eval host e (marked e rfl)).bind fun _ _ _ _ => raisesAt_pure _

theorem raisesAt_evalSetter (host : Host) : ∀ args : List Rule, (∀ e ∈ args, Marked P e) →
    RaisesAt P (evalSetter host args)
  | target :: value :: _, marked =>
      (raisesAt_setterTarget (marked target List.mem_cons_self).here).bind fun _ _ _ _ =>
        (raisesAt_eval host value
          (marked value (List.mem_cons_of_mem _ List.mem_cons_self))).bind fun _ _ _ _ =>
            (raisesAt_bind _ _).bind fun _ _ _ _ => raisesAt_pure _
  | [_], _ => raisesAt_pure _
  | [], _ => raisesAt_pure _

end

/-- An evaluation of a rule reports what it finds wrong at a node of the rule. -/
theorem mark_of_evaluate {rule : Rule} (marked : Marked P rule) {host : Host} {s t : State}
    {f : Finding} (ran : (evaluate host rule).run.run s = (.error (.finding f), t)) : P f.span :=
  (ends_iff.mp (raisesAt_eval host rule marked { s with locals := .empty })).2 f t ran

end EditGuard.Rule
