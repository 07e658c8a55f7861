import EditGuard.Proofs.Rule.Checking
import EditGuard.Proofs.Rule.Outcomes

/-!
# What a checked rule can still find wrong

The evaluation of a rule that was checked with success raises no finding about a call or
about what is assigned to, and none about a pattern that is a literal text.  What remains
are problems of values, of variables, and of patterns that are computed.
-/

namespace EditGuard

/-! ## Functions and operators -/

namespace Function

theorem isOfValues_of_inRanges {address : Option Address} {i : Nat} {values : List Value}
    {refusal : Refusal} (refused : inRanges address i values = .error refusal) :
    refusal.problem.isOfValues := by
  induction values generalizing i with
  | nil => cases refused
  | cons v vs ih =>
      unfold inRanges at refused
      split at refused
      · cases refused
        rfl
      · cases later : inRanges address (i + 1) vs with
        | ok b =>
            rw [later] at refused
            cases refused
        | error other =>
            rw [later] at refused
            cases refused
            exact ih later

theorem isOfValues_of_addressInRanges {args : List Value} {refusal : Refusal}
    (refused : addressInRanges args = .error refusal) : refusal.problem.isOfValues := by
  unfold addressInRanges at refused
  dsimp only at refused
  cases later : inRanges (Address.Range.address? (textArg args 0).toList) 1 args.tail with
  | ok b =>
      rw [later] at refused
      cases refused
  | error other =>
      rw [later] at refused
      cases refused
      exact isOfValues_of_inRanges later

/-- A function refuses a value, or a pattern that cannot be read. -/
theorem refusal_of_apply {name : String} {count : Nat} {body : Body} {values : List Value}
    {patterns : Pattern.Cache} {refusal : Refusal} (found : find name count = .ok body)
    (refused : body.apply values patterns = .error refusal) :
    refusal.problem.isOfValues ∨
      ∃ e, body.pattern? = some refusal.argument ∧ refusal.argument < count ∧
        patterns.get (textArg values refusal.argument) false = .error e ∧
        refusal.problem = badPattern (textArg values refusal.argument) e := by
  obtain ⟨f, member, enough, -, rfl⟩ := find_eq_ok found
  cases same : f.body count with
  | total g =>
      rw [same] at refused
      cases refused
  | setter =>
      rw [same] at refused
      cases refused
  | checked g =>
      rw [same, eq_of_checked _ member count g same] at refused
      cases applied : addressInRanges values with
      | ok v =>
          simp only [Body.apply, applied] at refused
          cases refused
      | error other =>
          simp only [Body.apply, applied] at refused
          cases refused
          exact .inl (isOfValues_of_addressInRanges applied)
  | withPattern i g =>
      have inside := place_lt_least _ member count i g same
      rw [same] at refused
      unfold Body.apply at refused
      dsimp only at refused
      split at refused
      · rename_i e got
        cases refused
        exact .inr ⟨e, rfl, Nat.lt_of_lt_of_le inside enough, got, rfl⟩
      · cases refused

/-- A keyword operator refuses only a pattern that cannot be read. -/
theorem refusal_of_applyKeyword {op : Rule.KeywordOp} {left right : Value}
    {patterns : Pattern.Cache} {p : Rule.Problem}
    (refused : applyKeyword op left right patterns = .error p) :
    ∃ insensitive e, patternCase? op = some insensitive ∧
      patterns.get right.toText insensitive = .error e ∧ p = badPattern right.toText e := by
  cases op with
  | within | contains | like => cases refused
  | rlike | irlike =>
      simp only [applyKeyword] at refused
      split at refused
      · rename_i e got
        cases refused
        exact ⟨_, e, rfl, got, rfl⟩
      · cases refused

end Function

namespace Rule

open Variable (Host)
open Eval

/-! ## Findings with a reason -/

/-- A problem of a call or of the target of an assignment, which a check finds. -/
def Problem.isMisuse : Problem → Bool
  | unknownFunction _ | noArguments _ | notEnoughArguments _ _ _ | tooManyArguments _ _ _
  | nameNotLiteral | overridesBuiltin _ => true
  | _ => false

/-- The findings that an expression may raise although it was checked. -/
inductive Justified (e : Rule) : Finding → Prop
  | values {p span} (ofValues : p.isOfValues) : Justified e ⟨p, span⟩
  | unrecognised {x span} : Justified e ⟨.unrecognisedVariable x, span⟩
  | disabled {x span} : Justified e ⟨.disabledVariable x, span⟩
  | pattern {explanation text pattern insensitive} (matching : HasPattern e pattern insensitive)
      (computed : pattern.literalText? = none) :
      Justified e ⟨.badPattern explanation text, pattern.mark⟩

theorem Justified.operand {e d : Rule} {f : Finding} (member : d ∈ e.operands)
    (justified : Justified d f) : Justified e f := by
  cases justified with
  | values ofValues => exact .values ofValues
  | unrecognised => exact .unrecognised
  | disabled => exact .disabled
  | pattern matching computed => exact .pattern (.operand member matching) computed

theorem Justified.isMisuse_eq_false {e : Rule} {f : Finding} (justified : Justified e f) :
    f.problem.isMisuse = false := by
  cases justified with
  | @values p span ofValues => cases p <;> simp_all [Problem.isOfValues, Problem.isMisuse]
  | _ => rfl

/-- The findings that a computation raises are those that an expression may raise. -/
def Justifies {α : Type} (e : Rule) (x : Eval α) : Prop :=
  ∀ s, Ends x s (fun _ _ => True) fun f _ => Justified e f

section Steps

variable {e : Rule} {α β : Type}

theorem justifies_pure (a : α) : Justifies e (pure a) :=
  fun _ => trivial

theorem Justifies.bind {x : Eval α} {f : α → Eval β} (first : Justifies e x)
    (second : ∀ a s t, x.run.run s = (.ok a, t) → Justifies e (f a)) :
    Justifies e (x >>= f) :=
  fun s => (first s).bind fun a t ran _ => second a s t ran t

theorem justifies_count : Justifies e count :=
  fun _ => ends_count.mono (fun _ _ _ _ => trivial) fun _ _ impossible => impossible

theorem justifies_require {span : Span} {outcome : Except Problem α}
    (ofValues : ∀ p, outcome = .error p → p.isOfValues) : Justifies e (require span outcome) :=
  fun _ => ends_require (fun _ _ => trivial) fun p failed => .values (ofValues p failed)

theorem Justifies.operand {d : Rule} {x : Eval α} (justifies : Justifies d x)
    (member : d ∈ e.operands := by simp [Expr.operands]) : Justifies e x :=
  fun s => (justifies s).mono (fun _ _ _ _ => trivial) fun _ _ justified => justified.operand member

end Steps

/-! ## Evaluating an expression that fits -/

/-- A literal text has its text as value. -/
theorem eval_of_literalText {host : Host} {e : Rule} {text : String}
    (literal : e.literalText? = some text) : eval host e = pure (.text text) := by
  unfold Expr.literalText? at literal
  split at literal
  · cases literal
    rfl
  · cases literal

/-- Among the values of several expressions, a literal text has its own. -/
theorem getElem?_of_evalAll {host : Host} {es : List Rule} {s t : State} {values : List Value}
    (ran : (evalAll host es).run.run s = (.ok values, t)) {i : Nat} {e : Rule} {text : String}
    (given : es[i]? = some e) (literal : e.literalText? = some text) :
    values[i]? = some (.text text) := by
  induction es generalizing i s values with
  | nil => cases given
  | cons d ds ih =>
      obtain ⟨v, u, first, ran⟩ := exists_of_run_bind_eq_ok ran
      obtain ⟨vs, _, more, ran⟩ := exists_of_run_bind_eq_ok ran
      cases ran
      cases i with
      | zero =>
          cases given
          rw [eval_of_literalText literal] at first
          cases first
          rfl
      | succ i => exact ih more given

/-- A pattern that cannot be read is no literal text of an expression that fits. -/
theorem not_error_of_readable {pattern : Rule} {text : String} {insensitive : Bool}
    {patterns : Pattern.Cache} {error : Pattern.PatternError}
    (readable : Readable pattern insensitive) (literal : pattern.literalText? = some text) :
    patterns.get text insensitive ≠ .error error := by
  intro failed
  obtain ⟨p, parsed⟩ := readable text literal
  obtain ⟨q, kept, got⟩ := Pattern.Cache.exists_get_of_parse parsed patterns
  rw [got] at failed
  cases failed

theorem justifies_keyword {host : Host} {span : Span} {op : KeywordOp} {l r : Rule}
    (readable : ∀ insensitive, Function.patternCase? op = some insensitive →
      Readable r insensitive) (a b : Value) {s t : State}
    (rightRan : (eval host r).run.run s = (.ok b, t)) :
    Justifies (.keyword span op l r) (applyKeyword r.mark op a b) := by
  intro u
  apply ends_applyKeyword
  · exact fun _ _ _ => trivial
  · intro p refused
    obtain ⟨insensitive, error, matching, failed, rfl⟩ :=
      Function.refusal_of_applyKeyword refused
    apply Justified.pattern (.keyword matching)
    cases literal : r.literalText? with
    | none => rfl
    | some text =>
        rw [eval_of_literalText literal] at rightRan
        cases rightRan
        exact absurd failed (not_error_of_readable (readable insensitive matching) literal)

theorem justifies_apply {host : Host} {span : Span} {f : String} {args : List Rule}
    {body : Function.Body} (found : Function.find f args.length = .ok body)
    (readable : ∀ i e, body.pattern? = some i → args[i]? = some e → Readable e false)
    {values : List Value} {s t : State}
    (argsRan : (evalAll host args).run.run s = (.ok values, t)) :
    Justifies (.call span f args) (apply span args body values) := by
  intro u
  apply ends_apply
  · exact fun _ _ _ => trivial
  · intro refusal refused
    rcases Function.refusal_of_apply found refused with
      ofValues | ⟨error, place, inside, failed, same⟩
    · exact .values ofValues
    · have given : args[refusal.argument]? = some args[refusal.argument] :=
        List.getElem?_eq_getElem inside
      have here : argumentSpan args span refusal.argument = args[refusal.argument].mark := by
        rw [argumentSpan, given]
        rfl
      rw [same, here]
      apply Justified.pattern (.argument found place given)
      cases literal : args[refusal.argument].literalText? with
      | none => rfl
      | some text =>
          rw [Function.textArg, getElem?_of_evalAll argsRan given literal] at failed
          exact absurd failed (not_error_of_readable (readable _ _ place given) literal)

mutual

/-- An expression that fits raises only findings with a reason. -/
theorem justifies_eval (host : Host) : ∀ e : Rule, Fits e → Justifies e (eval host e)
  | .literal _ _, _ => justifies_pure _
  | .var span name, _ => fun s =>
      ends_readVariable (fun _ _ _ => trivial) (fun _ _ => .disabled) fun _ _ => .unrecognised
  | .list _ items, .list fit =>
      .bind (justifies_evalAll host items fit fun _ member => member) fun _ _ _ _ =>
        justifies_pure _
  | .unary _ _ operand, .unary fits =>
      (justifies_eval host operand fits).operand.bind
        fun _ _ _ _ => justifies_require fun _ => UnaryOp.isOfValues_of_apply
  | .arith _ _ left right, .arith leftFits rightFits =>
      (justifies_eval host left leftFits).operand.bind
        fun _ _ _ _ =>
          (justifies_eval host right rightFits).operand.bind
            fun _ _ _ _ => justifies_require fun _ => ArithOp.isOfValues_of_apply
  | .compare _ _ left right, .compare leftFits rightFits =>
      justifies_count.bind fun _ _ _ _ =>
        (justifies_eval host left leftFits).operand.bind
          fun _ _ _ _ =>
            (justifies_eval host right rightFits).operand.bind
              fun _ _ _ _ => justifies_pure _
  | .logic _ op left right, .logic leftFits rightFits => by
      apply justifies_count.bind
      intro _ _ _ _
      apply (justifies_eval host left leftFits).operand.bind
      intro a _ _ _
      cases op.decided? a with
      | some b => exact justifies_pure _
      | none =>
          apply (justifies_eval host right rightFits).operand.bind
          intro _ _ _ _
          exact justifies_pure _
  | .keyword _ _ left right, .keyword leftFits rightFits readable => by
      apply justifies_count.bind
      intro _ _ _ _
      apply (justifies_eval host left leftFits).operand.bind
      intro _ _ _ _
      apply (justifies_eval host right rightFits).operand.bind
      intro _ _ _ rightRan
      exact justifies_keyword readable _ _ rightRan
  | .conditional _ condition yes no, .conditional conditionFits yesFits noFits => by
      apply justifies_count.bind
      intro _ _ _ _
      apply (justifies_eval host condition conditionFits).operand.bind
      intro c _ _ _
      split
      · exact justifies_pure _
      · split
        · exact (justifies_eval host yes yesFits).operand
        · apply justifies_evalBranch host no noFits
          intro e member
          simp [Expr.operands, Option.mem_def.mp member]
  | .call _ _ args, .call found ordinary argsFit readable => by
      rw [eval_call found ordinary]
      apply justifies_count.bind
      intro _ _ _ _
      refine .bind (justifies_evalAll host args argsFit fun _ member => member) ?_
      intro _ _ _ argsRan
      exact justifies_apply found readable argsRan
  | .call _ _ [_, value], .setter found literal isLocal valueFits => by
      rw [eval_setter found literal isLocal]
      apply justifies_count.bind
      intro _ _ _ _
      apply (justifies_eval host value valueFits).operand.bind
      intro _ _ _ _ _
      trivial
  | .index _ base position, .index baseFits positionFits => by
      apply (justifies_eval host base baseFits).operand.bind
      intro v _ _ _
      apply (justifies_eval host position positionFits).operand.bind
      intro i _ _ _
      split
      · exact justifies_pure _
      · split
        · exact justifies_require fun _ => isOfValues_of_itemAt
        · exact fun _ => .values rfl
  | .assign _ _ value, .assign isLocal valueFits => by
      rw [eval_assign isLocal]
      apply (justifies_eval host value valueFits).operand.bind
      intro _ _ _ _ _
      trivial
  | .indexAssign span name position value, .indexAssign isLocal positionFits valueFits => by
      rw [eval_assignItem isLocal]
      apply Justifies.bind
      · exact fun _ => trivial
      · intro current _ _ _
        cases current with
        | none => exact fun _ => .unrecognised
        | some current =>
            apply (justifies_evalIndex host position positionFits ?_).bind
            · intro index _ _ _
              apply (justifies_eval host value valueFits).operand.bind
              intro v _ _ _ s
              exact ends_assignItem (fun _ => trivial) (fun _ _ _ _ => trivial)
                fun _ _ ofValues => .values ofValues
            · intro e member
              simp [Expr.operands, Option.mem_def.mp member]
  | .sequence _ statements, .sequence fit =>
      justifies_evalSequence host .null statements fit fun _ member => member

theorem justifies_evalAll (host : Host) {e : Rule} : ∀ es : List Rule, (∀ d ∈ es, Fits d) →
    (∀ d ∈ es, d ∈ e.operands) → Justifies e (evalAll host es)
  | [], _, _ => justifies_pure _
  | d :: ds, fit, operands =>
      ((justifies_eval host d (fit d List.mem_cons_self)).operand
        (operands d List.mem_cons_self)).bind fun _ _ _ _ =>
          (justifies_evalAll host ds (fun _ member => fit _ (List.mem_cons_of_mem _ member))
            fun _ member => operands _ (List.mem_cons_of_mem _ member)).bind fun _ _ _ _ =>
              justifies_pure _

theorem justifies_evalSequence (host : Host) {e : Rule} : ∀ (last : Value) (es : List Rule),
    (∀ d ∈ es, Fits d) → (∀ d ∈ es, d ∈ e.operands) →
      Justifies e (evalSequence host last es)
  | _, [], _, _ => justifies_pure _
  | _, d :: ds, fit, operands =>
      ((justifies_eval host d (fit d List.mem_cons_self)).operand
        (operands d List.mem_cons_self)).bind fun v _ _ _ =>
          justifies_evalSequence host v ds
            (fun _ member => fit _ (List.mem_cons_of_mem _ member))
            fun _ member => operands _ (List.mem_cons_of_mem _ member)

theorem justifies_evalBranch (host : Host) {e : Rule} : ∀ d : Option Rule, (∀ c ∈ d, Fits c) →
    (∀ c ∈ d, c ∈ e.operands) → Justifies e (evalBranch host d)
  | none, _, _ => justifies_pure _
  | some d, fits, operand => (justifies_eval host d (fits d rfl)).operand (operand d rfl)

theorem justifies_evalIndex (host : Host) {e : Rule} : ∀ d : Option Rule, (∀ c ∈ d, Fits c) →
    (∀ c ∈ d, c ∈ e.operands) → Justifies e (evalIndex host d)
  | none, _, _ => justifies_pure _
  | some d, fits, operand =>
      ((justifies_eval host d (fits d rfl)).operand (operand d rfl)).bind fun _ _ _ _ =>
        justifies_pure _

end

/-! ## Checked rules -/

/-- What a successful check of a text promises: the text is a rule, a cache of patterns gives
a pattern for each of its literal patterns, and whatever the evaluation finds wrong is no
misuse of a function or variable, and a bad pattern only where the pattern is computed. -/
theorem evaluate_of_check {source : Source} {warnings : List Warning}
    (accepted : source.check = .ok warnings) :
    ∃ rule, source.parse = .ok rule ∧
      (∀ pattern insensitive text, HasPattern rule pattern insensitive →
        pattern.literalText? = some text → ∀ patterns : Pattern.Cache,
          ∃ p kept, patterns.get text insensitive = .ok (p, kept)) ∧
      ∀ (host : Host) (s t : State) (f : Finding),
        (evaluate host rule).run.run s = (.error (.finding f), t) →
          f.problem.isMisuse = false ∧
            ∀ explanation text, f.problem = .badPattern explanation text →
              ∃ pattern insensitive, HasPattern rule pattern insensitive ∧
                pattern.literalText? = none ∧ f.span = pattern.mark := by
  obtain ⟨rule, parsed, checked⟩ := exists_of_bind_eq_ok accepted
  obtain ⟨⟨⟨⟩, c⟩, visited, -⟩ := exists_of_bind_eq_ok checked
  obtain ⟨fits, -⟩ := fits_of_visit rule visited (Pattern.Cache.sound_empty _)
  refine ⟨rule, parsed, ?_, ?_⟩
  · intro pattern insensitive text matching literal patterns
    obtain ⟨p, read⟩ := matching.readable fits text literal
    exact Pattern.Cache.exists_get_of_parse read patterns
  · intro host s t f ran
    have justified : Justified rule f :=
      (ends_iff.mp (justifies_eval host rule fits { s with locals := .empty })).2 f t ran
    refine ⟨justified.isMisuse_eq_false, ?_⟩
    intro explanation text bad
    cases justified with
    | values ofValues =>
        subst bad
        cases ofValues
    | unrecognised | disabled => cases bad
    | pattern matching computed => exact ⟨_, _, matching, computed, rfl⟩

/-- A rule with a literal pattern in an operation and with a computed one in a call. -/
def twoPatterns : Source :=
  ⟨"two patterns", "x := \"a+\"; page_title rlike \"a\" & rcount(x, page_title) > 0"⟩

theorem evaluate_of_check_twoPatterns :
    ∃ warnings rule, twoPatterns.check = .ok warnings ∧ twoPatterns.parse = .ok rule ∧
      ∀ (host : Host) (s t : State) (f : Finding),
        (evaluate host rule).run.run s = (.error (.finding f), t) →
          f.problem.isMisuse = false := by
  have accepted : twoPatterns.check.toOption.isSome := by decide +kernel
  obtain ⟨warnings, checked⟩ := exists_ok_of_isSome accepted
  obtain ⟨rule, parsed, -, justified⟩ := evaluate_of_check checked
  exact ⟨warnings, rule, checked, parsed, fun host s t f ran => (justified host s t f ran).1⟩

end Rule

end EditGuard
